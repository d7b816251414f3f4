import VapeCommerce.Lib.Paging
import VapeCommerce.Operations.InventoryRows

set_option autoImplicit false

-- The totals of the inventory against the rows on all its pages.
namespace VapeCommerce.Operations.InventoryTotals

open VapeCommerce.Lib VapeCommerce.Lib.Outcome VapeCommerce.Schema VapeCommerce.Operations.Inventory
open VapeCommerce.Operations.InventoryRows
open VapeCommerce.Lib.Doubles (plus minus size sizes maxSafe)
open VapeCommerce.Lib.Tally (upsert tally groupBy Separates)
open VapeCommerce.Catalog (ProductType)
open VapeCommerce.Money (isSafeInteger)

section Report

inductive StockStatus where
  | invariantBreach
  | outOfStock
  | lowStock
  | inStock
deriving DecidableEq, Repr

def stockStatus (remaining threshold : Int) : StockStatus :=
  if remaining < 0 then .invariantBreach
  else if remaining = 0 then .outOfStock
  else if remaining <= threshold then .lowStock
  else .inStock

inductive Locale where
  | fr
  | ar
deriving DecidableEq, Repr

structure InventoryRow extends StockTotals where
  id : Id
  productId : Id
  sku : Text
  name : Text
  productName : Text
  variantName : Text
  brand : Option Brand
  brandName : Option Text
  productType : ProductType
  flavor : Option Text
  availableQuantity : Int
  lowStockThreshold : Int
  status : StockStatus
deriving DecidableEq, Repr

def inventoryRow (locale : Locale) (record : InventoryVariantRecord) : InventoryRow :=
  let stock := stockProjection record
  let productName := match locale with
    | .ar => record.product.nameAr
    | .fr => record.product.nameFr
  let variantName := match locale with
    | .ar => record.variant.nameAr
    | .fr => record.variant.nameFr
  { toStockTotals := stock
    id := record.variant.id
    productId := record.product.id
    sku := record.variant.sku
    name := productName ++ [' ', '/', ' '] ++ variantName
    productName
    variantName
    brand := record.brand
    brandName := record.brand.map (·.name)
    productType := record.product.productType
    flavor := inventoryFlavor record
    availableQuantity := stock.remainingQuantity
    lowStockThreshold := record.variant.lowStockThreshold
    status := stockStatus stock.remainingQuantity record.variant.lowStockThreshold }

-- The columns that a list of totals is by, and their totals.
structure Totals (A : Type) extends StockTotals where
  shown : A
deriving DecidableEq, Repr

structure BrandColumns where
  brandId : Option Text
  brandName : Option Text
deriving DecidableEq, Repr

structure BrandFlavorColumns extends BrandColumns where
  flavor : Option Text
deriving DecidableEq, Repr

abbrev BrandTotals := Totals BrandColumns
abbrev ProductTypeTotals := Totals ProductType
abbrev FlavorTotals := Totals (Option Text)
abbrev BrandFlavorTotals := Totals BrandFlavorColumns

def toSafeInteger (value : Int) : Except Failure Int := do
  throwIf (Not (isSafeInteger value)) (unavailable "OPERATIONAL_TOTAL_OUT_OF_RANGE")
  return value

section Groups

variable {A K : Type} [DecidableEq K]

def Totals.create (shown : A) : Totals A where
  shown := shown
  onHandQuantity := 0
  reservedQuantity := 0
  remainingQuantity := 0

def Totals.add (onHandQuantity reservedQuantity : Int) (group : Totals A) : Totals A :=
  { group with
    onHandQuantity := plus group.onHandQuantity onHandQuantity
    reservedQuantity := plus group.reservedQuantity reservedQuantity
    remainingQuantity := plus group.remainingQuantity (minus onHandQuantity reservedQuantity) }

def addTotals (groups : List (K × Totals A)) (key : K) (shown : A) (onHandQuantity reservedQuantity : Int) :
    List (K × Totals A) :=
  upsert key (.create shown) (.add onHandQuantity reservedQuantity) groups

end Groups

def unbranded : Text :=
  ['_', '_', 'u', 'n', 'b', 'r', 'a', 'n', 'd', 'e', 'd', '_', '_']

def unspecified : Text :=
  ['_', '_', 'u', 'n', 's', 'p', 'e', 'c', 'i', 'f', 'i', 'e', 'd', '_', '_']

def brandKey (brandId : Option Text) : Text := brandId.getD unbranded

def flavorKey (flavor : Option Text) : Text := flavor.getD unspecified

def brandFlavorKey (brandId flavor : Option Text) : Text :=
  brandKey brandId ++ Char.ofNat 0 :: flavorKey flavor

def brandColumns (row : InventoryGroup) : BrandColumns where
  brandId := row.brandId
  brandName := row.brandName

def brandFlavorColumns (row : InventoryGroup) : BrandFlavorColumns where
  toBrandColumns := brandColumns row
  flavor := row.flavor

structure GroupMaps where
  byBrand : List (Text × BrandTotals)
  byProductType : List (ProductType × ProductTypeTotals)
  byFlavor : List (Text × FlavorTotals)
  byBrandAndFlavor : List (Text × BrandFlavorTotals)

def GroupMaps.empty : GroupMaps where
  byBrand := []
  byProductType := []
  byFlavor := []
  byBrandAndFlavor := []

def addRow (maps : GroupMaps) (row : InventoryAggregateRow) : Except Failure GroupMaps := do
  let onHandQuantity <- toSafeInteger row.onHandQuantity
  let reservedQuantity <- toSafeInteger row.reservedQuantity
  return {
    byBrand := addTotals maps.byBrand (brandKey row.brandId) (brandColumns row.toInventoryGroup)
      onHandQuantity reservedQuantity
    byProductType := addTotals maps.byProductType row.productType row.productType onHandQuantity reservedQuantity
    byFlavor := addTotals maps.byFlavor (flavorKey row.flavor) row.flavor onHandQuantity reservedQuantity
    byBrandAndFlavor := addTotals maps.byBrandAndFlavor (brandFlavorKey row.brandId row.flavor)
      (brandFlavorColumns row.toInventoryGroup) onHandQuantity reservedQuantity }

structure Grouping where
  byBrand : List BrandTotals
  byProductType : List ProductTypeTotals
  byFlavor : List FlavorTotals
  byBrandAndFlavor : List BrandFlavorTotals
deriving DecidableEq, Repr

-- How the database orders the rows of the aggregate, and how the server compares texts.
structure Collation where
  orderBy : List InventoryAggregateRow -> List InventoryAggregateRow
  orders : forall rows, (orderBy rows).Perm rows
  localeCompare : Text -> Text -> Int
  typeName : ProductType -> Text

variable (collation : Collation)

def Collation.byText {A : Type} (text : A -> Text) (left right : A) : Int :=
  collation.localeCompare (text left) (text right)

-- `sort` keeps the order of what compares equal.
def sorted {A : Type} (compare : A -> A -> Int) (totals : List A) : List A :=
  totals.insertionSort fun left right => compare left right <= 0

def compareBrandFlavor (left right : BrandFlavorTotals) : Int :=
  let brandOrder := collation.byText (fun total : BrandFlavorTotals => total.shown.brandName.getD []) left right
  if brandOrder ≠ 0 then brandOrder
  else collation.byText (fun total : BrandFlavorTotals => total.shown.flavor.getD []) left right

def inventoryGroups (rows : List InventoryAggregateRow) : Except Failure Grouping := do
  let maps <- rows.foldlM addRow .empty
  return {
    byBrand := sorted (collation.byText fun total => total.shown.brandName.getD []) (maps.byBrand.map Prod.snd)
    byProductType := sorted (collation.byText fun total => collation.typeName total.shown)
      (maps.byProductType.map Prod.snd)
    byFlavor := sorted (collation.byText fun total => total.shown.getD []) (maps.byFlavor.map Prod.snd)
    byBrandAndFlavor := sorted (compareBrandFlavor collation) (maps.byBrandAndFlavor.map Prod.snd) }

def inventoryGroupLimit : Nat := 5000

def listedBefore (left right : InventoryVariantRecord) : Prop :=
  right.variant.updatedAt < left.variant.updatedAt \/
    (left.variant.updatedAt = right.variant.updatedAt /\ left.variant.id <= right.variant.id)

instance : DecidableRel listedBefore := fun _ _ => inferInstanceAs (Decidable (_ \/ _))

structure InventoryReport where
  items : List InventoryRow
  page : Nat
  pageSize : Nat
  total : Nat
  totalPages : Nat
  grouping : Grouping

variable (store : Store) (query : AdminInventoryQuery) (asOf : Int) (locale : Locale)

def findMany : List InventoryVariantRecord :=
  Paging.page ((matching store query asOf).insertionSort listedBefore) query.limit (query.page - 1)

def inventory : Except Failure InventoryReport := do
  let aggregateRows := (collation.orderBy (inventoryGroupSql store query asOf)).take (inventoryGroupLimit + 1)
  throwIf (aggregateRows.length > inventoryGroupLimit) (unavailable "INVENTORY_GROUPING_TOO_LARGE")
  let grouping <- inventoryGroups collation aggregateRows
  let total := (matching store query asOf).length
  return {
    items := (findMany store query asOf).map (inventoryRow locale)
    page := query.page
    pageSize := query.limit
    total
    totalPages := Paging.pageCount total query.limit
    grouping }

end Report

section Statement

variable (store : Store) (query : AdminInventoryQuery) (asOf : Int) (locale : Locale)

def onPage (index : Nat) : AdminInventoryQuery :=
  { query with page := index + 1, paged := Nat.succ_pos index }

-- The rows of all pages.
def listedRows : List InventoryRow :=
  (List.range (Paging.pageCount (matching store query asOf).length query.limit)).flatMap fun index =>
    (findMany store (onPage query index) asOf).map (inventoryRow locale)

-- One total for each shown value, which sums the rows that show it.
structure TotalsOf {A : Type} [DecidableEq A] (rows : List InventoryRow) (shown : InventoryRow -> A)
    (totals : List (Totals A)) : Prop where
  once : (totals.map (·.shown)).Nodup
  complete : forall value, value ∈ totals.map (·.shown) <-> value ∈ rows.map shown
  onHand : forall total, total ∈ totals -> total.onHandQuantity =
    ((rows.filter fun row => shown row = total.shown).map (·.onHandQuantity)).sum
  reserved : forall total, total ∈ totals -> total.reservedQuantity =
    ((rows.filter fun row => shown row = total.shown).map (·.reservedQuantity)).sum
  remaining : forall total, total ∈ totals ->
    total.remainingQuantity = total.onHandQuantity - total.reservedQuantity

def rowGroup (row : InventoryRow) : InventoryGroup where
  brandId := row.brand.map (·.id)
  brandName := row.brandName
  productType := row.productType
  flavor := row.flavor

structure Agrees (rows : List InventoryRow) (grouping : Grouping) : Prop where
  brands : TotalsOf rows (fun row => brandColumns (rowGroup row)) grouping.byBrand
  productTypes : TotalsOf rows (·.productType) grouping.byProductType
  flavors : TotalsOf rows (·.flavor) grouping.byFlavor
  brandsAndFlavors : TotalsOf rows (fun row => brandFlavorColumns (rowGroup row)) grouping.byBrandAndFlavor

-- Among the matching variants no brand and no flavor is written like its absence, and no two pairs
-- of a brand and a flavor are written alike.
structure ToldApart (records : List InventoryVariantRecord) : Prop where
  brands : forall left, left ∈ records -> forall right, right ∈ records ->
    left.brand = none -> right.brand.map (·.id) ≠ some unbranded
  flavors : forall left, left ∈ records -> forall right, right ∈ records ->
    inventoryFlavor left = none -> inventoryFlavor right ≠ some unspecified
  brandsAndFlavors : forall left, left ∈ records -> forall right, right ∈ records ->
    brandFlavorKey (left.brand.map (·.id)) (inventoryFlavor left) =
        brandFlavorKey (right.brand.map (·.id)) (inventoryFlavor right) ->
      left.brand.map (·.id) = right.brand.map (·.id) /\ inventoryFlavor left = inventoryFlavor right

def weight (record : InventoryVariantRecord) : Int :=
  (record.inventoryItems.map fun item => size item.onHandQuantity + sizes item.reservations).sum

-- All the stock and reservations of the matching variants come to a safe integer.
def Countable (records : List InventoryVariantRecord) : Prop :=
  (records.map weight).sum <= maxSafe

instance (records : List InventoryVariantRecord) : Decidable (Countable records) :=
  inferInstanceAs (Decidable (_ <= _))

end Statement

section Listed

variable {store : Store} {query : AdminInventoryQuery} {asOf : Int} {locale : Locale}

theorem listedRows_perm : (listedRows store query asOf locale).Perm
    ((matching store query asOf).map (inventoryRow locale)) := by
  have pages : listedRows store query asOf locale =
      ((matching store query asOf).insertionSort listedBefore).map (inventoryRow locale) := by
    have whole := Paging.pages_whole ((matching store query asOf).insertionSort listedBefore) query.limited.1
    rw [List.length_insertionSort] at whole
    rw [listedRows, <- List.map_flatMap]
    exact congrArg (List.map (inventoryRow locale)) whole
  rw [pages]
  exact (List.perm_insertionSort listedBefore _).map _

theorem sums_nonneg {A : Type} {amount : A -> Int} (least : forall item, 0 <= amount item) (items : List A) :
    0 <= (items.map amount).sum := by
  refine List.sum_nonneg fun value here => ?_
  obtain ⟨item, -, rfl⟩ := List.mem_map.1 here
  exact least item

theorem item_weight_nonneg (item : InventoryItemRecord) :
    0 <= size item.onHandQuantity + sizes item.reservations :=
  Int.add_nonneg (Doubles.size_nonneg _) (Doubles.sizes_nonneg _)

theorem weight_nonneg (record : InventoryVariantRecord) : 0 <= weight record :=
  sums_nonneg item_weight_nonneg _

theorem weight_le {records : List InventoryVariantRecord} (countable : Countable records)
    {record : InventoryVariantRecord} (here : record ∈ records) : weight record <= maxSafe := by
  have member : weight record ∈ records.map weight := List.mem_map_of_mem here
  refine (List.single_le_sum (fun value present => ?_) _ member).trans countable
  obtain ⟨other, -, rfl⟩ := List.mem_map.1 present
  exact weight_nonneg other

theorem size_sum_map {A : Type} (amount : A -> Int) (items : List A) :
    size (items.map amount).sum <= (items.map fun item => size (amount item)).sum := by
  have bound := Doubles.size_sum (items.map amount)
  rwa [sizes, List.map_map] at bound

theorem sizes_onHand (record : InventoryVariantRecord) :
    (record.inventoryItems.map fun item => size item.onHandQuantity).sum <= weight record :=
  List.sum_le_sum fun item _ => by
    have rest := Doubles.sizes_nonneg item.reservations
    omega

theorem sizes_reserved (record : InventoryVariantRecord) :
    (record.inventoryItems.map fun item => size item.reservations.sum).sum <= weight record :=
  List.sum_le_sum fun item _ => by
    have rest := Doubles.size_nonneg item.onHandQuantity
    have bound := Doubles.size_sum item.reservations
    omega

theorem sizes_record (record : InventoryVariantRecord) : size (onHand record) + size (reserved record) <= weight record := by
  have first := size_sum_map (fun item : InventoryItemRecord => item.onHandQuantity) record.inventoryItems
  have second := size_sum_map (fun item : InventoryItemRecord => item.reservations.sum) record.inventoryItems
  have both : (record.inventoryItems.map fun item => size item.onHandQuantity).sum +
      (record.inventoryItems.map fun item => size item.reservations.sum).sum <= weight record := by
    rw [<- List.sum_map_add]
    exact List.sum_le_sum fun item _ => by
      have bound := Doubles.size_sum item.reservations
      omega
  exact (Int.add_le_add first second).trans both

/-- A listed row shows the exact stock of its variant. -/
theorem stockProjection_exact {record : InventoryVariantRecord} (safe : weight record <= maxSafe) :
    stockProjection record = {
      onHandQuantity := onHand record
      reservedQuantity := reserved record
      remainingQuantity := onHand record - reserved record } := by
  have zero : size 0 = 0 := rfl
  have held : record.inventoryItems.foldl (fun total item => plus total item.onHandQuantity) 0 = onHand record := by
    have bound := sizes_onHand record
    have exact := Doubles.foldl_plus (record.inventoryItems.map (·.onHandQuantity)) 0 (by
      rw [sizes, List.map_map]
      exact Int.le_trans (by rw [zero, Int.zero_add]; exact bound) safe)
    rwa [List.foldl_map, Int.zero_add] at exact
  have items : record.inventoryItems.map (fun item => item.reservations.foldl plus 0) =
      record.inventoryItems.map fun item => item.reservations.sum := by
    refine List.map_congr_left fun item here => ?_
    have part : size item.onHandQuantity + sizes item.reservations <= weight record :=
      List.single_le_sum (fun value present => by
        obtain ⟨other, -, rfl⟩ := List.mem_map.1 present
        exact item_weight_nonneg other) _ (List.mem_map_of_mem here)
    have rest := Doubles.size_nonneg item.onHandQuantity
    rw [Doubles.foldl_plus item.reservations 0 (by omega), Int.zero_add]
  have taken : record.inventoryItems.foldl
      (fun total item => plus total (item.reservations.foldl plus 0)) 0 = reserved record := by
    have bound := sizes_reserved record
    have exact := Doubles.foldl_plus (record.inventoryItems.map fun item => item.reservations.sum) 0 (by
      rw [sizes, List.map_map]
      exact Int.le_trans (by rw [zero, Int.zero_add]; exact bound) safe)
    rw [<- items, List.foldl_map, items, Int.zero_add] at exact
    exact exact
  have both := sizes_record record
  rw [stockProjection, held, taken, Doubles.minus_exact (by omega)]

theorem inventoryRow_stock {record : InventoryVariantRecord} (safe : weight record <= maxSafe) :
    (inventoryRow locale record).onHandQuantity = onHand record /\
      (inventoryRow locale record).reservedQuantity = reserved record := by
  have exact := stockProjection_exact safe
  exact ⟨congrArg StockTotals.onHandQuantity exact, congrArg StockTotals.reservedQuantity exact⟩

end Listed

section Aggregate

variable {store : Store} {query : AdminInventoryQuery} {asOf : Int}

def rowWeight (row : InventoryAggregateRow) : Int :=
  size row.onHandQuantity + size row.reservedQuantity

theorem rowWeight_nonneg (row : InventoryAggregateRow) : 0 <= rowWeight row :=
  Int.add_nonneg (Doubles.size_nonneg _) (Doubles.size_nonneg _)

theorem group_weight (records : List InventoryVariantRecord) :
    size (records.map onHand).sum + size (records.map reserved).sum <= (records.map weight).sum := by
  have both : (records.map fun record => size (onHand record)).sum +
      (records.map fun record => size (reserved record)).sum <= (records.map weight).sum := by
    rw [<- List.sum_map_add]
    exact List.sum_le_sum fun record _ => sizes_record record
  exact (Int.add_le_add (size_sum_map onHand records) (size_sum_map reserved records)).trans both

theorem aggregate_weight : ((inventoryGroupSql store query asOf).map rowWeight).sum <=
    ((matching store query asOf).map weight).sum := by
  have grouped := Tally.groupBy_sum shownGroup (matching store query asOf) (fun _ => true) weight
  simp only [List.filter_true] at grouped
  rw [inventoryGroupSql_eq, List.map_map, <- grouped]
  exact List.sum_le_sum fun group _ => group_weight group.2

-- The rows that a condition on their columns keeps sum to the variants whose columns it keeps.
theorem aggregate_sum (kept : InventoryGroup -> Bool) :
    (((inventoryGroupSql store query asOf).filter fun row => kept row.toInventoryGroup).map (·.onHandQuantity)).sum =
        (((matching store query asOf).filter fun record => kept (shownGroup record)).map onHand).sum /\
      (((inventoryGroupSql store query asOf).filter fun row => kept row.toInventoryGroup).map
          (·.reservedQuantity)).sum =
        (((matching store query asOf).filter fun record => kept (shownGroup record)).map reserved).sum := by
  rw [<- Tally.groupBy_sum shownGroup _ kept onHand, <- Tally.groupBy_sum shownGroup _ kept reserved,
    inventoryGroupSql_eq, List.filter_map, List.map_map, List.map_map]
  exact ⟨rfl, rfl⟩

theorem aggregate_columns (group : InventoryGroup) :
    (exists row, row ∈ inventoryGroupSql store query asOf /\ row.toInventoryGroup = group) <->
      exists record, record ∈ matching store query asOf /\ shownGroup record = group := by
  rw [<- Tally.mem_groupBy_keys shownGroup, inventoryGroupSql_eq]
  simp

end Aggregate

-- One of the four lists: a column of the groups, kept under a code.
section Counted

variable {A K : Type} [DecidableEq K] (column : InventoryGroup -> A) (code : A -> K)

def Totals.addRow (row : InventoryAggregateRow) (group : Totals A) : Totals A :=
  group.add row.onHandQuantity row.reservedQuantity

def countedFrom (entries : List (K × Totals A)) (rows : List InventoryAggregateRow) : List (K × Totals A) :=
  tally (fun row => code (column row.toInventoryGroup)) (fun row => .create (column row.toInventoryGroup))
    Totals.addRow entries rows

def counted (rows : List InventoryAggregateRow) : List (K × Totals A) :=
  countedFrom column code [] rows

theorem carried : Tally.Carried (fun row => column row.toInventoryGroup) Totals.shown
    (fun row => .create (column row.toInventoryGroup)) (Totals.addRow (A := A)) where
  created _ := rfl
  kept _ _ := rfl

omit [DecidableEq K] in
theorem addRow_foldl (rows : List InventoryAggregateRow) (group : Totals A) :
    rows.foldl (fun group row => group.addRow row) group = {
      shown := group.shown
      onHandQuantity := (rows.map (·.onHandQuantity)).foldl plus group.onHandQuantity
      reservedQuantity := (rows.map (·.reservedQuantity)).foldl plus group.reservedQuantity
      remainingQuantity := (rows.map fun row => minus row.onHandQuantity row.reservedQuantity).foldl plus
        group.remainingQuantity } := by
  induction rows generalizing group with
  | nil => rfl
  | cons row rest ih => exact ih (group.addRow row)

/-- Counted from nothing, rows of safe weight add up exactly. -/
theorem addRow_exact {rows : List InventoryAggregateRow} (safe : (rows.map rowWeight).sum <= maxSafe) (shown : A) :
    rows.foldl (fun group row => Totals.addRow row group) (.create shown) = {
      shown
      onHandQuantity := (rows.map (·.onHandQuantity)).sum
      reservedQuantity := (rows.map (·.reservedQuantity)).sum
      remainingQuantity := (rows.map (·.onHandQuantity)).sum - (rows.map (·.reservedQuantity)).sum } := by
  have zero : size 0 = 0 := rfl
  have within : forall amount : InventoryAggregateRow -> Int, (forall row, size (amount row) <= rowWeight row) ->
      (rows.map amount).foldl plus 0 = (rows.map amount).sum := by
    intro amount lighter
    have bound : sizes (rows.map amount) <= (rows.map rowWeight).sum := by
      rw [sizes, List.map_map]
      exact List.sum_le_sum fun row _ => lighter row
    rw [Doubles.foldl_plus _ 0 (by omega), Int.zero_add]
  have differences : (rows.map fun row => minus row.onHandQuantity row.reservedQuantity) =
      rows.map fun row => row.onHandQuantity - row.reservedQuantity := by
    refine List.map_congr_left fun row here => Doubles.minus_exact (Int.le_trans ?_ safe)
    exact List.single_le_sum (fun value present => by
      obtain ⟨other, -, rfl⟩ := List.mem_map.1 present
      exact rowWeight_nonneg other) _ (List.mem_map_of_mem here)
  have held := within (·.onHandQuantity) fun row => by
    have rest := Doubles.size_nonneg row.reservedQuantity
    unfold rowWeight
    omega
  have taken := within (·.reservedQuantity) fun row => by
    have rest := Doubles.size_nonneg row.onHandQuantity
    unfold rowWeight
    omega
  have left := within (fun row => row.onHandQuantity - row.reservedQuantity)
    fun row => Doubles.size_sub row.onHandQuantity row.reservedQuantity
  rw [addRow_foldl, differences]
  simp only [Totals.create, held, taken, left, Doubles.sum_map_sub]

end Counted

section One

variable {store : Store} {query : AdminInventoryQuery} {asOf : Int} {locale : Locale}
variable {A K : Type} [DecidableEq A] [DecidableEq K] {column : InventoryGroup -> A} {code : A -> K}
variable {shown : InventoryRow -> A}
variable (same : forall record, shown (inventoryRow locale record) = column (shownGroup record))
variable {rows : List InventoryAggregateRow} (ordered : rows.Perm (inventoryGroupSql store query asOf))
variable {totals : List (Totals A)} (values : totals.Perm ((counted column code rows).map Prod.snd))

def columns (column : InventoryGroup -> A) (records : List InventoryVariantRecord) : List A :=
  records.map fun record => column (shownGroup record)

include ordered in
omit [DecidableEq A] in
theorem row_columns (value : A) : value ∈ rows.map (fun row => column row.toInventoryGroup) <->
    value ∈ columns column (matching store query asOf) := by
  simp only [columns, List.mem_map, ordered.mem_iff]
  constructor
  next =>
    rintro ⟨row, here, rfl⟩
    obtain ⟨record, present, equal⟩ := (aggregate_columns row.toInventoryGroup).1 ⟨row, here, rfl⟩
    exact ⟨record, present, congrArg column equal⟩
  next =>
    rintro ⟨record, present, rfl⟩
    obtain ⟨row, here, equal⟩ := (aggregate_columns (shownGroup record)).2 ⟨record, present, rfl⟩
    exact ⟨row, here, congrArg column equal⟩

include same in
omit [DecidableEq A] in
theorem listed_columns (value : A) : value ∈ (listedRows store query asOf locale).map shown <->
    value ∈ columns column (matching store query asOf) := by
  rw [(listedRows_perm.map shown).mem_iff, List.map_map, columns]
  have shows : shown ∘ inventoryRow locale = fun record => column (shownGroup record) := funext same
  rw [shows]

include same in
theorem listed_sum {amount : InventoryRow -> Int} {quantity : InventoryVariantRecord -> Int}
    (exact : forall record, record ∈ matching store query asOf -> amount (inventoryRow locale record) = quantity record)
    (value : A) : (((listedRows store query asOf locale).filter fun row => shown row = value).map amount).sum =
      (((matching store query asOf).filter fun record => column (shownGroup record) = value).map quantity).sum := by
  rw [((listedRows_perm.filter _).map amount).sum_eq, List.filter_map, List.map_map]
  have filtered : ((matching store query asOf).filter ((fun row => decide (shown row = value)) ∘ inventoryRow locale)) =
      (matching store query asOf).filter fun record => column (shownGroup record) = value :=
    List.filter_congr fun record _ => by rw [Function.comp_apply, same]
  rw [filtered]
  exact congrArg List.sum (List.map_congr_left fun record here => exact record (List.mem_filter.1 here).1)

include same ordered values in
theorem separates_of_totals (agrees : TotalsOf (listedRows store query asOf locale) shown totals) :
    Separates code (columns column (matching store query asOf)) := by
  have all : forall row, row ∈ rows -> exists entry, entry ∈ counted column code rows /\
      entry.2.shown = column row.toInventoryGroup := by
    intro row here
    have listed : column row.toInventoryGroup ∈ (listedRows store query asOf locale).map shown :=
      (listed_columns same _).2 ((row_columns ordered _).1 (List.mem_map_of_mem (f := fun row => column row.toInventoryGroup) here))
    obtain ⟨total, present, equal⟩ := List.mem_map.1 ((agrees.complete _).2 listed)
    obtain ⟨entry, counted, rfl⟩ := List.mem_map.1 (values.mem_iff.1 present)
    exact ⟨entry, counted, equal⟩
  have separates := Tally.separates_of_shown (carried column) all
  intro left left_here right right_here
  exact separates left ((row_columns ordered left).2 left_here) right ((row_columns ordered right).2 right_here)

include same ordered values in
/-- Where no two shown values share a code, each has a total of its own, exact for safe stock. -/
theorem totals_of_separates (separates : Separates code (columns column (matching store query asOf)))
    (countable : Countable (matching store query asOf)) :
    TotalsOf (listedRows store query asOf locale) shown totals := by
  have apart : Separates code (rows.map fun row => column row.toInventoryGroup) := fun left left_here right right_here =>
    separates left ((row_columns ordered left).1 left_here) right ((row_columns ordered right).1 right_here)
  have heavy : (rows.map rowWeight).sum <= maxSafe := by
    rw [(ordered.map rowWeight).sum_eq]
    exact aggregate_weight.trans countable
  have made : forall total, total ∈ totals ->
      total.onHandQuantity = ((rows.filter fun row => column row.toInventoryGroup = total.shown).map
          (·.onHandQuantity)).sum /\
        total.reservedQuantity = ((rows.filter fun row => column row.toInventoryGroup = total.shown).map
          (·.reservedQuantity)).sum /\
        total.remainingQuantity = total.onHandQuantity - total.reservedQuantity := by
    intro total here
    obtain ⟨entry, present, rfl⟩ := List.mem_map.1 (values.mem_iff.1 here)
    obtain ⟨first, -, folded⟩ := Tally.coded_rows (carried column) apart present
    have light : ((rows.filter fun row => column row.toInventoryGroup = entry.2.shown).map rowWeight).sum <= maxSafe :=
      (List.Sublist.sum_le_sum (List.Sublist.map _ List.filter_sublist) fun value there => by
        obtain ⟨row, -, rfl⟩ := List.mem_map.1 there
        exact rowWeight_nonneg row).trans heavy
    rw [addRow_exact light] at folded
    have held := congrArg (fun total => total.onHandQuantity) folded
    have taken := congrArg (fun total => total.reservedQuantity) folded
    have left := congrArg (fun total => total.remainingQuantity) folded
    exact ⟨held.symm, taken.symm, by rw [<- left, <- held, <- taken]⟩
  have summed : forall (value : A) (amount : InventoryAggregateRow -> Int),
      ((rows.filter fun row => column row.toInventoryGroup = value).map amount).sum =
        (((inventoryGroupSql store query asOf).filter fun row => column row.toInventoryGroup = value).map amount).sum :=
    fun value amount => ((ordered.filter _).map amount).sum_eq
  constructor
  next =>
    have distinct : ((counted column code rows).map fun entry => entry.2.shown).Nodup :=
      Tally.coded_distinct (carried column) rows
    rw [(values.map (·.shown)).nodup_iff, List.map_map]
    exact distinct
  next =>
    intro value
    rw [(values.map (·.shown)).mem_iff, List.map_map, listed_columns same, <- row_columns ordered]
    exact Tally.coded_shown (carried column) apart value
  next =>
    intro total here
    have group := @aggregate_sum store query asOf fun group => decide (column group = total.shown)
    rw [listed_sum same (fun record there => (inventoryRow_stock (weight_le countable there)).1), <- group.1]
    exact (made total here).1.trans (summed _ _)
  next =>
    intro total here
    have group := @aggregate_sum store query asOf fun group => decide (column group = total.shown)
    rw [listed_sum same (fun record there => (inventoryRow_stock (weight_le countable there)).2), <- group.2]
    exact (made total here).2.1.trans (summed _ _)
  next => exact fun total here => (made total here).2.2

end One

section Grouped

theorem toSafeInteger_ok {value result : Int} (ran : toSafeInteger value = .ok result) : result = value := by
  simp only [toSafeInteger, bind_ok, throwIf_ok, pure_ok, exists_const] at ran
  exact ran.2.symm

theorem addRow_ok {maps next : GroupMaps} {row : InventoryAggregateRow} (ran : addRow maps row = .ok next) :
    next = {
      byBrand := upsert (brandKey row.brandId) (.create (brandColumns row.toInventoryGroup)) (.addRow row) maps.byBrand
      byProductType := upsert row.productType (.create row.productType) (.addRow row) maps.byProductType
      byFlavor := upsert (flavorKey row.flavor) (.create row.flavor) (.addRow row) maps.byFlavor
      byBrandAndFlavor := upsert (brandFlavorKey row.brandId row.flavor)
        (.create (brandFlavorColumns row.toInventoryGroup)) (.addRow row) maps.byBrandAndFlavor } := by
  simp only [addRow, bind_ok, pure_ok] at ran
  obtain ⟨onHandQuantity, held, reservedQuantity, taken, rfl⟩ := ran
  rw [toSafeInteger_ok held, toSafeInteger_ok taken]
  rfl

theorem addRows {rows : List InventoryAggregateRow} {maps result : GroupMaps}
    (ran : rows.foldlM addRow maps = .ok result) :
    result = {
      byBrand := countedFrom brandColumns (fun shown => brandKey shown.brandId) maps.byBrand rows
      byProductType := countedFrom (·.productType) id maps.byProductType rows
      byFlavor := countedFrom (·.flavor) flavorKey maps.byFlavor rows
      byBrandAndFlavor := countedFrom brandFlavorColumns (fun shown => brandFlavorKey shown.brandId shown.flavor)
        maps.byBrandAndFlavor rows } := by
  induction rows generalizing maps with
  | nil =>
    simp only [List.foldlM_nil, pure_ok] at ran
    exact ran.symm
  | cons row rest ih =>
    simp only [List.foldlM_cons, bind_ok] at ran
    obtain ⟨next, first, later⟩ := ran
    rw [ih later, addRow_ok first]
    rfl

theorem sorted_perm {A : Type} (compare : A -> A -> Int) (totals : List A) : (sorted compare totals).Perm totals :=
  List.perm_insertionSort _ totals

variable {collation : Collation} {store : Store} {query : AdminInventoryQuery} {asOf : Int} {locale : Locale}

structure Returned (rows : List InventoryAggregateRow) (report : InventoryReport) : Prop where
  brands : report.grouping.byBrand.Perm
    ((counted brandColumns (fun shown => brandKey shown.brandId) rows).map Prod.snd)
  productTypes : report.grouping.byProductType.Perm ((counted (·.productType) id rows).map Prod.snd)
  flavors : report.grouping.byFlavor.Perm ((counted (·.flavor) flavorKey rows).map Prod.snd)
  brandsAndFlavors : report.grouping.byBrandAndFlavor.Perm
    ((counted brandFlavorColumns (fun shown => brandFlavorKey shown.brandId shown.flavor) rows).map Prod.snd)

-- A report that is returned has counted every row of the aggregate.
theorem inventory_returned {report : InventoryReport}
    (ran : inventory collation store query asOf locale = .ok report) :
    exists rows, rows.Perm (inventoryGroupSql store query asOf) /\ Returned rows report := by
  simp only [inventory, bind_ok, throwIf_ok, pure_ok, exists_const] at ran
  obtain ⟨few, grouping, grouped, rfl⟩ := ran
  simp only [inventoryGroups, bind_ok, pure_ok] at grouped
  obtain ⟨maps, counting, rfl⟩ := grouped
  have whole : (collation.orderBy (inventoryGroupSql store query asOf)).take (inventoryGroupLimit + 1) =
      collation.orderBy (inventoryGroupSql store query asOf) := by
    rw [List.length_take] at few
    exact List.take_of_length_le (by omega)
  rw [whole] at counting
  rw [addRows counting]
  exact ⟨_, collation.orders _, sorted_perm _ _, sorted_perm _ _, sorted_perm _ _, sorted_perm _ _⟩

end Grouped

section Codes

variable {store : Store} {query : AdminInventoryQuery} {asOf : Int}

theorem getD_separates {sentinel : Text} {left right : Option Text} (apart : left = none -> right ≠ some sentinel)
    (other : right = none -> left ≠ some sentinel) (same : left.getD sentinel = right.getD sentinel) :
    left = right := by
  cases left with
  | none =>
    cases right with
    | none => rfl
    | some text => exact absurd (congrArg some same).symm (apart rfl)
  | some text =>
    cases right with
    | none => exact absurd (congrArg some same) (other rfl)
    | some _ => exact congrArg some same

theorem brand_of_id {left right : InventoryVariantRecord} (left_here : left ∈ matching store query asOf)
    (right_here : right ∈ matching store query asOf) (same : left.brand.map (·.id) = right.brand.map (·.id)) :
    left.brand = right.brand := by
  have read : forall {record : InventoryVariantRecord}, record ∈ matching store query asOf ->
      record.brand = Relational.refer store.brands (record.brand.map (·.id)) := by
    intro record here
    have listed := (List.mem_filter.1 here).1
    rw [brand_referred listed]
    obtain ⟨variant, -, product, -, rfl⟩ := mem_inventoryVariants store asOf listed
    rfl
  rw [read left_here, read right_here, same]

theorem mem_columns {A : Type} {column : InventoryGroup -> A} {records : List InventoryVariantRecord}
    {record : InventoryVariantRecord} (here : record ∈ records) : column (shownGroup record) ∈ columns column records :=
  List.mem_map.2 ⟨record, here, rfl⟩

/-- The codes of the four lists separate what the variants show exactly where these are told apart. -/
theorem toldApart_iff : ToldApart (matching store query asOf) <->
    Separates (fun shown => brandKey shown.brandId) (columns brandColumns (matching store query asOf)) /\
      Separates flavorKey (columns (·.flavor) (matching store query asOf)) /\
      Separates (fun shown => brandFlavorKey shown.brandId shown.flavor)
        (columns brandFlavorColumns (matching store query asOf)) := by
  constructor
  next =>
    intro apart
    refine ⟨fun _ left_here _ right_here same => ?_, fun _ left_here _ right_here same => ?_,
      fun _ left_here _ right_here same => ?_⟩
    next =>
      obtain ⟨left, present, rfl⟩ := List.mem_map.1 left_here
      obtain ⟨right, there, rfl⟩ := List.mem_map.1 right_here
      have ids : left.brand.map (·.id) = right.brand.map (·.id) :=
        getD_separates (fun none => apart.brands left present right there (Option.map_eq_none_iff.1 none))
          (fun none => apart.brands right there left present (Option.map_eq_none_iff.1 none)) same
      have brands := brand_of_id present there ids
      simp only [brandColumns, shownGroup, brands]
    next =>
      obtain ⟨left, present, rfl⟩ := List.mem_map.1 left_here
      obtain ⟨right, there, rfl⟩ := List.mem_map.1 right_here
      exact getD_separates (apart.flavors left present right there) (apart.flavors right there left present) same
    next =>
      obtain ⟨left, present, rfl⟩ := List.mem_map.1 left_here
      obtain ⟨right, there, rfl⟩ := List.mem_map.1 right_here
      obtain ⟨ids, flavors⟩ := apart.brandsAndFlavors left present right there same
      have brands := brand_of_id present there ids
      simp only [brandFlavorColumns, brandColumns, shownGroup, brands, flavors]
  next =>
    rintro ⟨brands, flavors, pairs⟩
    constructor
    next =>
      intro left present right there none named
      have same := brands _ (mem_columns present) _ (mem_columns there)
        (by simp [brandColumns, shownGroup, none, named, brandKey])
      have ids := congrArg BrandColumns.brandId same
      simp [brandColumns, shownGroup, none, named] at ids
    next =>
      intro left present right there none named
      have same := flavors _ (mem_columns present) _ (mem_columns there)
        (by simp [shownGroup, none, named, flavorKey])
      simp [shownGroup, none, named] at same
    next =>
      intro left present right there alike
      have same := pairs _ (mem_columns present) _ (mem_columns there) alike
      exact ⟨congrArg (fun shown => shown.brandId) same, congrArg BrandFlavorColumns.flavor same⟩

theorem separates_id {A : Type} (values : List A) : Separates id values := fun _ _ _ _ same => same

end Codes

section Results

variable {collation : Collation} {store : Store} {query : AdminInventoryQuery} {asOf : Int} {locale : Locale}
variable {report : InventoryReport}

/-- The totals agree with the listed rows only where no two shown values have one key, and there they
do as long as the quantities can be added exactly. -/
theorem inventory_totals_agree (ran : inventory collation store query asOf locale = .ok report) :
    (Agrees (listedRows store query asOf locale) report.grouping -> ToldApart (matching store query asOf)) /\
      (ToldApart (matching store query asOf) -> Countable (matching store query asOf) ->
        Agrees (listedRows store query asOf locale) report.grouping) := by
  obtain ⟨rows, ordered, returned⟩ := inventory_returned ran
  constructor
  next =>
    intro agrees
    refine toldApart_iff.2 ⟨?_, ?_, ?_⟩
    next => exact separates_of_totals (fun _ => rfl) ordered returned.brands agrees.brands
    next => exact separates_of_totals (fun _ => rfl) ordered returned.flavors agrees.flavors
    next => exact separates_of_totals (fun _ => rfl) ordered returned.brandsAndFlavors agrees.brandsAndFlavors
  next =>
    intro apart countable
    obtain ⟨brands, flavors, pairs⟩ := toldApart_iff.1 apart
    constructor
    next => exact totals_of_separates (fun _ => rfl) ordered returned.brands brands countable
    next => exact totals_of_separates (fun _ => rfl) ordered returned.productTypes (separates_id _) countable
    next => exact totals_of_separates (fun _ => rfl) ordered returned.flavors flavors countable
    next => exact totals_of_separates (fun _ => rfl) ordered returned.brandsAndFlavors pairs countable

end Results

section Sample

-- A branded product without a flavor, and an unbranded one of the flavor that is given.
def sampleStore (flavor : Text) (trimmed : trim flavor = flavor) : Store where
  brands := { rows := [{ id := ['b'], name := ['B'], slug := ['b'] }], distinct := by simp }
  flavors := Table.empty
  products := {
    rows := [
      { id := 1, brandId := some ['b'], nameFr := ['u', 'n'], nameAr := ['u', 'n'], slug := ['u', 'n'], sku := none,
        barcode := none, productType := .device, flavor := none, deletedAt := none },
      { id := 2, brandId := none, nameFr := ['d', 'e', 'u', 'x'], nameAr := ['d', 'e', 'u', 'x'],
        slug := ['d', 'e', 'u', 'x'], sku := none, barcode := none, productType := .eLiquid, flavor := some flavor,
        deletedAt := none }]
    distinct := by simp }
  variants := {
    rows := [
      { id := 1, productId := 1, flavorId := none, nameFr := ['v'], nameAr := ['v'], sku := ['v', '1'],
        barcode := none, lowStockThreshold := 2, deletedAt := none, updatedAt := 5 },
      { id := 2, productId := 2, flavorId := none, nameFr := ['w'], nameAr := ['w'], sku := ['w', '1'],
        barcode := none, lowStockThreshold := 2, deletedAt := none, updatedAt := 6 }]
    distinct := by simp }
  batches := {
    rows := [{
      id := 1, variantId := 2, supplierId := none, batchNumber := ['l'], supplierReference := none,
      manufacturedAt := none, expiryDate := some 50, receivedAt := none, archivedAt := none }]
    distinct := by simp }
  items := {
    rows := [
      { id := 1, variantId := 1, locationId := 1, batchId := none, lotKey := none, onHandQuantity := 10, version := 1 },
      { id := 2, variantId := 2, locationId := 1, batchId := some 1, lotKey := some 1, onHandQuantity := 4,
        version := 1 }]
    distinct := by simp }
  reservations := {
    rows := [{
      id := 1, inventoryItemId := 1, quantity := 3, state := .active, orderId := 1, orderItemId := 1,
      expiresAt := 100 }]
    distinct := by simp }
  branded := by simp [Relational.refer, Table.lookup]
  flavored := by simp
  batched := by simp [Relational.refer, Table.lookup]
  flavorsTrimmed := by simp
  productsTrimmed := by simp [trimmed]

def everything : AdminInventoryQuery where
  page := 1
  limit := 20
  q := none
  brand := none
  productType := none
  flavor := none
  paged := Nat.le_refl 1
  limited := by decide

def unordered : Collation where
  orderBy rows := rows
  orders _ := .refl _
  localeCompare _ _ := 0
  typeName _ := []

/-- The flavor that is written like no flavor shares its total. -/
theorem flavors_share_a_total : exists report,
    inventory unordered (sampleStore unspecified (by decide)) everything 10 .fr = .ok report /\
      Not (Agrees (listedRows (sampleStore unspecified (by decide)) everything 10 .fr) report.grouping) := by
  have flavors : ((inventory unordered (sampleStore unspecified (by decide)) everything 10 .fr).toOption.map
      fun report => report.grouping.byFlavor.map (·.shown)) = some [none] := by decide +kernel
  have listed : some unspecified ∈
      (listedRows (sampleStore unspecified (by decide)) everything 10 .fr).map (·.flavor) := by decide +kernel
  cases ran : inventory unordered (sampleStore unspecified (by decide)) everything 10 .fr with
  | error failure => rw [ran] at flavors; cases flavors
  | ok report =>
    rw [ran] at flavors
    have shown : report.grouping.byFlavor.map (·.shown) = [none] := Option.some.inj flavors
    refine ⟨report, rfl, fun agrees => ?_⟩
    have counted := (agrees.flavors.complete _).2 listed
    rw [shown] at counted
    cases List.mem_singleton.1 counted

theorem mint_totals_agree : exists report,
    inventory unordered (sampleStore ['m', 'i', 'n', 't'] (by decide)) everything 10 .fr = .ok report /\
      Agrees (listedRows (sampleStore ['m', 'i', 'n', 't'] (by decide)) everything 10 .fr) report.grouping := by
  have returns : (inventory unordered (sampleStore ['m', 'i', 'n', 't'] (by decide)) everything 10 .fr).isOk = true := by
    decide +kernel
  cases ran : inventory unordered (sampleStore ['m', 'i', 'n', 't'] (by decide)) everything 10 .fr with
  | error failure => rw [ran] at returns; cases returns
  | ok report =>
    refine ⟨report, rfl, (inventory_totals_agree ran).2 ?_ (by decide +kernel)⟩
    exact { brands := by decide +kernel, flavors := by decide +kernel, brandsAndFlavors := by decide +kernel }

end Sample

end VapeCommerce.Operations.InventoryTotals
