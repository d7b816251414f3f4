import VapeCommerce.Operations.Inventory

set_option autoImplicit false

-- The rows of the aggregate are the groups of the listed variants.
namespace VapeCommerce.Operations.InventoryRows

open VapeCommerce.Lib VapeCommerce.Lib.ThreeValued VapeCommerce.Lib.Relational VapeCommerce.Schema
open VapeCommerce.Operations.Inventory
open VapeCommerce.Lib.Doubles (plus minus size sizes maxSafe)
open VapeCommerce.Lib.Tally (groupBy)
open VapeCommerce.Checkout.Catalogue (holds)
open VapeCommerce.Storefront.Listing (collapseSpaces given)

section Texts

theorem dropWhile_fixed {wide narrow : Char -> Bool} (implies : forall char, narrow char = true -> wide char = true)
    {text : Text} (fixed : text.dropWhile wide = text) : text.dropWhile narrow = text := by
  cases text with
  | nil => rfl
  | cons char rest =>
    have stays : wide char ≠ true := by
      intro dropped
      rw [List.dropWhile_cons_of_pos dropped] at fixed
      have shorter := (List.dropWhile_suffix wide (l := rest)).length_le
      rw [fixed, List.length_cons] at shorter
      omega
    exact List.dropWhile_cons_of_neg fun drops => stays (implies char drops)

-- A text that trimming leaves alone starts and ends with no white space.
theorem trimSpaces_fixed {text : Text} (trimmed : trim text = text) : trimSpaces text = text := by
  have implies : forall char, (char == ' ') = true -> isSpace char = true := by
    intro char space
    rw [eq_of_beq space]
    decide
  have front := List.dropWhile_suffix isSpace (l := text)
  have back := List.dropWhile_suffix isSpace (l := (text.dropWhile isSpace).reverse)
  have lengths : (trim text).length <= (text.dropWhile isSpace).length := by
    simpa [trim] using back.length_le
  have whole : text.dropWhile isSpace = text :=
    front.eq_of_length (Nat.le_antisymm front.length_le (by rwa [trimmed] at lengths))
  have reversed : text.reverse.dropWhile isSpace = text.reverse := by
    have same := congrArg List.reverse trimmed
    rwa [trim, whole, List.reverse_reverse] at same
  rw [trimSpaces, dropWhile_fixed implies whole, dropWhile_fixed implies reversed, List.reverse_reverse]

theorem nullIfEmpty_trimmed {text : Text} (trimmed : trim text = text) :
    nullIfEmpty (some (trimSpaces text)) = trimmedOrNull (some text) := by
  rw [trimSpaces_fixed trimmed, trimmedOrNull, Option.map_some, trimmed]
  cases text <;> rfl

theorem locateFrom_pos (search : Text) {position : Nat} (positive : 0 < position) (text : Text) :
    0 < locateFrom search position text <-> search <:+: text := by
  induction text generalizing position with
  | nil => by_cases empty : search = [] <;> simp [locateFrom, empty, positive]
  | cons char rest ih =>
    rw [List.infix_cons_iff, <- List.isPrefixOf_iff_prefix, locateFrom]
    by_cases here : search.isPrefixOf (char :: rest) = true
    next => simp [here, positive]
    next => simp [here, ih (Nat.succ_pos position)]

theorem located_text (search text : Text) : located search (some text) = .ofBool (contains search text) := by
  rw [located, contains, Option.getD_some]
  exact congrArg Truth.ofBool (decide_eq_decide.2 (locateFrom_pos search Nat.one_pos text))

theorem located_option {search : Text} (some : search ≠ []) (text : Option Text) :
    located search text = .ofBool (text.any (contains search)) := by
  cases text with
  | none => simp [located, locate, locateFrom, some]
  | some text => exact located_text search text

theorem normalizeQuery_some {value : Option Text} {search : Text} (given : normalizeQuery value = some search) :
    search ≠ [] := by
  have kept := Option.mem_filter_iff.1 given
  simpa using kept.2

end Texts

section Eligible

variable (store : Store) (asOf : Int)

theorem eligible_kept {item : InventoryItem} (here : item ∈ store.items.rows) :
    (eligibleCondition asOf (item, refer store.batches item.batchId)).kept = eligible store asOf item := by
  cases reference : item.batchId with
  | none => simp [eligibleCondition, eligible, reference, isNull, kept_or]
  | some batchId =>
    obtain ⟨batch, found⟩ := store.batched item here batchId reference
    cases expiry : batch.expiryDate <;>
      simp [eligibleCondition, eligible, reference, found, isNull, expiry, kept_or, kept_and]

def reservationsOf (item : InventoryItem) : List StockReservation :=
  matches? store.reservations.rows fun reservation => equals (some reservation.inventoryItemId) (some item.id)

-- The rows of one item after both joins.
def itemBlock (item : InventoryItem) : List ((InventoryItem × Option ProductBatch) × Option StockReservation) :=
  (padded (reservationsOf store item)).map fun reservation => ((item, refer store.batches item.batchId), reservation)

theorem itemBlock_ne_nil (item : InventoryItem) : itemBlock store item ≠ [] := by
  simp [itemBlock, padded_ne_nil]

theorem itemBlock_item {item : InventoryItem} {row : (InventoryItem × Option ProductBatch) × Option StockReservation}
    (here : row ∈ itemBlock store item) : row.1 = (item, refer store.batches item.batchId) := by
  obtain ⟨reservation, -, rfl⟩ := List.mem_map.1 here
  rfl

theorem itemRows_eq : itemRows store asOf = (store.items.filter (eligible store asOf)).flatMap (itemBlock store) := by
  rw [itemRows, leftJoin_key, leftJoin, List.flatMap_map]
  refine filter_blocks fun item here row member => ?_
  rw [itemBlock_item store member]
  exact eligible_kept store asOf here

theorem reserved_sum (item : InventoryItem) :
    ((itemBlock store item).map fun row => reservedCase asOf row.2).sum = (reservedAmounts store asOf item).sum := by
  have amounts : reservedCase asOf = fun reservation => reservation.elim 0 fun row =>
      if row.state == .active && row.expiresAt > asOf then row.quantity else 0 := by
    funext reservation
    cases reservation <;> simp [reservedCase]
  rw [itemBlock, List.map_map]
  refine (congrArg List.sum (List.map_congr_left fun row _ => congrFun amounts row)).trans ?_
  rw [sum_padded, <- sum_filter, reservationsOf, matches?, List.filter_filter, reservedAmounts, Table.filter]
  refine congrArg (fun rows : List StockReservation => (rows.map (·.quantity)).sum)
    (List.filter_congr fun row _ => ?_)
  rw [holds, Bool.and_comm, Bool.and_assoc]
  simp [equals]
  rfl

theorem itemColumns_distinct : ((store.items.filter (eligible store asOf)).map itemColumns).Nodup := by
  refine List.Nodup.of_map EligibleInventory.id ?_
  rw [List.map_map]
  exact List.Nodup.sublist (List.Sublist.map _ List.filter_sublist) store.items.distinct

/-- The derived table has each eligible item once, with its active reservations summed. -/
theorem eligibleInventorySql_eq : eligibleInventorySql store asOf =
    (store.items.filter (eligible store asOf)).map fun item =>
      { itemColumns item with reservedQuantity := (reservedAmounts store asOf item).sum } := by
  have grouped := @Tally.groupBy_flatMap _ _ _ (fun row => itemColumns row.1.1) _ itemColumns (itemBlock store)
    (store.items.filter (eligible store asOf)) (fun item _ => itemBlock_ne_nil store item)
    (fun item _ row here => by rw [itemBlock_item store here])
  rw [eligibleInventorySql, itemRows_eq, grouped, Tally.groupBy_distinct _ _ (itemColumns_distinct store asOf),
    List.map_map, List.map_map]
  refine List.map_congr_left fun item _ => ?_
  rw [Function.comp_apply, Function.comp_apply, List.flatMap_singleton, reserved_sum]

end Eligible

section Joined

variable (store : Store) (query : AdminInventoryQuery) (asOf : Int)

theorem mem_inventoryVariants {record : InventoryVariantRecord} (here : record ∈ inventoryVariants store asOf) :
    exists variant, variant ∈ store.variants.rows /\ exists product, product ∈ store.products.rows /\
      record = inventoryVariantSelect store asOf variant product := by
  obtain ⟨variant, present, found⟩ := List.mem_filterMap.1 here
  obtain ⟨product, referred, rfl⟩ := Option.map_eq_some_iff.1 found
  exact ⟨variant, present, product, (Table.lookup_some referred).1, rfl⟩

def joined (record : InventoryVariantRecord) (eligible : Option EligibleRow) : Joined where
  variant := record.variant
  product := record.product
  brand := record.brand
  flavorRecord := record.flavor
  eligible := eligible

def eligibleOf (record : InventoryVariantRecord) : List EligibleRow :=
  matches? (eligibleInventorySql store asOf) fun row => equals (some row.variantId) (some record.variant.id)

-- The rows of one variant after all joins.
def joinedBlock (record : InventoryVariantRecord) : List Joined :=
  (padded (eligibleOf store asOf record)).map (joined record)

theorem joinedBlock_ne_nil (record : InventoryVariantRecord) : joinedBlock store asOf record ≠ [] := by
  simp [joinedBlock, padded_ne_nil]

theorem joinedRows_eq : joinedRows store asOf = (inventoryVariants store asOf).flatMap (joinedBlock store asOf) := by
  rw [joinedRows, innerJoin_key, leftJoin_key, leftJoin_key, leftJoin, List.map_flatMap, List.flatMap_map,
    List.flatMap_map, inventoryVariants, List.filterMap_eq_flatMap_toList, List.filterMap_eq_flatMap_toList,
    List.flatMap_assoc, List.flatMap_assoc]
  refine List.flatMap_congr fun variant _ => ?_
  cases refer store.products (some variant.productId) with
  | none => rfl
  | some product => simp [joinedBlock, eligibleOf, joined, inventoryVariantSelect, Function.comp_def]

theorem eligibleOf_sum (amount : EligibleRow -> Int) {record : InventoryVariantRecord} :
    ((joinedBlock store asOf record).map fun row => row.eligible.elim 0 amount).sum =
      ((store.items.filter fun item => item.variantId == record.variant.id && eligible store asOf item).map
        fun item => amount { itemColumns item with reservedQuantity := (reservedAmounts store asOf item).sum }).sum := by
  rw [joinedBlock, List.map_map]
  refine (sum_padded amount _).trans ?_
  rw [eligibleOf, eligibleInventorySql_eq, matches?, List.filter_map, List.map_map, Table.filter, Table.filter,
    List.filter_filter]
  refine congrArg (fun rows : List InventoryItem => (rows.map _).sum) (List.filter_congr fun item _ => ?_)
  simp [equals, itemColumns]
  rfl

end Joined

section Filter

variable {store : Store} {asOf : Int} {record : InventoryVariantRecord}

theorem brand_referred (here : record ∈ inventoryVariants store asOf) :
    record.brand.map (·.id) = record.product.brandId := by
  obtain ⟨variant, -, product, present, rfl⟩ := mem_inventoryVariants store asOf here
  change (refer store.brands product.brandId).map (·.id) = product.brandId
  cases reference : product.brandId with
  | none => rfl
  | some brandId =>
    obtain ⟨brand, found⟩ := store.branded product present brandId reference
    rw [found]
    exact congrArg some (Table.lookup_some found).2

theorem flavor_referred (here : record ∈ inventoryVariants store asOf) :
    record.flavor.isSome = record.variant.flavorId.isSome := by
  obtain ⟨variant, present, product, -, rfl⟩ := mem_inventoryVariants store asOf here
  change (refer store.flavors variant.flavorId).isSome = variant.flavorId.isSome
  cases reference : variant.flavorId with
  | none => rfl
  | some flavorId =>
    obtain ⟨flavor, found⟩ := store.flavored variant present flavorId reference
    rw [found]
    rfl

theorem equals_kept {K : Type} [DecidableEq K] (left : Option K) (right : K) :
    (equals left (some right)).kept = decide (left = some right) := by
  cases left with
  | none => rfl
  | some left => simp [equals]

theorem brandCondition_kept (here : record ∈ inventoryVariants store asOf) (brand : Text) :
    (any [equals record.product.brandId (some brand), equals (record.brand.map (·.slug)) (some brand)]).kept =
      record.brand.any fun row => row.id == brand || row.slug == brand := by
  rw [<- brand_referred here, Bool.eq_iff_iff]
  cases record.brand <;> simp [kept_or, equals_kept]

theorem flavorCondition_kept (here : record ∈ inventoryVariants store asOf) (flavor : Text)
    (eligible : Option EligibleRow) :
    (flavorCondition flavor (joined record eligible)).kept = flavored flavor record := by
  have referred := flavor_referred here
  rw [Bool.eq_iff_iff]
  cases found : record.flavor with
  | none =>
    rw [found, Option.isSome_none] at referred
    simp [flavorCondition, joined, flavored, found, isNull, kept_or, kept_and, equals_kept]
  | some row =>
    rw [found, Option.isSome_some] at referred
    simp [flavorCondition, joined, flavored, found, notNull, isNull, <- referred, kept_or, kept_and, equals_kept,
      or_assoc]

theorem searchCondition_kept {search : Text} (some : search ≠ []) (eligible : Option EligibleRow) :
    (searchCondition search (joined record eligible)).kept = searched search record := by
  cases brand : record.brand <;> cases flavor : record.flavor <;>
    simp only [searchCondition, joined, searched, located_option some, brand, flavor, isNull, any_cons, any_nil,
      every_cons, every_nil, and_ofBool, or_ofBool, kept_ofBool, Option.map_some, Option.map_none, Option.any_some,
      Option.any_none, Bool.or_false, Bool.false_or, Bool.and_true] <;>
    ac_rfl

/-- The WHERE of the aggregate keeps the rows of the variants that the filter lists. -/
theorem inventoryFilterSql_kept (query : AdminInventoryQuery) (here : record ∈ inventoryVariants store asOf)
    (eligible : Option EligibleRow) :
    (inventoryFilterSql query (joined record eligible)).kept = inventoryWhere query record := by
  have types : (query.productType.toList.map fun productType =>
      equals (some record.product.productType) (some productType)).all Truth.kept =
        query.productType.all fun productType => record.product.productType == productType := by
    rw [Bool.eq_iff_iff]
    cases query.productType <;> simp [equals_kept]
  have brands : ((normalizeQuery query.brand).toList.map fun brand =>
      any [equals record.product.brandId (some brand), equals (record.brand.map (·.slug)) (some brand)]).all
        Truth.kept = (normalizeQuery query.brand).all
          fun brand => record.brand.any fun row => row.id == brand || row.slug == brand := by
    cases normalizeQuery query.brand with
    | none => rfl
    | some brand => exact (Bool.and_true _).trans (brandCondition_kept here brand)
  have flavors : ((normalizeQuery query.flavor).toList.map fun flavor =>
      flavorCondition flavor (joined record eligible)).all Truth.kept =
        (normalizeQuery query.flavor).all fun flavor => flavored flavor record := by
    cases normalizeQuery query.flavor with
    | none => rfl
    | some flavor => exact (Bool.and_true _).trans (flavorCondition_kept here flavor eligible)
  have searches : ((normalizeQuery query.q).toList.map fun search =>
      searchCondition search (joined record eligible)).all Truth.kept =
        (normalizeQuery query.q).all fun search => searched search record := by
    cases given : normalizeQuery query.q with
    | none => rfl
    | some search =>
      exact (Bool.and_true _).trans (searchCondition_kept (normalizeQuery_some given) eligible)
  rw [inventoryFilterSql, kept_every, List.all_append, List.all_append, List.all_append, List.all_append]
  refine (congrArg₂ and (congrArg₂ and (congrArg₂ and (congrArg _ types) brands) flavors) searches).trans ?_
  simp [inventoryWhere, joined, isNull, Bool.and_assoc]

theorem effectiveFlavor_eq (here : record ∈ inventoryVariants store asOf) (eligible : Option EligibleRow) :
    effectiveFlavor (joined record eligible) = inventoryFlavor record := by
  obtain ⟨variant, present, product, stored, rfl⟩ := mem_inventoryVariants store asOf here
  have referred := flavor_referred here
  cases found : refer store.flavors variant.flavorId with
  | none =>
    rw [inventoryVariantSelect, found] at referred
    have plain : effectiveFlavor (joined (inventoryVariantSelect store asOf variant product) eligible) =
        nullIfEmpty (product.flavor.map trimSpaces) :=
      if_neg (by rw [notNull, kept_ofBool]; exact Bool.eq_false_iff.1 referred.symm)
    rw [plain, inventoryFlavor, inventoryVariantSelect, found]
    cases reference : product.flavor with
    | none => rfl
    | some flavor => exact nullIfEmpty_trimmed (store.productsTrimmed product stored flavor reference)
  | some flavor =>
    rw [inventoryVariantSelect, found] at referred
    have taken : effectiveFlavor (joined (inventoryVariantSelect store asOf variant product) eligible) =
        nullIfEmpty ((refer store.flavors variant.flavorId).map fun flavor => trimSpaces flavor.canonicalName) :=
      if_pos (by rw [notNull, kept_ofBool]; exact referred.symm)
    rw [taken, inventoryFlavor, inventoryVariantSelect, found]
    obtain ⟨flavorId, -, looked⟩ := Option.bind_eq_some_iff.1 found
    exact nullIfEmpty_trimmed (store.flavorsTrimmed flavor (Table.lookup_some looked).1)

end Filter

section Groups

variable (store : Store) (query : AdminInventoryQuery) (asOf : Int)

def shownGroup (record : InventoryVariantRecord) : InventoryGroup where
  brandId := record.brand.map (·.id)
  brandName := record.brand.map (·.name)
  productType := record.product.productType
  flavor := inventoryFlavor record

def onHand (record : InventoryVariantRecord) : Int :=
  (record.inventoryItems.map (·.onHandQuantity)).sum

def reserved (record : InventoryVariantRecord) : Int :=
  (record.inventoryItems.map fun item => item.reservations.sum).sum

theorem groupColumns_eq {record : InventoryVariantRecord} (here : record ∈ inventoryVariants store asOf)
    {row : Joined} (member : row ∈ joinedBlock store asOf record) : groupColumns row = shownGroup record := by
  obtain ⟨eligible, -, rfl⟩ := List.mem_map.1 member
  rw [groupColumns, effectiveFlavor_eq here, shownGroup, brand_referred here]
  rfl

theorem onHand_sum {record : InventoryVariantRecord} (here : record ∈ inventoryVariants store asOf) :
    ((joinedBlock store asOf record).map fun row => row.eligible.elim 0 (·.onHandQuantity)).sum = onHand record := by
  obtain ⟨variant, -, product, -, rfl⟩ := mem_inventoryVariants store asOf here
  rw [eligibleOf_sum, onHand, inventoryVariantSelect, inventoryItems, List.map_map]
  rfl

theorem reserved_total {record : InventoryVariantRecord} (here : record ∈ inventoryVariants store asOf) :
    ((joinedBlock store asOf record).map fun row => row.eligible.elim 0 (·.reservedQuantity)).sum =
      reserved record := by
  obtain ⟨variant, -, product, -, rfl⟩ := mem_inventoryVariants store asOf here
  rw [eligibleOf_sum, reserved, inventoryVariantSelect, inventoryItems, List.map_map]
  rfl

theorem sum_block {records : List InventoryVariantRecord} {amount : Joined -> Int}
    {quantity : InventoryVariantRecord -> Int}
    (same : forall record, record ∈ records -> ((joinedBlock store asOf record).map amount).sum = quantity record) :
    ((records.flatMap (joinedBlock store asOf)).map amount).sum = (records.map quantity).sum := by
  induction records with
  | nil => rfl
  | cons record rest ih =>
    rw [List.flatMap_cons, List.map_append, List.sum_append, same record List.mem_cons_self,
      ih fun other here => same other (List.mem_cons_of_mem record here), List.map_cons, List.sum_cons]

/-- A row of the aggregate stands for the listed variants that show its columns. -/
theorem inventoryGroupSql_eq : inventoryGroupSql store query asOf =
    (groupBy shownGroup (matching store query asOf)).map fun group =>
      { group.1 with
        onHandQuantity := (group.2.map onHand).sum
        reservedQuantity := (group.2.map reserved).sum } := by
  have kept : ((joinedRows store asOf).filter fun row => (inventoryFilterSql query row).kept) =
      (matching store query asOf).flatMap (joinedBlock store asOf) := by
    rw [joinedRows_eq]
    refine filter_blocks fun record here row member => ?_
    obtain ⟨eligible, -, rfl⟩ := List.mem_map.1 member
    exact inventoryFilterSql_kept query here eligible
  have listed : forall record, record ∈ matching store query asOf -> record ∈ inventoryVariants store asOf :=
    fun record here => (List.mem_filter.1 here).1
  have grouped := @Tally.groupBy_flatMap _ _ _ groupColumns _ shownGroup (joinedBlock store asOf)
    (matching store query asOf) (fun record _ => joinedBlock_ne_nil store asOf record)
    (fun record here row member => groupColumns_eq store asOf (listed record here) member)
  rw [inventoryGroupSql, kept, grouped, List.map_map]
  refine List.map_congr_left fun group here => ?_
  have inside : forall record, record ∈ group.2 -> record ∈ inventoryVariants store asOf := by
    intro record member
    rw [((Tally.mem_groupBy shownGroup _ group.1 group.2).1 here).1] at member
    exact listed record (List.mem_filter.1 member).1
  rw [Function.comp_apply, sum_block store asOf fun record member => onHand_sum store asOf (inside record member),
    sum_block store asOf fun record member => reserved_total store asOf (inside record member)]

end Groups

end VapeCommerce.Operations.InventoryRows
