import Mathlib.Data.List.Infix
import VapeCommerce.Checkout.Catalogue
import VapeCommerce.Lib.Doubles
import VapeCommerce.Lib.Relational
import VapeCommerce.Lib.Tally
import VapeCommerce.Storefront.Listing

set_option autoImplicit false

-- operations/admin-read.service.ts: the variants the inventory lists, and the rows its totals are made from.
namespace VapeCommerce.Operations.Inventory

open VapeCommerce.Lib VapeCommerce.Lib.ThreeValued VapeCommerce.Lib.Relational VapeCommerce.Schema
open VapeCommerce.Lib.Doubles (plus minus)
open VapeCommerce.Lib.Tally (groupBy)
open VapeCommerce.Catalog (ProductType)
open VapeCommerce.Checkout.Catalogue (holds)
open VapeCommerce.Storefront.Listing (collapseSpaces given)

section Tables

structure Brand where
  id : Text
  name : Text
  slug : Text
deriving DecidableEq, Repr

structure Flavor where
  id : Id
  canonicalName : Text
  slug : Text
  nameFr : Text
  nameAr : Text
deriving DecidableEq, Repr

structure Product where
  id : Id
  brandId : Option Text
  nameFr : Text
  nameAr : Text
  slug : Text
  sku : Option Text
  barcode : Option Text
  productType : ProductType
  flavor : Option Text
  deletedAt : Option Int
deriving DecidableEq, Repr

structure ProductVariant where
  id : Id
  productId : Id
  flavorId : Option Id
  nameFr : Text
  nameAr : Text
  sku : Text
  barcode : Option Text
  lowStockThreshold : Int
  deletedAt : Option Int
  updatedAt : Int
deriving DecidableEq, Repr

-- References find their rows, and the flavors are stored trimmed.
structure Store where
  brands : Table Brand.id
  flavors : Table Flavor.id
  products : Table Product.id
  variants : Table ProductVariant.id
  batches : Table ProductBatch.id
  items : Table InventoryItem.id
  reservations : Table StockReservation.id
  branded : forall product, product ∈ products.rows -> forall brandId, product.brandId = some brandId ->
    exists brand, refer brands (some brandId) = some brand
  flavored : forall variant, variant ∈ variants.rows -> forall flavorId, variant.flavorId = some flavorId ->
    exists flavor, refer flavors (some flavorId) = some flavor
  batched : forall item, item ∈ items.rows -> forall batchId, item.batchId = some batchId ->
    exists batch, refer batches (some batchId) = some batch
  flavorsTrimmed : forall flavor, flavor ∈ flavors.rows -> trim flavor.canonicalName = flavor.canonicalName
  productsTrimmed : forall product, product ∈ products.rows -> forall flavor, product.flavor = some flavor ->
    trim flavor = flavor

structure AdminInventoryQuery where
  page : Nat
  limit : Nat
  q : Option Text
  brand : Option Text
  productType : Option ProductType
  flavor : Option Text
  paged : 1 <= page
  limited : 1 <= limit /\ limit <= 50

def normalizeQuery (value : Option Text) : Option Text :=
  given (value.map fun value => collapseSpaces (trim value))

end Tables

section Listing

structure InventoryItemRecord where
  onHandQuantity : Int
  reservations : List Int

structure InventoryVariantRecord where
  variant : ProductVariant
  product : Product
  brand : Option Brand
  flavor : Option Flavor
  inventoryItems : List InventoryItemRecord

variable (store : Store) (query : AdminInventoryQuery) (asOf : Int)

def eligible (item : InventoryItem) : Bool :=
  item.batchId.isNone || (refer store.batches item.batchId).any fun batch =>
    batch.archivedAt.isNone && batch.expiryDate.all fun expiry => expiry > asOf

def reservedAmounts (item : InventoryItem) : List Int :=
  (store.reservations.filter (holds asOf item.id)).map (·.quantity)

def inventoryItems (variant : ProductVariant) : List InventoryItemRecord :=
  (store.items.filter fun item => item.variantId == variant.id && eligible store asOf item).map fun item =>
    { onHandQuantity := item.onHandQuantity, reservations := reservedAmounts store asOf item }

def inventoryVariantSelect (variant : ProductVariant) (product : Product) : InventoryVariantRecord where
  variant := variant
  product := product
  brand := refer store.brands product.brandId
  flavor := refer store.flavors variant.flavorId
  inventoryItems := inventoryItems store asOf variant

def inventoryFlavor (record : InventoryVariantRecord) : Option Text :=
  match record.flavor with
  | some flavor => trimmedOrNull (some flavor.canonicalName)
  | none => trimmedOrNull record.product.flavor

structure StockTotals where
  onHandQuantity : Int
  reservedQuantity : Int
  remainingQuantity : Int
deriving DecidableEq, Repr

def stockProjection (record : InventoryVariantRecord) : StockTotals :=
  let onHandQuantity := record.inventoryItems.foldl (fun total item => plus total item.onHandQuantity) 0
  let reservedQuantity :=
    record.inventoryItems.foldl (fun total item => plus total (item.reservations.foldl plus 0)) 0
  { onHandQuantity, reservedQuantity, remainingQuantity := minus onHandQuantity reservedQuantity }

def contains (search text : Text) : Bool :=
  decide (search <:+: text)

def searched (search : Text) (record : InventoryVariantRecord) : Bool :=
  contains search record.variant.sku || record.variant.barcode.any (contains search) ||
    contains search record.variant.nameFr || contains search record.variant.nameAr ||
    record.flavor.any (fun flavor => contains search flavor.canonicalName || contains search flavor.slug ||
      contains search flavor.nameFr || contains search flavor.nameAr) ||
    (record.variant.flavorId.isNone && record.product.flavor.any (contains search)) ||
    (contains search record.product.nameFr || contains search record.product.nameAr ||
      record.product.sku.any (contains search) || record.product.barcode.any (contains search) ||
      contains search record.product.slug || record.brand.any (fun brand => contains search brand.name))

def flavored (flavor : Text) (record : InventoryVariantRecord) : Bool :=
  record.flavor.any (fun row => row.canonicalName == flavor || row.slug == flavor || row.nameFr == flavor ||
      row.nameAr == flavor) ||
    (record.variant.flavorId.isNone && record.product.flavor == some flavor)

def inventoryWhere (record : InventoryVariantRecord) : Bool :=
  record.variant.deletedAt.isNone &&
    (record.product.deletedAt.isNone &&
      query.productType.all (fun productType => record.product.productType == productType) &&
      (normalizeQuery query.brand).all
        (fun brand => record.brand.any fun row => row.id == brand || row.slug == brand)) &&
    ((normalizeQuery query.flavor).all (fun flavor => flavored flavor record) &&
      (normalizeQuery query.q).all (fun search => searched search record))

def inventoryVariants : List InventoryVariantRecord :=
  store.variants.rows.filterMap fun variant =>
    (refer store.products (some variant.productId)).map (inventoryVariantSelect store asOf variant)

def matching : List InventoryVariantRecord :=
  (inventoryVariants store asOf).filter (inventoryWhere query)

end Listing

section Grouping

structure EligibleInventory where
  id : Id
  variantId : Id
  onHandQuantity : Int
deriving DecidableEq, Repr

structure EligibleRow extends EligibleInventory where
  reservedQuantity : Int
deriving DecidableEq, Repr

structure InventoryGroup where
  brandId : Option Text
  brandName : Option Text
  productType : ProductType
  flavor : Option Text
deriving DecidableEq, Repr

structure InventoryAggregateRow extends InventoryGroup where
  onHandQuantity : Int
  reservedQuantity : Int
deriving DecidableEq, Repr

structure Joined where
  variant : ProductVariant
  product : Product
  brand : Option Brand
  flavorRecord : Option Flavor
  eligible : Option EligibleRow

variable (store : Store) (query : AdminInventoryQuery) (asOf : Int)

-- The condition of the WHERE, over an item and the batch beside it.
def eligibleCondition (row : InventoryItem × Option ProductBatch) : Truth :=
  any [
    isNull row.1.batchId,
    every [
      isNull (row.2.bind (·.archivedAt)),
      any [
        isNull (row.2.bind (·.expiryDate)),
        related (fun left right => left > right) (row.2.bind (·.expiryDate)) (some asOf)]]]

-- CASE WHEN ... THEN reservation.quantity ELSE 0 END
def reservedCase (reservation : Option StockReservation) : Int :=
  if (every [
      related (fun left right => left == right) (reservation.map (·.state)) (some .active),
      related (fun left right => left > right) (reservation.map (·.expiresAt)) (some asOf)]).kept then
    reservation.elim 0 (·.quantity)
  else 0

def itemRows : List ((InventoryItem × Option ProductBatch) × Option StockReservation) :=
  let batched := leftJoin store.items.rows store.batches.rows
    fun item batch => equals (some batch.id) item.batchId
  (leftJoin batched store.reservations.rows
    fun row reservation => equals (some reservation.inventoryItemId) (some row.1.id)).filter
      fun row => (eligibleCondition asOf row.1).kept

def itemColumns (item : InventoryItem) : EligibleInventory where
  id := item.id
  variantId := item.variantId
  onHandQuantity := item.onHandQuantity

def eligibleInventorySql : List EligibleRow :=
  (groupBy (fun row => itemColumns row.1.1) (itemRows store asOf)).map fun group =>
    { group.1 with reservedQuantity := (group.2.map fun row => reservedCase asOf row.2).sum }

-- TRIM removes spaces only.
def trimSpaces (text : Text) : Text :=
  ((text.dropWhile (· == ' ')).reverse.dropWhile (· == ' ')).reverse

-- NULLIF(text, '')
def nullIfEmpty (text : Option Text) : Option Text :=
  text.filter fun text => !text.isEmpty

def effectiveFlavor (row : Joined) : Option Text :=
  if (notNull row.variant.flavorId).kept then
    nullIfEmpty (row.flavorRecord.map fun flavor => trimSpaces flavor.canonicalName)
  else nullIfEmpty (row.product.flavor.map trimSpaces)

-- LOCATE counts from one, and gives zero where the text is not found.
def locateFrom (search : Text) : Nat -> Text -> Nat
  | position, [] => if search = [] then position else 0
  | position, char :: rest =>
    if search.isPrefixOf (char :: rest) then position else locateFrom search (position + 1) rest

def locate (search text : Text) : Nat :=
  locateFrom search 1 text

def located (search : Text) (text : Option Text) : Truth :=
  .ofBool (0 < locate search (text.getD []))

def flavorCondition (flavor : Text) (row : Joined) : Truth :=
  any [
    every [
      notNull row.variant.flavorId,
      any [
        equals (row.flavorRecord.map (·.canonicalName)) (some flavor),
        equals (row.flavorRecord.map (·.slug)) (some flavor),
        equals (row.flavorRecord.map (·.nameFr)) (some flavor),
        equals (row.flavorRecord.map (·.nameAr)) (some flavor)]],
    every [isNull row.variant.flavorId, equals row.product.flavor (some flavor)]]

def searchCondition (search : Text) (row : Joined) : Truth :=
  any [
    located search (some row.variant.sku),
    located search row.variant.barcode,
    located search (some row.variant.nameFr),
    located search (some row.variant.nameAr),
    located search (some row.product.nameFr),
    located search (some row.product.nameAr),
    located search row.product.sku,
    located search row.product.barcode,
    located search (some row.product.slug),
    located search (row.flavorRecord.map (·.canonicalName)),
    located search (row.flavorRecord.map (·.slug)),
    located search (row.flavorRecord.map (·.nameFr)),
    located search (row.flavorRecord.map (·.nameAr)),
    every [isNull row.variant.flavorId, located search row.product.flavor],
    located search (row.brand.map (·.name))]

def inventoryFilterSql (row : Joined) : Truth :=
  every ([isNull row.variant.deletedAt, isNull row.product.deletedAt] ++
    query.productType.toList.map (fun productType => equals (some row.product.productType) (some productType)) ++
    (normalizeQuery query.brand).toList.map (fun brand =>
      any [equals row.product.brandId (some brand), equals (row.brand.map (·.slug)) (some brand)]) ++
    (normalizeQuery query.flavor).toList.map (fun flavor => flavorCondition flavor row) ++
    (normalizeQuery query.q).toList.map (fun search => searchCondition search row))

def joinedRows : List Joined :=
  let products := innerJoin store.variants.rows store.products.rows
    fun variant product => equals (some product.id) (some variant.productId)
  let brands := leftJoin products store.brands.rows
    fun row brand => equals (some brand.id) row.2.brandId
  let flavors := leftJoin brands store.flavors.rows
    fun row flavor => equals (some flavor.id) row.1.1.flavorId
  (leftJoin flavors (eligibleInventorySql store asOf)
    fun row eligible => equals (some eligible.variantId) (some row.1.1.1.id)).map fun row =>
      { variant := row.1.1.1.1
        product := row.1.1.1.2
        brand := row.1.1.2
        flavorRecord := row.1.2
        eligible := row.2 }

def groupColumns (row : Joined) : InventoryGroup where
  brandId := row.product.brandId
  brandName := row.brand.map (·.name)
  productType := row.product.productType
  flavor := effectiveFlavor row

-- Without its ORDER BY and LIMIT.
def inventoryGroupSql : List InventoryAggregateRow :=
  (groupBy groupColumns ((joinedRows store asOf).filter fun row => (inventoryFilterSql query row).kept)).map
    fun group =>
      { group.1 with
        onHandQuantity := (group.2.map fun row => row.eligible.elim 0 (·.onHandQuantity)).sum
        reservedQuantity := (group.2.map fun row => row.eligible.elim 0 (·.reservedQuantity)).sum }

end Grouping

end VapeCommerce.Operations.Inventory
