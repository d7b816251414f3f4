import VapeCommerce.Database

set_option autoImplicit false

-- The two filters of the catalogue and the inventory that a sale passes through.
namespace VapeCommerce.Checkout.Catalogue

open VapeCommerce.Schema VapeCommerce.Config VapeCommerce.Database

def activeRestriction (now : Int) (restriction : Restriction) : Bool :=
  restriction.active && restriction.startsAt <= now &&
    restriction.endsAt.all (fun stop => stop > now)

def publicListing (now : Int) (listing : Listing) : Bool :=
  listing.published && listing.archivedAt.isNone && listing.suspendedAt.isNone &&
    listing.deletedAt.isNone && !listing.restrictions.any (activeRestriction now)

def publicSellableVariantWhere (variant : ProductVariant) : Bool :=
  variant.published && variant.archivedAt.isNone && variant.deletedAt.isNone &&
    variant.priceMillimes > 0 && variant.promotionalPriceMillimes.all (fun price => price > 0)

def approvedPublicImage (image : ProductImage) : Bool :=
  image.deletedAt.isNone && image.approved

-- `buildPublicProductWhere({}, now)`: no filter of the storefront applies at checkout.
def buildPublicProductWhere (config : Configuration) (now : Int) (product : Product) : Bool :=
  let sellable := config.variants.filter fun variant =>
    variant.productId == product.id && publicSellableVariantWhere variant
  publicListing now product.listing && product.publishedAt.any (fun instant => instant <= now) &&
    publicListing now product.category && !sellable.isEmpty &&
    (product.images.any approvedPublicImage ||
      sellable.any (fun variant => variant.images.any approvedPublicImage)) &&
    product.brand.all (publicListing now)

def sellableProduct? (config : Configuration) (now : Int) (variant : ProductVariant) :
    Option Product :=
  if publicSellableVariantWhere variant then
    (config.products.find? fun product => product.id == variant.productId).filter
      (buildPublicProductWhere config now)
  else none

def sellableVariants (config : Configuration) (now : Int) (variantIds : List Id) :
    List (ProductVariant × Product) :=
  config.variants.filterMap fun variant =>
    if variant.id ∈ variantIds then
      (sellableProduct? config now variant).map fun product => (variant, product)
    else none

-- `batch: { is: ... }` of `eligibleOrderInventoryWhere`, through the optional relation.
def eligibleBatch (db : Db) (now : Int) (item : InventoryItem) : Bool :=
  match item.batchId with
  | none => true
  | some batchId => (db.batches.find? batchId).any fun batch =>
      batch.archivedAt.isNone && batch.expiryDate.all (fun expiry => expiry > now)

def eligibleOrderInventoryWhere (db : Db) (now : Int) (item : InventoryItem) : Bool :=
  item.onHandQuantity > 0 &&
    db.config.inventoryLocations.any (fun location =>
      location.id == item.locationId && location.active && location.fulfillsOrders) &&
    eligibleBatch db now item

-- ACTIVE and not expired: the reservations that hold stock at `now`.
def holds (now : Int) (itemId : Id) (reservation : StockReservation) : Bool :=
  reservation.inventoryItemId == itemId && reservation.state == .active &&
    reservation.expiresAt > now

def activeReservations (db : Db) (now : Int) (itemId : Id) : List StockReservation :=
  db.reservations.filter (holds now itemId)

def reservedQuantity (db : Db) (now : Int) (itemId : Id) : Int :=
  ((activeReservations db now itemId).map (·.quantity)).sum

theorem sellableVariants_price (config : Configuration) (now : Int) (variantIds : List Id)
    (variant : ProductVariant) (product : Product)
    (member : (variant, product) ∈ sellableVariants config now variantIds) :
    0 < variant.priceMillimes /\
      variant.promotionalPriceMillimes.all (fun price => price > 0) = true := by
  simp only [sellableVariants, List.mem_filterMap] at member
  obtain ⟨other, -, found⟩ := member
  split at found
  next =>
    simp only [Option.map_eq_some_iff, Prod.mk.injEq] at found
    obtain ⟨_, sellable, rfl, -⟩ := found
    simp only [sellableProduct?] at sellable
    split at sellable
    next accepted =>
      simp only [publicSellableVariantWhere, Bool.and_eq_true, decide_eq_true_eq] at accepted
      exact ⟨accepted.1.2, accepted.2⟩
    next => simp at sellable
  next => simp at found

end VapeCommerce.Checkout.Catalogue
