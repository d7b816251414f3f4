import VapeCommerce.Catalog.Tables

set_option autoImplicit false

-- The administrators' product endpoints.
namespace VapeCommerce.Catalog.Products

open VapeCommerce.Lib VapeCommerce.Lib.Outcome VapeCommerce.Schema
open VapeCommerce.DeliveryConfig

-- `otherColumns` tells whether the request gives a mutable column that nothing here reads.
structure CreateProduct where
  categoryId : Id
  brandId : Option Id
  nameFr : Text
  nameAr : Text
  slug : Text
  productType : ProductType
  sku : Option Text
  barcode : Option Text
  containsNicotine : Option Bool
  flavor : Option Text
  puffCount : Option Int
  basePriceMillimes : Option Amount
  promotionalPriceMillimes : Option Amount

structure UpdateProduct where
  version : Int
  categoryId : Option Id
  brandId : Rates.Field Id
  nameFr : Option Text
  nameAr : Option Text
  slug : Option Text
  productType : Option ProductType
  sku : Rates.Field Text
  barcode : Rates.Field Text
  containsNicotine : Option Bool
  flavor : Rates.Field Text
  puffCount : Rates.Field Int
  basePriceMillimes : Rates.Field Amount
  promotionalPriceMillimes : Rates.Field Amount
  otherColumns : Bool
  publicationStatus : Option MutablePublicationStatus
  mediaReviewConfirmed : Bool

def productNotFound : Failure := notFound "PRODUCT_NOT_FOUND"

def versionConflict : Failure := conflict "VERSION_CONFLICT"

def publicationNotReady : Failure := conflict "PRODUCT_PUBLICATION_NOT_READY"

def invalidCatalogReference : Failure := badRequest "INVALID_CATALOG_REFERENCE"

def slugConflict : Failure := conflict "PRODUCT_SLUG_CONFLICT"

def identifierConflict : Failure := conflict "PRODUCT_IDENTIFIER_CONFLICT"

def findCurrent (state : CatalogState) (id : Id) : Except Failure Product :=
  orThrow ((state.products.find? id).filter fun product => product.deletedAt.isNone) productNotFound

-- A promotion needs a base price that it does not exceed.
def pricesInOrder (basePrice promotionalPrice : Option Amount) : Bool :=
  promotionalPrice.all fun promotion => basePrice.any fun base => promotion.millimes <= base.millimes

def validatePrices (basePrice promotionalPrice : Option Amount) : Except Failure Unit :=
  throwIf (Not (pricesInOrder basePrice promotionalPrice)) (badRequest "INVALID_PROMOTIONAL_PRICE")

def availableCategory (requirePublished : Bool) (category : Category) : Bool :=
  category.archivedAt.isNone && category.deletedAt.isNone &&
    (!requirePublished || (category.publicationStatus == .published && category.suspendedAt.isNone))

def availableBrand (requirePublished : Bool) (brand : Brand) : Bool :=
  brand.archivedAt.isNone && brand.deletedAt.isNone &&
    (!requirePublished || (brand.publicationStatus == .published && brand.suspendedAt.isNone))

def ensureReferences (state : CatalogState) (categoryId : Id) (brandId : Option Id)
    (requirePublished : Bool) : Except Failure Unit :=
  throwIf (Not ((state.categories.find? categoryId).any (availableCategory requirePublished)) \/
      Not (brandId.all fun id => (state.brands.find? id).any (availableBrand requirePublished)))
    invalidCatalogReference

def notPositive (price : Option Amount) : Bool :=
  price.any fun amount => amount.millimes <= 0

-- What the loop over the public variants finds about their SKUs.
def skuBlockers (unicode : Unicode) : List Text -> List ProductVariant -> List PublicationBlocker
  | _, [] => []
  | seen, variant :: rest =>
    let normalizedSku := unicode.lower (trim variant.sku)
    if normalizedSku = [] then .variantSkuInvalid :: skuBlockers unicode seen rest
    else if normalizedSku ∈ seen then .variantSkuDuplicate :: skuBlockers unicode seen rest
    else skuBlockers unicode (normalizedSku :: seen) rest

def publicationBlockers (unicode : Unicode) (state : CatalogState) (current : Product)
    (basePrice promotionalPrice : Option Amount) (mediaReviewConfirmed : Bool) (now : Int) :
    List PublicationBlocker :=
  let variants := state.variants.filter fun variant =>
    variant.productId == current.id && publicVariant variant
  let hasApprovedImage := state.images.any fun image => approvedPublicationImage image &&
    ((image.productId == some current.id && image.variantId == none) ||
      variants.any fun variant => image.variantId == some variant.id)
  let unresolvedImages := state.images.any fun image =>
    unresolvedImage image && state.ownedImage current.id image
  let available := fun variant : ProductVariant =>
    Checkout.Quote.availableQuantity state.db now variant.id
  let hasPositivePrice := basePrice.any (fun price => price.millimes > 0) ||
    variants.any fun variant => variant.priceMillimes.millimes > 0
  blockedBy .pricingReviewRequired (current.requiresPricing && !hasPositivePrice) ++
    blockedBy .stockReviewRequired (current.requiresStock && (variants.map available).sum <= 0) ++
    blockedBy .mediaReviewRequired (current.needsMediaReview && !hasApprovedImage) ++
    blockedBy .mediaReviewPending unresolvedImages ++
    blockedBy .mediaReviewConfirmationRequired (current.needsMediaReview && !mediaReviewConfirmed) ++
    blockedBy .sellableVariantMissing variants.isEmpty ++
    blockedBy .nonPositivePrice (notPositive basePrice || notPositive promotionalPrice) ++
    skuBlockers unicode [] variants ++
    variants.flatMap (fun variant =>
      blockedBy .nonPositivePrice (variant.priceMillimes.millimes <= 0 ||
        notPositive variant.promotionalPriceMillimes) ++
      blockedBy .availableStockMissing (available variant <= 0)) ++
    blockedBy .approvedImageMissing (!hasApprovedImage) ++
    blockedBy .deliveryMethodMissing (state.deliveryPublicationBlocker now)

def validatePublication (unicode : Unicode) (state : CatalogState) (current : Product)
    (basePrice promotionalPrice : Option Amount) (mediaReviewConfirmed : Bool) (now : Int) :
    Except Failure Unit :=
  throwIf
    (publicationBlockers unicode state current basePrice promotionalPrice mediaReviewConfirmed now ≠ [])
    publicationNotReady

def mediaReviewBlockers (state : CatalogState) (current : Product) (confirmed : Bool) :
    List PublicationBlocker :=
  let unresolvedImages := state.images.any fun image =>
    unresolvedImage image && state.ownedImage current.id image
  let approvedImages := state.images.any fun image => approvedPublicationImage image &&
    ((image.productId == some current.id && image.variantId == none) ||
      (state.imageVariant image).any fun variant =>
        variant.productId == current.id && publicVariant variant)
  blockedBy .mediaReviewPending unresolvedImages ++
    blockedBy .approvedImageMissing (current.needsMediaReview && !approvedImages) ++
    blockedBy .mediaReviewConfirmationRequired (current.needsMediaReview && !confirmed)

def validateMediaReview (state : CatalogState) (current : Product) (confirmed : Bool) :
    Except Failure Unit :=
  throwIf (mediaReviewBlockers state current confirmed ≠ []) publicationNotReady

def validatePublishedUpdate (state : CatalogState) (current : Product)
    (basePrice promotionalPrice : Option Amount) : Except Failure Unit := do
  throwIf (notPositive basePrice || notPositive promotionalPrice) publicationNotReady
  throwIf (basePrice = none /\ state.variants.count (fun variant =>
      variant.productId == current.id && publicVariant variant) = 0)
    (conflict "PRODUCT_PUBLICATION_REQUIREMENTS_MISSING")

def assertUniqueIdentifiers (state : CatalogState) (product : Product) : Except Failure Unit := do
  throwIf (state.products.rows.any fun other => other.id != product.id && other.slug == product.slug)
    slugConflict
  throwIf (state.products.rows.any fun other => other.id != product.id &&
      ((other.sku.isSome && other.sku == product.sku) ||
        (other.barcode.isSome && other.barcode == product.barcode)))
    identifierConflict

def createdProduct (id : Id) (input : CreateProduct) : Product where
  id := id
  brandId := input.brandId
  categoryId := input.categoryId
  description := {
    nameFr := trim input.nameFr
    nameAr := trim input.nameAr
    productType := input.productType
    family := none
    model := none
    containsNicotine := input.containsNicotine.getD false
    nicotineStrengthMg := none
    puffCount := input.puffCount
    liquidCapacityMl := none }
  slug := input.slug
  sku := trimmedOrNull input.sku
  barcode := trimmedOrNull input.barcode
  flavor := trimmedOrNull input.flavor
  basePriceMillimes := input.basePriceMillimes
  promotionalPriceMillimes := input.promotionalPriceMillimes
  publicationStatus := .draft
  requiresPricing := false
  requiresStock := false
  needsMediaReview := false
  publishedAt := none
  suspendedAt := none
  archivedAt := none
  deletedAt := none
  version := 1

def create (state : CatalogState) (id : Id) (input : CreateProduct) : Except Failure CatalogState := do
  validatePrices input.basePriceMillimes input.promotionalPriceMillimes
  ensureReferences state input.categoryId input.brandId false
  let created := createdProduct id input
  assertUniqueIdentifiers state created
  let products <- Database.create state.products created
  return { state with products }

-- `applyPublicationTimestamps`, and the review flags that publishing clears.
def withStatus (target : MutablePublicationStatus) (now : Int) (row : Product) : Product :=
  match target with
  | .published =>
    { row with
      publicationStatus := .published
      publishedAt := some (row.publishedAt.getD now)
      suspendedAt := none
      archivedAt := none
      requiresPricing := false
      requiresStock := false
      needsMediaReview := false }
  | .suspended =>
    { row with publicationStatus := .suspended, suspendedAt := some now, archivedAt := none }
  | .draft =>
    { row with publicationStatus := .draft, publishedAt := none, suspendedAt := none, archivedAt := none }

def columnsUpdated (input : UpdateProduct) (row : Product) : Product :=
  { row with
    categoryId := input.categoryId.getD row.categoryId
    brandId := input.brandId.mergedOver row.brandId
    description := { row.description with
      nameFr := (input.nameFr.map trim).getD row.description.nameFr
      nameAr := (input.nameAr.map trim).getD row.description.nameAr
      productType := input.productType.getD row.description.productType
      containsNicotine := input.containsNicotine.getD row.description.containsNicotine
      puffCount := input.puffCount.mergedOver row.description.puffCount }
    slug := input.slug.getD row.slug
    sku := trimmedOver input.sku row.sku
    barcode := trimmedOver input.barcode row.barcode
    flavor := trimmedOver input.flavor row.flavor
    basePriceMillimes := input.basePriceMillimes.mergedOver row.basePriceMillimes
    promotionalPriceMillimes := input.promotionalPriceMillimes.mergedOver row.promotionalPriceMillimes
    version := row.version + 1 }

-- `buildUpdateData` applied to the row.
def updatedProduct (input : UpdateProduct) (now : Int) (row : Product) : Product :=
  let updated := columnsUpdated input row
  match input.publicationStatus with
  | some target => withStatus target now updated
  | none =>
    if input.mediaReviewConfirmed && row.publicationStatus == .published then
      { updated with needsMediaReview := false }
    else updated

theorem updatedProduct_key (input : UpdateProduct) (now : Int) (row : Product) :
    (updatedProduct input now row).id = row.id := by
  unfold updatedProduct withStatus
  cases input.publicationStatus with
  | none => dsimp only; split <;> rfl
  | some target => cases target <;> rfl

def UpdateProduct.changesNothing (input : UpdateProduct) : Bool :=
  input.categoryId.isNone && !Field.isGiven input.brandId && input.nameFr.isNone &&
    input.nameAr.isNone && input.slug.isNone && input.productType.isNone &&
    !Field.isGiven input.sku && !Field.isGiven input.barcode && input.containsNicotine.isNone &&
    !Field.isGiven input.flavor && !Field.isGiven input.puffCount &&
    !Field.isGiven input.basePriceMillimes && !Field.isGiven input.promotionalPriceMillimes &&
    !input.otherColumns && input.publicationStatus.isNone && !input.mediaReviewConfirmed

def update (unicode : Unicode) (state : CatalogState) (id : Id) (input : UpdateProduct) (now : Int) :
    Except Failure CatalogState := do
  throwIf input.changesNothing (badRequest "NO_PRODUCT_CHANGES")
  let current <- findCurrent state id
  throwIf (current.version ≠ input.version) versionConflict
  throwIf (current.publicationStatus = .archived) (conflict "PRODUCT_ARCHIVED")
  let categoryId := input.categoryId.getD current.categoryId
  let brandId := input.brandId.mergedOver current.brandId
  let targetStatus := (input.publicationStatus.map (·.status)).getD current.publicationStatus
  throwIf (input.mediaReviewConfirmed /\ (targetStatus ≠ .published \/ Not current.needsMediaReview))
    (badRequest "MEDIA_REVIEW_CONFIRMATION_NOT_APPLICABLE")
  ensureReferences state categoryId brandId (targetStatus == .published)
  let basePrice := input.basePriceMillimes.mergedOver current.basePriceMillimes
  let promotionalPrice := input.promotionalPriceMillimes.mergedOver current.promotionalPriceMillimes
  validatePrices basePrice promotionalPrice
  requireWhen (targetStatus = .published /\ current.publicationStatus = .published) do
    validateMediaReview state current input.mediaReviewConfirmed
    validatePublishedUpdate state current basePrice promotionalPrice
  requireWhen (targetStatus = .published /\ current.publicationStatus ≠ .published)
    (validatePublication unicode state current basePrice promotionalPrice input.mediaReviewConfirmed now)
  assertUniqueIdentifiers state (updatedProduct input now current)
  let products <- Database.updateOne state.products
    (fun row => row.id == id && row.version == input.version && row.deletedAt.isNone)
    (updatedProduct input now) (updatedProduct_key input now) versionConflict
  return { state with products }

def reviewedProduct (row : Product) : Product :=
  { row with needsMediaReview := false, version := row.version + 1 }

theorem reviewedProduct_key (row : Product) : (reviewedProduct row).id = row.id := rfl

def confirmMediaReview (state : CatalogState) (id : Id) (version : Int) (reason : Text) :
    Except Failure CatalogState := do
  let current <- findCurrent state id
  throwIf (current.version ≠ version) versionConflict
  throwIf ((trim reason).length < 4) (badRequest "MEDIA_REVIEW_REASON_INVALID")
  throwIf (current.publicationStatus ≠ .draft) (conflict "PRODUCT_MEDIA_REVIEW_REQUIRES_DRAFT")
  throwIf (Not current.needsMediaReview) (conflict "PRODUCT_MEDIA_REVIEW_NOT_REQUIRED")
  let unresolvedImages := state.images.any fun image =>
    unresolvedImage image && state.ownedImage id image
  let approvedImages := state.images.any fun image => approvedPublicationImage image &&
    ((image.productId == some id && image.variantId == none) ||
      (state.imageVariant image).any fun variant => variant.productId == id &&
        (variant.publicationStatus == .draft || variant.publicationStatus == .published) &&
        variant.archivedAt.isNone && variant.deletedAt.isNone)
  throwIf (unresolvedImages \/ Not approvedImages) (conflict "PRODUCT_MEDIA_REVIEW_NOT_READY")
  let products <- Database.updateOne state.products
    (fun row => row.id == id && row.version == version && row.publicationStatus == .draft &&
      row.needsMediaReview && row.deletedAt.isNone)
    reviewedProduct reviewedProduct_key versionConflict
  return { state with products }

def shelvedProduct (archive : Bool) (now : Int) (row : Product) : Product :=
  { row with
    publicationStatus := if archive then .archived else .draft
    archivedAt := if archive then some now else none
    suspendedAt := none
    publishedAt := if archive then row.publishedAt else none
    version := row.version + 1 }

theorem shelvedProduct_key (archive : Bool) (now : Int) (row : Product) :
    (shelvedProduct archive now row).id = row.id := rfl

def changeArchiveState (state : CatalogState) (id : Id) (version : Int) (archive : Bool) (now : Int) :
    Except Failure CatalogState := do
  let current <- findCurrent state id
  throwIf (current.version ≠ version) versionConflict
  throwIf (archive /\ current.publicationStatus = .archived) (conflict "PRODUCT_ALREADY_ARCHIVED")
  throwIf (Not archive /\ current.publicationStatus ≠ .archived) (conflict "PRODUCT_NOT_ARCHIVED")
  let products <- Database.updateOne state.products
    (fun row => row.id == id && row.version == version && row.deletedAt.isNone)
    (shelvedProduct archive now) (shelvedProduct_key archive now) versionConflict
  return { state with products }

section Inversion

variable {unicode : Unicode} {state next : CatalogState} {id : Id} {now version : Int}

theorem findCurrent_ok {product : Product} (found : findCurrent state id = .ok product) :
    product ∈ state.products.rows /\ product.id = id /\ product.deletedAt = none := by
  simp only [findCurrent, orThrow_ok, Option.filter_eq_some_iff, Option.isNone_iff_eq_none] at found
  exact ⟨Table.find?_mem found.1, Table.find?_key found.1, found.2⟩

theorem create_ok {input : CreateProduct} (ran : create state id input = .ok next) :
    exists products, pricesInOrder input.basePriceMillimes input.promotionalPriceMillimes = true /\
      state.products.insert? (createdProduct id input) = some products /\
      next = { state with products } := by
  simp only [create, validatePrices, bind_ok, throwIf_ok, not_not, Database.create_ok, pure_ok] at ran
  obtain ⟨_, ordered, _, -, _, -, products, inserted, rfl⟩ := ran
  exact ⟨products, ordered, inserted, rfl⟩

def targetStatus (input : UpdateProduct) (current : Product) : PublicationStatus :=
  (input.publicationStatus.map (·.status)).getD current.publicationStatus

theorem update_ok {input : UpdateProduct} (ran : update unicode state id input now = .ok next) :
    exists current products, findCurrent state id = .ok current /\
      Table.RewroteOne state.products products (updatedProduct input now) current /\
      next = { state with products } /\
      pricesInOrder (input.basePriceMillimes.mergedOver current.basePriceMillimes)
        (input.promotionalPriceMillimes.mergedOver current.promotionalPriceMillimes) = true /\
      ensureReferences state (input.categoryId.getD current.categoryId)
        (input.brandId.mergedOver current.brandId) (targetStatus input current == .published) = .ok () /\
      (targetStatus input current = .published /\ current.publicationStatus ≠ .published ->
        publicationBlockers unicode state current
          (input.basePriceMillimes.mergedOver current.basePriceMillimes)
          (input.promotionalPriceMillimes.mergedOver current.promotionalPriceMillimes)
          input.mediaReviewConfirmed now = []) := by
  simp only [update, validatePrices, validatePublication, bind_ok, throwIf_ok, requireWhen_ok, not_not,
    Database.updateOne_ok, pure_ok] at ran
  obtain ⟨_, -, current, read, _, -, _, -, _, -, _, referred, _, ordered, _, -, _, published, _, -,
    products, ⟨one, rfl⟩, rfl⟩ := ran
  obtain ⟨member, rfl, -⟩ := findCurrent_ok read
  refine ⟨current, _, read, Table.rewroteOne one member fun row hit => ?_, rfl, ordered, referred, published⟩
  simp only [Bool.and_eq_true, beq_iff_eq] at hit
  exact hit.1.1

theorem confirmMediaReview_ok {reason : Text}
    (ran : confirmMediaReview state id version reason = .ok next) :
    exists current products, findCurrent state id = .ok current /\
      Table.RewroteOne state.products products reviewedProduct current /\
      next = { state with products } := by
  simp only [confirmMediaReview, bind_ok, throwIf_ok, Database.updateOne_ok, pure_ok] at ran
  obtain ⟨current, read, _, -, _, -, _, -, _, -, _, -, products, ⟨one, rfl⟩, rfl⟩ := ran
  obtain ⟨member, rfl, -⟩ := findCurrent_ok read
  refine ⟨current, _, read, Table.rewroteOne one member fun row hit => ?_, rfl⟩
  simp only [Bool.and_eq_true, beq_iff_eq] at hit
  exact hit.1.1.1.1

theorem changeArchiveState_ok {archive : Bool}
    (ran : changeArchiveState state id version archive now = .ok next) :
    exists current products, findCurrent state id = .ok current /\
      Table.RewroteOne state.products products (shelvedProduct archive now) current /\
      next = { state with products } := by
  simp only [changeArchiveState, bind_ok, throwIf_ok, Database.updateOne_ok, pure_ok] at ran
  obtain ⟨current, read, _, -, _, -, _, -, products, ⟨one, rfl⟩, rfl⟩ := ran
  obtain ⟨member, rfl, -⟩ := findCurrent_ok read
  refine ⟨current, _, read, Table.rewroteOne one member fun row hit => ?_, rfl⟩
  simp only [Bool.and_eq_true, beq_iff_eq] at hit
  exact hit.1.1

end Inversion

end VapeCommerce.Catalog.Products
