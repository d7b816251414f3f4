import VapeCommerce.Catalog.Tables

set_option autoImplicit false

-- The administrators' variant endpoints.
namespace VapeCommerce.Catalog.Variants

open VapeCommerce.Lib VapeCommerce.Lib.Outcome VapeCommerce.Schema
open VapeCommerce.DeliveryConfig

structure CreateProductVariant where
  nameFr : Text
  nameAr : Text
  sku : Text
  barcode : Option Text
  color : Option Text
  priceMillimes : Amount
  promotionalPriceMillimes : Option Amount
  taxRateBps : Option TaxRate
  sortOrder : Option Int
  attributeValueIds : List Id

-- `otherColumns` tells whether the request gives a mutable column that nothing here reads.
structure UpdateProductVariant where
  version : Int
  nameFr : Option Text
  nameAr : Option Text
  sku : Option Text
  barcode : Rates.Field Text
  color : Rates.Field Text
  priceMillimes : Option Amount
  promotionalPriceMillimes : Rates.Field Amount
  taxRateBps : Option TaxRate
  sortOrder : Option Int
  otherColumns : Bool
  publicationStatus : Option MutablePublicationStatus
  attributeValueIds : Option (List Id)

def notFound : Failure := Schema.notFound "PRODUCT_VARIANT_NOT_FOUND"

def versionConflict : Failure := conflict "VERSION_CONFLICT"

def archivedConflict : Failure := conflict "VARIANT_ARCHIVED"

def publicationNotReady : Failure := conflict "VARIANT_PUBLICATION_NOT_READY"

def identifierConflict : Failure := conflict "VARIANT_IDENTIFIER_CONFLICT"

def currentProduct (state : CatalogState) (id : Id) : Except Failure Product :=
  orThrow ((state.products.find? id).filter fun product => product.deletedAt.isNone) notFound

def requireProduct (state : CatalogState) (id : Id) : Except Failure Unit := do
  let product <- currentProduct state id
  throwIf product.archivedAt.isSome (conflict "PRODUCT_ARCHIVED")

def requireVariant (state : CatalogState) (productId variantId : Id) : Except Failure ProductVariant :=
  orThrow ((state.variants.find? variantId).filter fun variant =>
    variant.productId == productId && variant.deletedAt.isNone) notFound

def pricesInOrder (price : Amount) (promotion : Option Amount) : Bool :=
  promotion.all fun reduced => reduced.millimes <= price.millimes

def validatePrices (price : Amount) (promotion : Option Amount) : Except Failure Unit :=
  throwIf (Not (pricesInOrder price promotion)) (badRequest "INVALID_PROMOTIONAL_PRICE")

-- Each value is one of the product's, and no two are values of one attribute.
def validateAttributes (state : CatalogState) (productId : Id) (ids : List Id) : Except Failure Unit :=
  let values := state.attributeValues.filter fun value =>
    ids.contains value.id && value.productId == productId
  throwIf (values.length ≠ ids.length \/ Not (values.map (·.attributeId)).Nodup)
    (badRequest "INVALID_VARIANT_ATTRIBUTES")

def uniqueAttributes (ids : List Id) : List Id :=
  ids.dedup.insertionSort (· <= ·)

def notPositive (price : Amount) (promotion : Option Amount) : Bool :=
  price.millimes <= 0 || promotion.any fun reduced => reduced.millimes <= 0

def publicationBlockers (state : CatalogState) (product : Product) (variantId : Id) (sku : Text)
    (price : Amount) (promotion : Option Amount) (now : Int) : List PublicationBlocker :=
  let duplicateSku := state.variants.rows.any fun other => other.id != variantId && other.sku == sku
  let availableQuantity := Checkout.Quote.availableQuantity state.db now variantId
  let approvedImages := state.images.any fun image => approvedPublicationImage image &&
    ((image.productId == some product.id && image.variantId == none) ||
      (image.productId == none && image.variantId == some variantId))
  let unresolvedImages := state.images.any fun image =>
    unresolvedImage image && state.ownedImage product.id image
  blockedBy .pricingReviewRequired (product.requiresPricing && price.millimes <= 0) ++
    blockedBy .stockReviewRequired (product.requiresStock && availableQuantity <= 0) ++
    blockedBy .mediaReviewRequired (product.needsMediaReview && !approvedImages) ++
    blockedBy .mediaReviewPending unresolvedImages ++
    blockedBy .mediaReviewConfirmationRequired product.needsMediaReview ++
    blockedBy .variantSkuInvalid (trim sku).isEmpty ++
    blockedBy .variantSkuDuplicate duplicateSku ++
    blockedBy .nonPositivePrice (notPositive price promotion) ++
    blockedBy .availableStockMissing (availableQuantity <= 0) ++
    blockedBy .approvedImageMissing (!approvedImages) ++
    blockedBy .deliveryMethodMissing (state.deliveryPublicationBlocker now)

def validatePublication (state : CatalogState) (productId variantId : Id) (sku : Text) (price : Amount)
    (promotion : Option Amount) (now : Int) : Except Failure Unit := do
  let product <- currentProduct state productId
  throwIf product.archivedAt.isSome (conflict "PRODUCT_ARCHIVED")
  throwIf (publicationBlockers state product variantId sku price promotion now ≠ []) publicationNotReady

def validatePublishedUpdate (sku : Text) (price : Amount) (promotion : Option Amount) :
    Except Failure Unit :=
  throwIf ((trim sku).isEmpty || notPositive price promotion) publicationNotReady

def ensurePublishedProductRetainsSellableVariant (state : CatalogState) (productId variantId : Id) :
    Except Failure Unit := do
  let product <- currentProduct state productId
  throwIf (product.publicationStatus = .published /\ state.variants.count (fun variant =>
      variant.productId == productId && variant.id != variantId && publicSellableVariant variant) = 0)
    (conflict "PRODUCT_PUBLICATION_NOT_READY")

def assertUniqueIdentifiers (state : CatalogState) (variant : ProductVariant) : Except Failure Unit :=
  throwIf (state.variants.rows.any fun other => other.id != variant.id &&
      (other.sku == variant.sku || (other.barcode.isSome && other.barcode == variant.barcode)))
    identifierConflict

def createdVariant (id productId : Id) (input : CreateProductVariant) : ProductVariant where
  id := id
  productId := productId
  flavorId := none
  nameFr := trim input.nameFr
  nameAr := trim input.nameAr
  sku := trim input.sku
  barcode := trimmedOrNull input.barcode
  color := trimmedOrNull input.color
  nicotineStrengthMg := none
  priceMillimes := input.priceMillimes
  promotionalPriceMillimes := input.promotionalPriceMillimes
  taxRateBps := input.taxRateBps.getD .zero
  publicationStatus := .draft
  sortOrder := input.sortOrder.getD 0
  attributeValueIds := uniqueAttributes input.attributeValueIds
  archivedAt := none
  deletedAt := none
  version := 1

def create (state : CatalogState) (productId id : Id) (input : CreateProductVariant) :
    Except Failure CatalogState := do
  requireProduct state productId
  validatePrices input.priceMillimes input.promotionalPriceMillimes
  validateAttributes state productId (uniqueAttributes input.attributeValueIds)
  let created := createdVariant id productId input
  assertUniqueIdentifiers state created
  let variants <- Database.create state.variants created
  return { state with variants }

def updatedVariant (input : UpdateProductVariant) (row : ProductVariant) : ProductVariant :=
  { row with
    nameFr := (input.nameFr.map trim).getD row.nameFr
    nameAr := (input.nameAr.map trim).getD row.nameAr
    sku := (input.sku.map trim).getD row.sku
    barcode := trimmedOver input.barcode row.barcode
    color := trimmedOver input.color row.color
    priceMillimes := input.priceMillimes.getD row.priceMillimes
    promotionalPriceMillimes := input.promotionalPriceMillimes.mergedOver row.promotionalPriceMillimes
    taxRateBps := input.taxRateBps.getD row.taxRateBps
    sortOrder := input.sortOrder.getD row.sortOrder
    publicationStatus := (input.publicationStatus.map (·.status)).getD row.publicationStatus
    archivedAt := if input.publicationStatus = some .published then none else row.archivedAt
    attributeValueIds := (input.attributeValueIds.map uniqueAttributes).getD row.attributeValueIds
    version := row.version + 1 }

theorem updatedVariant_key (input : UpdateProductVariant) (row : ProductVariant) :
    (updatedVariant input row).id = row.id := rfl

def UpdateProductVariant.changesNothing (input : UpdateProductVariant) : Bool :=
  input.nameFr.isNone && input.nameAr.isNone && input.sku.isNone && !Field.isGiven input.barcode &&
    !Field.isGiven input.color && input.priceMillimes.isNone &&
    !Field.isGiven input.promotionalPriceMillimes && input.taxRateBps.isNone &&
    input.sortOrder.isNone && !input.otherColumns && input.publicationStatus.isNone &&
    input.attributeValueIds.isNone

def update (state : CatalogState) (productId variantId : Id) (input : UpdateProductVariant) (now : Int) :
    Except Failure CatalogState := do
  let current <- requireVariant state productId variantId
  throwIf current.archivedAt.isSome archivedConflict
  throwIf input.changesNothing (badRequest "NO_VARIANT_CHANGES")
  throwIf (current.version ≠ input.version) versionConflict
  let price := input.priceMillimes.getD current.priceMillimes
  let promotion := input.promotionalPriceMillimes.mergedOver current.promotionalPriceMillimes
  validatePrices price promotion
  let sku := (input.sku.map trim).getD current.sku
  let targetStatus := (input.publicationStatus.map (·.status)).getD current.publicationStatus
  requireWhen (targetStatus = .published /\ current.publicationStatus = .published)
    (validatePublishedUpdate sku price promotion)
  requireWhen (targetStatus = .published /\ current.publicationStatus ≠ .published)
    (validatePublication state productId variantId sku price promotion now)
  input.attributeValueIds.toList.forM fun ids => validateAttributes state productId (uniqueAttributes ids)
  -- Publishing, too, locks the product's row, which has to be there.
  requireWhen (targetStatus = .published) (currentProduct state productId >>= fun _ => .ok ())
  requireWhen (current.publicationStatus = .published /\ targetStatus ≠ .published)
    (ensurePublishedProductRetainsSellableVariant state productId variantId)
  assertUniqueIdentifiers state (updatedVariant input current)
  let variants <- Database.updateOne state.variants
    (fun row => row.id == variantId && row.productId == productId && row.version == input.version &&
      row.deletedAt.isNone)
    (updatedVariant input) (updatedVariant_key input) versionConflict
  return { state with variants }

def shelvedVariant (archive : Bool) (now : Int) (row : ProductVariant) : ProductVariant :=
  { row with
    archivedAt := if archive then some now else none
    publicationStatus := .draft
    version := row.version + 1 }

theorem shelvedVariant_key (archive : Bool) (now : Int) (row : ProductVariant) :
    (shelvedVariant archive now row).id = row.id := rfl

def changeArchive (state : CatalogState) (productId variantId : Id) (version : Int) (archive : Bool)
    (now : Int) : Except Failure CatalogState := do
  let current <- requireVariant state productId variantId
  throwIf (current.version ≠ version) versionConflict
  throwIf (current.archivedAt.isSome = archive)
    (conflict (if archive then "VARIANT_ALREADY_ARCHIVED" else "VARIANT_NOT_ARCHIVED"))
  requireWhen (archive /\ current.publicationStatus = .published)
    (ensurePublishedProductRetainsSellableVariant state productId variantId)
  let variants <- Database.updateOne state.variants
    (fun row => row.id == variantId && row.productId == productId && row.version == version &&
      row.deletedAt.isNone)
    (shelvedVariant archive now) (shelvedVariant_key archive now) versionConflict
  return { state with variants }

section Inversion

variable {state next : CatalogState} {productId id : Id} {now version : Int}

theorem requireVariant_ok {variant : ProductVariant}
    (found : requireVariant state productId id = .ok variant) :
    variant ∈ state.variants.rows /\ variant.id = id /\ variant.productId = productId /\
      variant.deletedAt = none := by
  simp only [requireVariant, orThrow_ok, Option.filter_eq_some_iff, Bool.and_eq_true, beq_iff_eq,
    Option.isNone_iff_eq_none] at found
  exact ⟨Table.find?_mem found.1, Table.find?_key found.1, found.2.1, found.2.2⟩

theorem create_ok {input : CreateProductVariant} (ran : create state productId id input = .ok next) :
    exists variants, pricesInOrder input.priceMillimes input.promotionalPriceMillimes = true /\
      state.variants.insert? (createdVariant id productId input) = some variants /\
      next = { state with variants } := by
  simp only [create, validatePrices, bind_ok, throwIf_ok, not_not, Database.create_ok, pure_ok] at ran
  obtain ⟨_, -, _, ordered, _, -, _, -, variants, inserted, rfl⟩ := ran
  exact ⟨variants, ordered, inserted, rfl⟩

def targetStatus (input : UpdateProductVariant) (current : ProductVariant) : PublicationStatus :=
  (input.publicationStatus.map (·.status)).getD current.publicationStatus

theorem update_ok {input : UpdateProductVariant}
    (ran : update state productId id input now = .ok next) :
    exists current variants, requireVariant state productId id = .ok current /\
      Table.RewroteOne state.variants variants (updatedVariant input) current /\
      next = { state with variants } /\ current.archivedAt = none /\
      pricesInOrder (input.priceMillimes.getD current.priceMillimes)
        (input.promotionalPriceMillimes.mergedOver current.promotionalPriceMillimes) = true /\
      (targetStatus input current = .published ->
        0 < (input.priceMillimes.getD current.priceMillimes).millimes) /\
      (current.publicationStatus = .published /\ targetStatus input current ≠ .published ->
        ensurePublishedProductRetainsSellableVariant state productId id = .ok ()) := by
  simp only [update, validatePrices, bind_ok, throwIf_ok, requireWhen_ok, not_not,
    Database.updateOne_ok, pure_ok] at ran
  obtain ⟨current, read, _, listed, _, -, _, -, _, ordered, _, stays, _, publishes, _, -, _, -, _, retained,
    _, -, variants, ⟨one, rfl⟩, rfl⟩ := ran
  obtain ⟨member, rfl, rfl, -⟩ := requireVariant_ok read
  refine ⟨current, _, read, Table.rewroteOne one member fun row hit => ?_, rfl, by simpa using listed,
    ordered, fun target => ?_, retained⟩
  next =>
    simp only [Bool.and_eq_true, beq_iff_eq] at hit
    exact hit.1.1.1
  next =>
    by_cases known : current.publicationStatus = .published
    next =>
      have checked := stays ⟨target, known⟩
      simp only [validatePublishedUpdate, throwIf_ok, notPositive, Bool.or_eq_true, decide_eq_true_eq,
        not_or, not_le] at checked
      exact checked.2.1
    next =>
      have checked := publishes ⟨target, known⟩
      simp only [validatePublication, bind_ok, throwIf_ok, not_not] at checked
      obtain ⟨product, -, _, -, none⟩ := checked
      simp only [publicationBlockers, blockedBy, List.append_eq_nil_iff, notPositive] at none
      by_contra priced
      simp [priced] at none

theorem changeArchive_ok {archive : Bool}
    (ran : changeArchive state productId id version archive now = .ok next) :
    exists current variants, requireVariant state productId id = .ok current /\
      Table.RewroteOne state.variants variants (shelvedVariant archive now) current /\
      next = { state with variants } /\ current.archivedAt.isSome ≠ archive /\
      (archive = true /\ current.publicationStatus = .published ->
        ensurePublishedProductRetainsSellableVariant state productId id = .ok ()) := by
  simp only [changeArchive, bind_ok, throwIf_ok, requireWhen_ok, Database.updateOne_ok, pure_ok] at ran
  obtain ⟨current, read, _, -, _, turned, _, retained, variants, ⟨one, rfl⟩, rfl⟩ := ran
  obtain ⟨member, rfl, rfl, -⟩ := requireVariant_ok read
  refine ⟨current, _, read, Table.rewroteOne one member fun row hit => ?_, rfl, turned, retained⟩
  simp only [Bool.and_eq_true, beq_iff_eq] at hit
  exact hit.1.1.1

theorem retains_ok (ran : ensurePublishedProductRetainsSellableVariant state productId id = .ok ()) :
    exists product, product ∈ state.products.rows /\ product.id = productId /\
      (product.publicationStatus = .published -> exists variant, variant ∈ state.variants.rows /\
        variant.productId = productId /\ variant.id ≠ id /\ publicSellableVariant variant = true) := by
  simp only [ensurePublishedProductRetainsSellableVariant, currentProduct, bind_ok, orThrow_ok, throwIf_ok,
    Option.filter_eq_some_iff, not_and] at ran
  obtain ⟨product, ⟨found, -⟩, retained⟩ := ran
  refine ⟨product, Table.find?_mem found, Table.find?_key found, fun published => ?_⟩
  have counted := retained published
  obtain ⟨variant, there⟩ := List.length_pos_iff_exists_mem.1 (Nat.pos_of_ne_zero counted)
  simp only [Table.filter, List.mem_filter, Bool.and_eq_true, beq_iff_eq, bne_iff_ne] at there
  exact ⟨variant, there.1, there.2.1.1, there.2.1.2, there.2.2⟩

end Inversion

end VapeCommerce.Catalog.Variants
