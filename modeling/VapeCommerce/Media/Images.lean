import VapeCommerce.Catalog.Tables
import VapeCommerce.Lib.Numerals

set_option autoImplicit false

-- product-media.service.ts: the images of products and variants. Files, their renditions and the
-- object storage are outside; a call carries what they have answered.
namespace VapeCommerce.Media

open VapeCommerce.Lib VapeCommerce.Lib.Outcome VapeCommerce.Schema VapeCommerce.Database
open VapeCommerce.Catalog
  (ImageModerationStatus CatalogImportSource CatalogSourceEntityType Product ProductVariant)

def maxImagesPerOwner : Nat := 20

structure ProductImage where
  id : Id
  productId : Option Id
  variantId : Option Id
  checksumSha256 : Text
  altTextFr : Text
  altTextAr : Text
  sortOrder : Int
  isPrimary : Bool
  moderationStatus : ImageModerationStatus
  deletedAt : Option Int
deriving DecidableEq

structure CatalogImportRow where
  id : Id
  productPostVersion : Option Int
  postVersion : Option Int

structure CatalogSourceRecord where
  id : Id
  source : CatalogImportSource
  entityType : CatalogSourceEntityType
  externalKey : Text
  sourceUrl : Text
  contentHash : Option Text
  verifiedAt : Option Int
  imageId : Option Id

def CatalogSourceRecord.key (record : CatalogSourceRecord) :
    CatalogImportSource × CatalogSourceEntityType × Text :=
  (record.source, record.entityType, record.externalKey)

structure MediaState where
  products : Table Product.id
  variants : Table ProductVariant.id
  productImages : Table ProductImage.id
  catalogImportRows : Table CatalogImportRow.id
  catalogSourceRecords : Table CatalogSourceRecord.id

inductive OwnerKind where
  | product
  | variant
deriving DecidableEq

structure ImageOwner where
  kind : OwnerKind
  id : Id
deriving DecidableEq

structure MediaOwner extends ImageOwner where
  productId : Id
  version : Int

-- What the validator made of the uploaded file, and whether the storage took it.
structure UploadedProductImage where
  checksumSha256 : Except Failure Text
  stored : Bool

structure UploadProductImageDto where
  expectedOwnerVersion : Int
  variantId : Option Id
  altTextFr : Text
  altTextAr : Text
  isPrimary : Option Bool

structure ImportedProductImageProvenance where
  source : CatalogImportSource
  externalKey : Text
  sourceUrl : Text
  expectedProductVersion : Int
  productCheckpointRowIds : List Id
  variantCheckpointRowId : Option Id

structure UpdateProductImageMetadataDto where
  expectedOwnerVersion : Int
  altTextFr : Option Text
  altTextAr : Option Text

inductive ReviewDecision where
  | approve
  | reject
deriving DecidableEq

structure ReviewProductImageDto where
  expectedOwnerVersion : Int
  decision : ReviewDecision

structure ReorderProductImagesDto where
  expectedOwnerVersion : Int
  variantId : Option Id
  imageIds : List Id
  sized : 1 <= imageIds.length /\ imageIds.length <= 20
  unique : imageIds.Nodup

structure ReplaceProductImageDto where
  expectedOwnerVersion : Int
  altTextFr : Option Text
  altTextAr : Option Text

def imageLimitReached : Failure := conflict "PRODUCT_IMAGE_LIMIT_REACHED"

def imageDuplicate : Failure := conflict "PRODUCT_IMAGE_DUPLICATE"

def imageUnchanged : Failure := conflict "PRODUCT_IMAGE_UNCHANGED"

def ownerNotFound : Failure := notFound "PRODUCT_MEDIA_OWNER_NOT_FOUND"

def imageNotFound : Failure := notFound "PRODUCT_IMAGE_NOT_FOUND"

def versionConflict : Failure := conflict "PRODUCT_MEDIA_VERSION_CONFLICT"

def storageUnavailable : Failure := unavailable "MEDIA_STORAGE_UNAVAILABLE"

def ownerIntegrityError : Failure := unavailable "MEDIA_OWNER_INTEGRITY_ERROR"

def checkpointInvalid : Failure := unavailable "CATALOG_MEDIA_CHECKPOINT_INVALID"

def historicalCatalogSourceExternalKey (sourceRecordId : Id) : Text :=
  "history::".toList ++ Numerals.decimal sourceRecordId

def assertVersion (actual expected : Int) : Except Failure Unit :=
  throwIf (actual ≠ expected) versionConflict

def findProduct (media : MediaState) (productId : Id) : Except Failure Product :=
  orThrow ((media.products.find? productId).filter fun product => product.deletedAt.isNone)
    ownerNotFound

def resolveOwner (media : MediaState) (productId : Id) (variantId : Option Id) :
    Except Failure MediaOwner := do
  match variantId with
  | some variantId =>
    let variant <- orThrow ((media.variants.find? variantId).filter fun variant =>
      variant.productId == productId && variant.deletedAt.isNone) ownerNotFound
    let _ <- findProduct media productId
    return { kind := .variant, id := variant.id, productId := variant.productId, version := variant.version }
  | none =>
    let product <- findProduct media productId
    return { kind := .product, id := product.id, productId := product.id, version := product.version }

-- The row lock is the transaction itself.
def lockOwner (media : MediaState) (owner : MediaOwner) (expectedVersion : Int) :
    Except Failure MediaOwner := do
  let current <- resolveOwner media owner.productId
    (match owner.kind with
    | .product => none
    | .variant => some owner.id)
  assertVersion current.version expectedVersion
  return current

def bumpOwner (media : MediaState) (owner : MediaOwner) (expectedVersion : Int)
    (markProductMediaReview : Bool) : Except Failure MediaState :=
  match owner.kind with
  | .product => do
    let products <- updateOne media.products
      (fun product => decide (product.id = owner.id) && product.deletedAt.isNone &&
        decide (product.version = expectedVersion))
      (fun product => { product with
        version := product.version + 1
        needsMediaReview := product.needsMediaReview || markProductMediaReview })
      (fun _ => rfl) versionConflict
    return { media with products }
  | .variant => do
    let variants <- updateOne media.variants
      (fun variant => decide (variant.id = owner.id) && variant.productId == owner.productId &&
        variant.deletedAt.isNone && decide (variant.version = expectedVersion))
      (fun variant => { variant with version := variant.version + 1 }) (fun _ => rfl) versionConflict
    return { media with variants }

-- The product of a variant whose images need another look.
def flagProduct (media : MediaState) (productId : Id) (version : Int) : Except Failure MediaState := do
  let products <- updateOne media.products
    (fun product => decide (product.id = productId) && decide (product.version = version) &&
      product.deletedAt.isNone)
    (fun product => { product with needsMediaReview := true, version := product.version + 1 })
    (fun _ => rfl) versionConflict
  return { media with products }

def ownerImageWhere (owner : ImageOwner) (image : ProductImage) : Bool :=
  match owner.kind with
  | .product => image.productId == some owner.id && image.variantId.isNone
  | .variant => image.productId.isNone && image.variantId == some owner.id

def liveOf (owner : ImageOwner) (image : ProductImage) : Bool :=
  ownerImageWhere owner image && image.deletedAt.isNone

def ownerFromImage (media : MediaState) (image : ProductImage) : Except Failure MediaOwner :=
  match image.productId, image.variantId with
  | some productId, none => do
    let product <- orThrow (media.products.find? productId) ownerIntegrityError
    return { kind := .product, id := productId, productId := productId, version := product.version }
  | none, some variantId => do
    let variant <- orThrow (media.variants.find? variantId) ownerIntegrityError
    return { kind := .variant, id := variantId, productId := variant.productId, version := variant.version }
  | _, _ => .error ownerIntegrityError

-- Any image of the product or of one of its variants.
def scopedTo (media : MediaState) (productId : Id) (image : ProductImage) : Bool :=
  (image.productId == some productId && image.variantId.isNone) ||
    (image.productId.isNone && (image.variantId.bind media.variants.find?).any fun variant =>
      variant.productId == productId)

def findScopedImage (media : MediaState) (productId imageId : Id) :
    Except Failure (ProductImage × MediaOwner) := do
  let image <- orThrow ((media.productImages.find? imageId).filter fun image =>
    image.deletedAt.isNone && scopedTo media productId image) imageNotFound
  let owner <- ownerFromImage media image
  return (image, owner)

def findExactImage (media : MediaState) (imageId : Id) (owner : MediaOwner) :
    Except Failure ProductImage :=
  orThrow ((media.productImages.find? imageId).filter (liveOf owner.toImageOwner)) imageNotFound

def assertNoDuplicate (media : MediaState) (owner : MediaOwner) (checksumSha256 : Text)
    (excludedImageId : Option Id) : Except Failure Unit :=
  throwIf (media.productImages.rows.any (fun image => liveOf owner.toImageOwner image &&
    image.checksumSha256 == checksumSha256 && excludedImageId != some image.id)) imageDuplicate

def clearPrimary (images : Table ProductImage.id) (owner : MediaOwner) : Table ProductImage.id :=
  images.update (fun image => liveOf owner.toImageOwner image && image.isPrimary)
    (fun image => { image with isPrimary := false }) (fun _ => rfl)

-- `updateMany` of one live image by its id and its owner.
def updateImage (images : Table ProductImage.id) (owner : MediaOwner) (imageId : Id)
    (change : ProductImage -> ProductImage) (keeps : forall image, (change image).id = image.id) :
    Except Failure (Table ProductImage.id) :=
  updateOne images (fun image => decide (image.id = imageId) && liveOf owner.toImageOwner image) change
    keeps imageNotFound

-- `(aggregate._max.sortOrder ?? -1) + 1`
def nextSortOrder (images : Table ProductImage.id) (owner : MediaOwner) : Int :=
  (((images.filter (liveOf owner.toImageOwner)).map (·.sortOrder)).max?.getD (-1)) + 1

-- `ownerData` beside the columns a new image is given.
def newImage (owner : MediaOwner) (id : Id) (checksumSha256 altTextFr altTextAr : Text) (sortOrder : Int)
    (isPrimary : Bool) (moderationStatus : ImageModerationStatus) : ProductImage where
  id := id
  productId := match owner.kind with | .product => some owner.id | .variant => none
  variantId := match owner.kind with | .product => none | .variant => some owner.id
  checksumSha256 := checksumSha256
  altTextFr := altTextFr
  altTextAr := altTextAr
  sortOrder := sortOrder
  isPrimary := isPrimary
  moderationStatus := moderationStatus
  deletedAt := none

-- What the two uploads do to the images; whether the new one is primary may depend on their number.
def addImage (media : MediaState) (owner : MediaOwner) (id : Id) (checksumSha256 : Text)
    (input : UploadProductImageDto) (primary : Nat -> Bool) (moderationStatus : ImageModerationStatus) :
    Except Failure MediaState := do
  assertNoDuplicate media owner checksumSha256 none
  let count := media.productImages.count (liveOf owner.toImageOwner)
  throwIf (count >= maxImagesPerOwner) imageLimitReached
  let sortOrder := nextSortOrder media.productImages owner
  let cleared := if primary count then clearPrimary media.productImages owner else media.productImages
  let productImages <- create cleared
    (newImage owner id checksumSha256 input.altTextFr input.altTextAr sortOrder (primary count)
      moderationStatus)
  return { media with productImages }

def upload (media : MediaState) (productId id : Id) (input : UploadProductImageDto)
    (file : UploadedProductImage) : Except Failure MediaState := do
  let checksumSha256 <- file.checksumSha256
  let preflightOwner <- resolveOwner media productId input.variantId
  assertVersion preflightOwner.version input.expectedOwnerVersion
  throwIf (file.stored = false) storageUnavailable
  let owner <- lockOwner media preflightOwner input.expectedOwnerVersion
  let media <- addImage media owner id checksumSha256 input
    (fun count => input.isPrimary == some true || count == 0) .approved
  bumpOwner media owner input.expectedOwnerVersion false

def recordCheckpoints (media : MediaState) (provenance : ImportedProductImageProvenance)
    (productVersion ownerVersion : Int) : Except Failure MediaState := do
  let checkpointRowIds := provenance.productCheckpointRowIds.dedup
  let chosen := fun row : CatalogImportRow => decide (row.id ∈ checkpointRowIds)
  throwIf (media.catalogImportRows.count chosen ≠ checkpointRowIds.length) checkpointInvalid
  let rows := media.catalogImportRows.update chosen
    (fun row => { row with productPostVersion := some productVersion }) (fun _ => rfl)
  match provenance.variantCheckpointRowId with
  | none => return { media with catalogImportRows := rows }
  | some rowId =>
    let rows <- updateOne rows (fun row => decide (row.id = rowId))
      (fun row => { row with postVersion := some ownerVersion }) (fun _ => rfl) checkpointInvalid
    return { media with catalogImportRows := rows }

-- The record that held the key before gives it up for one of its own.
def recordSource (media : MediaState) (id : Id) (provenance : ImportedProductImageProvenance)
    (checksumSha256 : Text) (imageId : Id) (now : Int) : Except Failure MediaState := do
  let key := (provenance.source, CatalogSourceEntityType.image, provenance.externalKey)
  let records := media.catalogSourceRecords
  let renamed <- (match records.lookup CatalogSourceRecord.key key with
    | none => .ok records
    | some superseded => do
      let history := historicalCatalogSourceExternalKey superseded.id
      throwIf ((records.lookup CatalogSourceRecord.key
        (superseded.source, superseded.entityType, history)).any (·.id != superseded.id)) uniqueViolation
      return records.update (fun record => decide (record.id = superseded.id))
        (fun record => { record with externalKey := history }) (fun _ => rfl))
  throwIf (renamed.lookup CatalogSourceRecord.key key).isSome uniqueViolation
  let catalogSourceRecords <- create renamed {
    id
    source := provenance.source
    entityType := .image
    externalKey := provenance.externalKey
    sourceUrl := provenance.sourceUrl
    contentHash := some checksumSha256
    verifiedAt := if provenance.source = .wotofoOfficial then some now else none
    imageId := some imageId }
  return { media with catalogSourceRecords }

def uploadImported (media : MediaState) (productId id sourceRecordId : Id)
    (input : UploadProductImageDto) (file : UploadedProductImage)
    (provenance : ImportedProductImageProvenance) (now : Int) : Except Failure MediaState := do
  let checksumSha256 <- file.checksumSha256
  let preflightOwner <- resolveOwner media productId input.variantId
  assertVersion preflightOwner.version input.expectedOwnerVersion
  let preflightProduct <- findProduct media productId
  assertVersion preflightProduct.version provenance.expectedProductVersion
  throwIf (provenance.productCheckpointRowIds = [] \/
    decide (preflightOwner.kind = .variant) ≠ provenance.variantCheckpointRowId.isSome) checkpointInvalid
  throwIf (file.stored = false) storageUnavailable
  let isOfficial := decide (provenance.source = .wotofoOfficial)
  let owner <- lockOwner media preflightOwner input.expectedOwnerVersion
  let media <- addImage media owner id checksumSha256 input (fun _ => isOfficial)
    (if isOfficial then .approved else .pending)
  let media <- bumpOwner media owner input.expectedOwnerVersion
    (!isOfficial && decide (owner.kind = .product))
  let ownerVersion := input.expectedOwnerVersion + 1
  let flags := decide (owner.kind = .variant) && !isOfficial
  let media <- (if flags then flagProduct media productId provenance.expectedProductVersion
    else .ok media)
  let productVersion := if owner.kind = .product then ownerVersion
    else if flags then provenance.expectedProductVersion + 1 else provenance.expectedProductVersion
  let media <- recordCheckpoints media provenance productVersion ownerVersion
  recordSource media sourceRecordId provenance checksumSha256 id now

def updateMetadata (media : MediaState) (productId imageId : Id)
    (input : UpdateProductImageMetadataDto) : Except Failure MediaState := do
  throwIf (input.altTextFr = none /\ input.altTextAr = none) (badRequest "IMAGE_METADATA_UPDATE_EMPTY")
  let (_, initialOwner) <- findScopedImage media productId imageId
  let owner <- lockOwner media initialOwner input.expectedOwnerVersion
  let current <- findExactImage media imageId owner
  let productImages <- updateImage media.productImages owner current.id
    (fun image => { image with
      altTextFr := input.altTextFr.getD image.altTextFr
      altTextAr := input.altTextAr.getD image.altTextAr }) (fun _ => rfl)
  bumpOwner { media with productImages } owner input.expectedOwnerVersion false

def review (media : MediaState) (productId imageId : Id) (input : ReviewProductImageDto) :
    Except Failure MediaState := do
  let (_, preflightOwner) <- findScopedImage media productId imageId
  assertVersion preflightOwner.version input.expectedOwnerVersion
  let product <- findProduct media productId
  let owner <- lockOwner media preflightOwner input.expectedOwnerVersion
  let current <- findExactImage media imageId owner
  throwIf (current.moderationStatus ≠ .pending) (conflict "PRODUCT_IMAGE_REVIEW_NOT_PENDING")
  let approved := decide (input.decision = .approve)
  let existingPrimary := approved && media.productImages.rows.any fun image =>
    liveOf owner.toImageOwner image && image.moderationStatus == .approved && image.isPrimary &&
      image.id != current.id
  let makePrimary := approved && !existingPrimary
  let cleared := if makePrimary then clearPrimary media.productImages owner else media.productImages
  let productImages <- updateOne cleared
    (fun image => decide (image.id = current.id) && liveOf owner.toImageOwner image &&
      image.moderationStatus == .pending)
    (fun image => { image with
      moderationStatus := if approved then .approved else .rejected
      isPrimary := makePrimary }) (fun _ => rfl) imageNotFound
  let media <- bumpOwner { media with productImages } owner input.expectedOwnerVersion
    (decide (owner.kind = .product))
  if owner.kind = .product then return media else flagProduct media productId product.version

def setPrimary (media : MediaState) (productId imageId : Id) (expectedOwnerVersion : Int) :
    Except Failure MediaState := do
  let (_, initialOwner) <- findScopedImage media productId imageId
  let owner <- lockOwner media initialOwner expectedOwnerVersion
  let current <- findExactImage media imageId owner
  throwIf (current.moderationStatus ≠ .approved) (conflict "IMAGE_NOT_APPROVED")
  let productImages <- updateImage (clearPrimary media.productImages owner) owner current.id
    (fun image => { image with isPrimary := true }) (fun _ => rfl)
  bumpOwner { media with productImages } owner expectedOwnerVersion false

-- `orderBy: [{ sortOrder: 'asc' }, { id: 'asc' }]`
def imageBefore (left right : ProductImage) : Prop :=
  left.sortOrder < right.sortOrder \/ (left.sortOrder = right.sortOrder /\ left.id <= right.id)

instance : DecidableRel imageBefore := fun _ _ => inferInstanceAs (Decidable (_ \/ _))

def reorder (media : MediaState) (productId : Id) (input : ReorderProductImagesDto) :
    Except Failure MediaState := do
  let initialOwner <- resolveOwner media productId input.variantId
  let owner <- lockOwner media initialOwner input.expectedOwnerVersion
  let current := ((media.productImages.filter (liveOf owner.toImageOwner)).insertionSort imageBefore).take
    (maxImagesPerOwner + 1)
  throwIf (current.length ≠ input.imageIds.length \/
      exists imageId, imageId ∈ input.imageIds /\ Not (imageId ∈ current.map (·.id)))
    (badRequest "IMAGE_REORDER_SET_MISMATCH")
  let productImages <- input.imageIds.zipIdx.foldlM
    (fun images (imageId, sortOrder) =>
      updateImage images owner imageId (fun image => { image with sortOrder := sortOrder }) (fun _ => rfl))
    media.productImages
  bumpOwner { media with productImages } owner input.expectedOwnerVersion false

def replace (media : MediaState) (productId imageId id : Id) (input : ReplaceProductImageDto)
    (file : UploadedProductImage) (now : Int) : Except Failure MediaState := do
  let checksumSha256 <- file.checksumSha256
  let (preflight, preflightOwner) <- findScopedImage media productId imageId
  assertVersion preflightOwner.version input.expectedOwnerVersion
  throwIf (preflight.moderationStatus ≠ .approved) (conflict "PRODUCT_IMAGE_REVIEW_REQUIRED")
  throwIf (file.stored = false) storageUnavailable
  let owner <- lockOwner media preflightOwner input.expectedOwnerVersion
  let current <- findExactImage media imageId owner
  throwIf (current.checksumSha256 = checksumSha256) imageUnchanged
  assertNoDuplicate media owner checksumSha256 (some current.id)
  let created <- create media.productImages
    (newImage owner id checksumSha256 (input.altTextFr.getD current.altTextFr)
      (input.altTextAr.getD current.altTextAr) current.sortOrder current.isPrimary .approved)
  let productImages <- updateImage created owner current.id
    (fun image => { image with deletedAt := some now, isPrimary := false }) (fun _ => rfl)
  bumpOwner { media with productImages } owner input.expectedOwnerVersion false

-- The approved image that takes over from a primary image that is removed.
def successor? (images : Table ProductImage.id) (owner : MediaOwner) : Option ProductImage :=
  ((images.filter fun image => liveOf owner.toImageOwner image &&
    image.moderationStatus == .approved).insertionSort imageBefore).head?

def remove (media : MediaState) (productId imageId : Id) (expectedOwnerVersion : Int) (now : Int) :
    Except Failure MediaState := do
  let (_, initialOwner) <- findScopedImage media productId imageId
  let owner <- lockOwner media initialOwner expectedOwnerVersion
  let current <- findExactImage media imageId owner
  let retired <- updateImage media.productImages owner current.id
    (fun image => { image with deletedAt := some now, isPrimary := false }) (fun _ => rfl)
  let replacement := if current.isPrimary then successor? retired owner else none
  let productImages := match replacement with
    | none => retired
    | some replacement =>
      retired.update
        (fun image => decide (image.id = replacement.id) && liveOf owner.toImageOwner image)
        (fun image => { image with isPrimary := true }) (fun _ => rfl)
  bumpOwner { media with productImages } owner expectedOwnerVersion false

-- `surroundings` is what the catalogue services have done to the other tables meanwhile.
inductive MediaCall where
  | upload (productId id : Id) (input : UploadProductImageDto) (file : UploadedProductImage)
  | uploadImported (productId id sourceRecordId : Id) (input : UploadProductImageDto)
      (file : UploadedProductImage) (provenance : ImportedProductImageProvenance)
  | updateMetadata (productId imageId : Id) (input : UpdateProductImageMetadataDto)
  | review (productId imageId : Id) (input : ReviewProductImageDto)
  | setPrimary (productId imageId : Id) (expectedOwnerVersion : Int)
  | reorder (productId : Id) (input : ReorderProductImagesDto)
  | replace (productId imageId id : Id) (input : ReplaceProductImageDto) (file : UploadedProductImage)
  | remove (productId imageId : Id) (expectedOwnerVersion : Int)
  | surroundings (products : Table Product.id) (variants : Table ProductVariant.id)
      (catalogImportRows : Table CatalogImportRow.id)
      (catalogSourceRecords : Table CatalogSourceRecord.id)

structure MediaRequest where
  now : Int
  call : MediaCall

def exec (media : MediaState) (request : MediaRequest) : Except Failure MediaState :=
  match request.call with
  | .upload productId id input file => upload media productId id input file
  | .uploadImported productId id sourceRecordId input file provenance =>
    uploadImported media productId id sourceRecordId input file provenance request.now
  | .updateMetadata productId imageId input => updateMetadata media productId imageId input
  | .review productId imageId input => review media productId imageId input
  | .setPrimary productId imageId expectedOwnerVersion =>
    setPrimary media productId imageId expectedOwnerVersion
  | .reorder productId input => reorder media productId input
  | .replace productId imageId id input file =>
    replace media productId imageId id input file request.now
  | .remove productId imageId expectedOwnerVersion =>
    remove media productId imageId expectedOwnerVersion request.now
  | .surroundings products variants catalogImportRows catalogSourceRecords =>
    .ok { media with products, variants, catalogImportRows, catalogSourceRecords }

-- A call that fails leaves the tables as they were.
def step (media : MediaState) (request : MediaRequest) : MediaState :=
  match exec media request with
  | .ok next => next
  | .error _ => media

end VapeCommerce.Media
