import VapeCommerce.Checkout.Quote
import VapeCommerce.DeliveryConfig.Rates

set_option autoImplicit false

-- The catalogue tables, with the columns the catalogue services read.
namespace VapeCommerce.Catalog

open VapeCommerce.Lib VapeCommerce.Lib.Outcome VapeCommerce.Schema
open VapeCommerce.DeliveryConfig

inductive PublicationStatus where
  | draft
  | published
  | suspended
  | archived
deriving DecidableEq, Repr

-- What an update may ask for; archiving has its own endpoint.
inductive MutablePublicationStatus where
  | draft
  | published
  | suspended
deriving DecidableEq, Repr

def MutablePublicationStatus.status : MutablePublicationStatus -> PublicationStatus
  | .draft => .draft
  | .published => .published
  | .suspended => .suspended

inductive ProductType where
  | device
  | eLiquid
  | pod
  | prefilledPodKit
  | prefilledReplacementPod
  | coil
  | disposable
  | accessory
  | other
deriving DecidableEq, Repr

inductive FlavorCategory where
  | fruit
  | mixedFruit
  | mint
  | ice
  | drink
  | tobacco
  | dessert
  | candy
  | clear
  | other
deriving DecidableEq, Repr

inductive ImageModerationStatus where
  | pending
  | approved
  | rejected
  | quarantined
deriving DecidableEq, Repr

inductive CatalogImportSource where
  | adminUpload
  | wotofoOfficial
deriving DecidableEq, Repr

inductive CatalogImportFormat where
  | csv
  | json
  | wotofo
deriving DecidableEq, Repr

inductive CatalogSourceEntityType where
  | product
  | variant
  | image
deriving DecidableEq, Repr

inductive CatalogImportStatus where
  | previewValid
  | previewInvalid
  | applying
  | applied
  | appliedWithWarnings
  | failed
  | rolledBack
deriving DecidableEq, Repr

inductive CatalogImportRowStatus where
  | valid
  | invalid
  | created
  | updated
  | skipped
  | failed
  | rolledBack
deriving DecidableEq, Repr

def databaseIntMax : Int := 2147483647

-- An amount as every request that can set one has checked it.
structure Amount where
  millimes : Int
  bounds : 0 <= millimes /\ millimes <= databaseIntMax
deriving DecidableEq

def Amount.zero : Amount := { millimes := 0, bounds := by decide }

structure TaxRate where
  bps : Int
  bounds : 0 <= bps /\ bps <= 10000
deriving DecidableEq

def TaxRate.zero : TaxRate := { bps := 0, bounds := by decide }

structure Brand where
  id : Id
  name : Text
  slug : Text
  descriptionFr : Option Text
  descriptionAr : Option Text
  publicationStatus : PublicationStatus
  suspendedAt : Option Int
  archivedAt : Option Int
  deletedAt : Option Int
  updatedAt : Int

structure Category where
  id : Id
  parentId : Option Id
  nameFr : Text
  nameAr : Text
  slug : Text
  descriptionFr : Option Text
  descriptionAr : Option Text
  sortOrder : Int
  publicationStatus : PublicationStatus
  suspendedAt : Option Int
  archivedAt : Option Int
  deletedAt : Option Int
  updatedAt : Int

-- The descriptive columns that an import writes as a whole; strengths and volumes in thousandths.
structure ProductDescription where
  nameFr : Text
  nameAr : Text
  productType : ProductType
  family : Option Text
  model : Option Text
  containsNicotine : Bool
  nicotineStrengthMg : Option Int
  puffCount : Option Int
  liquidCapacityMl : Option Int
deriving DecidableEq

structure Product where
  id : Id
  brandId : Option Id
  categoryId : Id
  description : ProductDescription
  slug : Text
  sku : Option Text
  barcode : Option Text
  flavor : Option Text
  basePriceMillimes : Option Amount
  promotionalPriceMillimes : Option Amount
  publicationStatus : PublicationStatus
  requiresPricing : Bool
  requiresStock : Bool
  needsMediaReview : Bool
  publishedAt : Option Int
  suspendedAt : Option Int
  archivedAt : Option Int
  deletedAt : Option Int
  version : Int

structure ProductVariant where
  id : Id
  productId : Id
  flavorId : Option Id
  nameFr : Text
  nameAr : Text
  sku : Text
  barcode : Option Text
  color : Option Text
  nicotineStrengthMg : Option Int
  priceMillimes : Amount
  promotionalPriceMillimes : Option Amount
  taxRateBps : TaxRate
  publicationStatus : PublicationStatus
  sortOrder : Int
  attributeValueIds : List Id
  archivedAt : Option Int
  deletedAt : Option Int
  version : Int

structure ProductImage where
  productId : Option Id
  variantId : Option Id
  moderationStatus : ImageModerationStatus
  deletedAt : Option Int

structure ProductAttributeValue where
  id : Id
  attributeId : Id
  productId : Id

structure Flavor where
  id : Id
  canonicalName : Text
  slug : Text
  nameFr : Text
  nameAr : Text
  category : FlavorCategory

structure CatalogSourceRecord where
  source : CatalogImportSource
  entityType : CatalogSourceEntityType
  externalKey : Text
  sourceUrl : Text
  verifiedAt : Option Int
  productId : Option Id
  variantId : Option Id

def CatalogSourceRecord.key (record : CatalogSourceRecord) :
    CatalogImportSource × CatalogSourceEntityType × Text :=
  (record.source, record.entityType, record.externalKey)

-- A row of an import file, as the contract accepts it; flavour columns are complete or absent.
structure CatalogImportRowInput where
  productKey : Text
  brand : Text
  categorySlug : Text
  description : ProductDescription
  slug : Text
  variantKey : Text
  variantNameFr : Text
  variantNameAr : Text
  flavor : Option (Text × Text × Text × FlavorCategory)
  color : Option Text
  sku : Text
  priceMillimes : Option Amount
  publicationStatus : Option PublicationStatus
  officialProductUrl : Option Text
  productImageUrl : Option Text
  variantImageUrl : Option Text
deriving DecidableEq

structure CatalogImportIssue where
  code : String
  field : Option String
deriving DecidableEq

structure ParsedCatalogImportRow where
  rowNumber : Nat
  input : Option CatalogImportRowInput
  issues : List CatalogImportIssue
deriving DecidableEq

structure CatalogImportOptions where
  importKey : Text
  format : CatalogImportFormat
  source : CatalogImportSource
  partialMode : Bool
  overridePrice : Bool
  overrideStatus : Bool
  overrideImages : Bool
deriving DecidableEq

structure CatalogImportRow where
  rowNumber : Nat
  stableIdentity : Text
  status : CatalogImportRowStatus
  action : String
  productId : Option Id
  variantId : Option Id
  productPostVersion : Option Int
  postVersion : Option Int

-- The hash of a payload and its options stands as the two themselves.
structure CatalogImportBatch extends CatalogImportOptions where
  id : Id
  dryRun : Bool
  payloadHash : List ParsedCatalogImportRow × CatalogImportOptions
  status : CatalogImportStatus
  payload : List ParsedCatalogImportRow
  previewBatchId : Option Id
  appliedCount : Nat
  rolledBackAt : Option Int
  rows : List CatalogImportRow

-- `db` holds what publication reads of stock and settings; other services maintain it.
structure CatalogState where
  db : Database.Db
  images : List ProductImage
  attributeValues : List ProductAttributeValue
  brands : Table Brand.id
  categories : Table Category.id
  products : Table Product.id
  variants : Table ProductVariant.id
  flavors : Table Flavor.canonicalName
  sourceRecords : Table CatalogSourceRecord.key
  imports : Table CatalogImportBatch.id

-- What the runtime computes from its Unicode tables.
structure Unicode where
  nfkd : Text -> Text
  lower : Text -> Text

-- `value?.trim() || null` at one property of an update.
def trimmedOver (field : Rates.Field Text) (current : Option Text) : Option Text :=
  match field with
  | .absent => current
  | .null => none
  | .given value => trimmedOrNull (some value)

def Field.isGiven {A : Type} : Rates.Field A -> Bool
  | .absent => false
  | .null => true
  | .given _ => true

inductive PublicationBlocker where
  | pricingReviewRequired
  | stockReviewRequired
  | mediaReviewRequired
  | mediaReviewPending
  | mediaReviewConfirmationRequired
  | sellableVariantMissing
  | nonPositivePrice
  | variantSkuInvalid
  | variantSkuDuplicate
  | availableStockMissing
  | approvedImageMissing
  | deliveryMethodMissing
deriving DecidableEq, Repr

def blockedBy (blocker : PublicationBlocker) (present : Bool) : List PublicationBlocker :=
  if present then [blocker] else []

def approvedPublicationImage (image : ProductImage) : Bool :=
  image.deletedAt.isNone && image.moderationStatus == .approved

def unresolvedImage (image : ProductImage) : Bool :=
  image.deletedAt.isNone &&
    (image.moderationStatus == .pending || image.moderationStatus == .quarantined)

-- The variant of an image that belongs to no product of its own.
def CatalogState.imageVariant (state : CatalogState) (image : ProductImage) : Option ProductVariant :=
  if image.productId.isNone then image.variantId.bind state.variants.find? else none

-- The product's own images and those of its variants.
def CatalogState.ownedImage (state : CatalogState) (productId : Id) (image : ProductImage) : Bool :=
  (image.productId == some productId && image.variantId == none) ||
    (state.imageVariant image).any fun variant =>
      variant.productId == productId && variant.deletedAt.isNone

def CatalogState.deliveryPublicationBlocker (state : CatalogState) (now : Int) : Bool :=
  (Checkout.Policy.evaluate state.db.config now).blockers.contains .deliveryMethodMissing

def publicVariant (variant : ProductVariant) : Bool :=
  variant.publicationStatus == .published && variant.archivedAt.isNone && variant.deletedAt.isNone

def publicSellableVariant (variant : ProductVariant) : Bool :=
  publicVariant variant && variant.priceMillimes.millimes > 0 &&
    variant.promotionalPriceMillimes.all fun promotion => promotion.millimes > 0

end VapeCommerce.Catalog
