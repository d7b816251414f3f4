import VapeCommerce.Schema

set_option autoImplicit false

-- What administrators and the catalogue maintain, and the modelled services only read.
namespace VapeCommerce.Config

open VapeCommerce.Schema

-- The JSON values a setting row may hold; numbers are those Number.isSafeInteger accepts.
inductive JsonValue where
  | boolean (value : Bool)
  | integer (value : Int)
  | text (value : Text)
  | other
deriving DecidableEq, Repr

inductive StoreSettingKey where
  | checkoutEnabled
  | maintenanceMode
  | prelaunchMode
  | storeName
  | storePhone
  | storeEmail
  | storeAddress
deriving DecidableEq, Repr

inductive ComplianceSettingKey where
  | minimumPurchaseAge
  | ageGateEntryEnabled
  | ageGateCheckoutEnabled
  | consentTermsRequired
  | consentPrivacyRequired
  | consentRecordingEnabled
  | deliveryAgeVerificationRequired
deriving DecidableEq, Repr

structure Environment where
  checkoutEnabled : Bool
  maintenanceMode : Bool
  prelaunchMode : Bool

structure Restriction where
  active : Bool
  startsAt : Int
  endsAt : Option Int

-- The publication columns that brands, categories and products share.
structure Listing where
  published : Bool
  archivedAt : Option Int
  suspendedAt : Option Int
  deletedAt : Option Int
  restrictions : List Restriction

structure ProductImage where
  deletedAt : Option Int
  approved : Bool

structure ProductVariant where
  id : Id
  productId : Id
  published : Bool
  archivedAt : Option Int
  deletedAt : Option Int
  priceMillimes : Int
  promotionalPriceMillimes : Option Int
  taxRateBps : Int
  weightGrams : Int
  images : List ProductImage

structure Product where
  id : Id
  listing : Listing
  publishedAt : Option Int
  category : Listing
  brand : Option Listing
  minimumAge : Option Int
  images : List ProductImage

structure Governorate where
  id : Id
  active : Bool

structure Delegation where
  id : Id
  governorateId : Id
  active : Bool

structure DeliveryZone where
  id : Id
  active : Bool
  supported : Bool
  temporarilySuspended : Bool
  priority : Int
  minOrderMillimes : Option Int
  maxCodMillimes : Option Int
  freeDeliveryThresholdMillimes : Option Int
  phoneConfirmationRequired : Bool
  manualReviewRequired : Bool

structure ZoneLink where
  deliveryZoneId : Id
  active : Bool
  priorityOverride : Option Int

structure Locality where
  id : Id
  delegationId : Id
  active : Bool
  zoneLinks : List ZoneLink

inductive DeliveryRateType where
  | base
  | governorate
  | delegation
  | locality
  | remoteSurcharge
  | weightSurcharge
  | oversizeSurcharge
  | expressSurcharge
deriving DecidableEq, Repr

structure DeliveryRate where
  id : Id
  active : Bool
  validFrom : Option Int
  validUntil : Option Int
  type : DeliveryRateType
  priority : Int
  feeMillimes : Int
  deliveryZoneId : Option Id
  governorateId : Option Id
  delegationId : Option Id
  localityId : Option Id
  minWeightGrams : Option Int
  maxWeightGrams : Option Int
  minOrderMillimes : Option Int
  maxOrderMillimes : Option Int
  maxCodMillimes : Option Int

structure PickupLocation where
  id : Id
  active : Bool
  minOrderMillimes : Option Int
  maxCodMillimes : Option Int

structure PostalCode where
  localityId : Id
  code : Text
  active : Bool

inductive LegalDocumentType where
  | termsAndConditions
  | privacyPolicy
  | other
deriving DecidableEq, Repr

structure LegalDocumentVersion where
  id : Id
  type : LegalDocumentType
  locale : Text
  published : Bool
  publishedAt : Option Int
  effectiveAt : Option Int
  retiredAt : Option Int

structure BlocklistEntry where
  active : Bool
  startsAt : Int
  expiresAt : Option Int

-- A user row of the customer audience with its profile.
structure CustomerUser where
  id : Id
  profileId : Id
  active : Bool
  deletedAt : Option Int
  suspendedAt : Option Int
  anonymizedAt : Option Int
  locale : Text
  blocklistEntries : List BlocklistEntry

structure InventoryLocation where
  id : Id
  active : Bool
  fulfillsOrders : Bool

structure Supplier where
  id : Id
  active : Bool

structure CourierDeliveryZone where
  deliveryZoneId : Id
  active : Bool
  feeMillimes : Option Int

structure Courier where
  id : Id
  active : Bool
  available : Bool
  defaultFeeMillimes : Option Int
  maximumActiveDeliveries : Option Int
  deliveryZones : List CourierDeliveryZone

structure Configuration where
  environment : Environment
  storeSettings : List (StoreSettingKey × JsonValue)
  complianceSettings : List (ComplianceSettingKey × JsonValue)
  products : List Product
  variants : List ProductVariant
  governorates : List Governorate
  delegations : List Delegation
  localities : List Locality
  deliveryZones : List DeliveryZone
  deliveryRates : List DeliveryRate
  pickupLocations : List PickupLocation
  postalCodes : List PostalCode
  legalDocumentVersions : List LegalDocumentVersion
  customers : List CustomerUser
  inventoryLocations : List InventoryLocation
  suppliers : List Supplier
  couriers : List Courier
  partialCodCollection : Bool
  variantIds : (variants.map ProductVariant.id).Nodup

end VapeCommerce.Config
