import VapeCommerce.Database

set_option autoImplicit false

namespace VapeCommerce.Checkout.Policy

open VapeCommerce.Schema VapeCommerce.Config VapeCommerce.Database

inductive CheckoutBlocker where
  | checkoutDisabled
  | maintenanceMode
  | prelaunchMode
  | minimumAgeNotConfigured
  | storeInformationMissing
  | deliveryMethodMissing
deriving DecidableEq, Repr

structure CheckoutPolicyInput where
  checkoutEnabled : Bool
  maintenanceMode : Bool
  prelaunchMode : Bool
  minimumAge : Option Int
  minimumAgeRequired : Bool
  hasStoreInformation : Bool
  hasDeliveryMethod : Bool

def evaluateCheckoutPolicy (input : CheckoutPolicyInput) : List CheckoutBlocker :=
  (if input.checkoutEnabled then [] else [.checkoutDisabled]) ++
  (if input.maintenanceMode then [.maintenanceMode] else []) ++
  (if input.prelaunchMode then [.prelaunchMode] else []) ++
  (if input.minimumAgeRequired && input.minimumAge.all (fun age => age < 1) then
    [.minimumAgeNotConfigured] else []) ++
  (if input.hasStoreInformation then [] else [.storeInformationMissing]) ++
  (if input.hasDeliveryMethod then [] else [.deliveryMethodMissing])

structure CheckoutRequirements where
  entryAgeGateEnabled : Bool
  ageConfirmationRequired : Bool
  termsAcceptanceRequired : Bool
  privacyAcceptanceRequired : Bool
  consentRecordingEnabled : Bool
  deliveryAgeVerificationRequired : Bool

structure AuthoritativeCheckoutPolicy where
  allowed : Bool
  blockers : List CheckoutBlocker
  minimumAge : Option Int
  requirements : CheckoutRequirements

def jsonBoolean (value : Option JsonValue) : Bool :=
  decide (value = some (.boolean true))

def jsonNonEmptyString : Option JsonValue -> Bool
  | some (.text value) => (trim value).length > 0
  | _ => false

def jsonInteger : Option JsonValue -> Option Int
  | some (.integer value) => some value
  | _ => none

-- A missing requirement setting reads as required.
def configuredBoolean (values : List (ComplianceSettingKey × JsonValue))
    (key : ComplianceSettingKey) : Bool :=
  match values.lookup key with
  | some value => jsonBoolean (some value)
  | none => true

def validAt (rate : DeliveryRate) (now : Int) : Bool :=
  rate.validFrom.all (fun start => start <= now) && rate.validUntil.all (fun stop => stop > now)

def courierMethodCount (config : Configuration) (now : Int) : Nat :=
  (config.deliveryZones.filter fun zone =>
    zone.active && zone.supported && !zone.temporarilySuspended &&
      config.deliveryRates.any fun rate =>
        rate.deliveryZoneId == some zone.id && rate.active && rate.type == .base &&
          rate.feeMillimes >= 0 && rate.governorateId == none && rate.delegationId == none &&
          rate.localityId == none && validAt rate now).length

def pickupCount (config : Configuration) : Nat :=
  (config.pickupLocations.filter (·.active)).length

def evaluate (config : Configuration) (now : Int) : AuthoritativeCheckoutPolicy :=
  let store := fun key => config.storeSettings.lookup key
  let compliance := config.complianceSettings
  let minimumAge := jsonInteger (compliance.lookup .minimumPurchaseAge)
  let requirements : CheckoutRequirements := {
    entryAgeGateEnabled := configuredBoolean compliance .ageGateEntryEnabled
    ageConfirmationRequired := configuredBoolean compliance .ageGateCheckoutEnabled
    termsAcceptanceRequired := configuredBoolean compliance .consentTermsRequired
    privacyAcceptanceRequired := configuredBoolean compliance .consentPrivacyRequired
    consentRecordingEnabled := configuredBoolean compliance .consentRecordingEnabled
    deliveryAgeVerificationRequired :=
      configuredBoolean compliance .deliveryAgeVerificationRequired }
  let blockers := evaluateCheckoutPolicy {
    checkoutEnabled := config.environment.checkoutEnabled && jsonBoolean (store .checkoutEnabled)
    maintenanceMode := config.environment.maintenanceMode || jsonBoolean (store .maintenanceMode)
    prelaunchMode := config.environment.prelaunchMode || jsonBoolean (store .prelaunchMode)
    minimumAge
    minimumAgeRequired := requirements.entryAgeGateEnabled ||
      requirements.ageConfirmationRequired || requirements.deliveryAgeVerificationRequired
    hasStoreInformation := [.storeName, .storePhone, .storeEmail, .storeAddress].all fun key =>
      jsonNonEmptyString (store key)
    hasDeliveryMethod := pickupCount config > 0 || courierMethodCount config now > 0 }
  { allowed := blockers.isEmpty, blockers, minimumAge, requirements }

end VapeCommerce.Checkout.Policy
