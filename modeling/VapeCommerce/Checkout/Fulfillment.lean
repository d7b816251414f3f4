import VapeCommerce.Checkout.Pricing
import VapeCommerce.Checkout.Policy

set_option autoImplicit false

namespace VapeCommerce.Checkout.Fulfillment

open VapeCommerce.Lib.Outcome VapeCommerce.Schema VapeCommerce.Config VapeCommerce.Money
open VapeCommerce.Checkout.Pricing VapeCommerce.Checkout.Policy

-- A RangeError that no handler translates.
def rangeFailure : Failure := { kind := .internal, code := "RangeError" }

def orFail {A : Type} (calculation : Except RangeError A) (failure : Failure) : Except Failure A :=
  match calculation with
  | .ok value => .ok value
  | .error _ => .error failure

@[simp]
theorem orFail_ok {A : Type} (calculation : Except RangeError A) (failure : Failure) (value : A) :
    orFail calculation failure = .ok value <-> calculation = .ok value := by
  cases calculation <;> simp [orFail]

def deliveryConfigurationError : Failure := unavailable "DELIVERY_CONFIGURATION_INVALID"

def rateFailure : RateResolutionError -> Failure
  | .deliveryRateMissing => conflict "DELIVERY_RATE_UNAVAILABLE"
  | .deliveryRateAmbiguous => deliveryConfigurationError

def resolved {A : Type} (selection : Except RateResolutionError A) : Except Failure A :=
  match selection with
  | .ok value => .ok value
  | .error error => .error (rateFailure error)

@[simp]
theorem resolved_ok {A : Type} (selection : Except RateResolutionError A) (value : A) :
    resolved selection = .ok value <-> selection = .ok value := by
  cases selection <;> simp [resolved]

structure ResolvedFulfillment where
  methodType : DeliveryMethodType
  deliveryTotalMillimes : Int
  maxCodMillimes : Option Int
  deliveryZoneId : Option Id
  deliveryRateId : Option Id
  pickupLocationId : Option Id
  phoneConfirmationRequired : Bool
  manualReviewRequired : Bool
  selectedRateIds : List Id
  freeDeliveryApplied : Bool
  courierLocalityId : Option Id
deriving DecidableEq, Repr

def pickup (config : Configuration) (pickupLocationId : Id) (orderMillimes : Int) :
    Except Failure ResolvedFulfillment := do
  let location <- orThrow
    (config.pickupLocations.find? fun location => location.id == pickupLocationId && location.active)
    (conflict "PICKUP_LOCATION_UNAVAILABLE")
  throwIf (location.minOrderMillimes.any (fun bound => orderMillimes < bound))
    (conflict "MINIMUM_ORDER_NOT_MET")
  return {
    methodType := .storePickup
    deliveryTotalMillimes := 0
    maxCodMillimes := location.maxCodMillimes
    deliveryZoneId := none
    deliveryRateId := none
    pickupLocationId := some location.id
    phoneConfirmationRequired := false
    manualReviewRequired := false
    selectedRateIds := []
    freeDeliveryApplied := false
    courierLocalityId := none }

-- A locality that is served, with its delegation; every level above it has to be active.
def activeLocality? (config : Configuration) (localityId : Id) : Option (Locality × Delegation) := do
  let locality <- config.localities.find? fun locality => locality.id == localityId && locality.active
  let delegation <- config.delegations.find? fun delegation =>
    delegation.id == locality.delegationId && delegation.active
  let _ <- config.governorates.find? fun governorate =>
    governorate.id == delegation.governorateId && governorate.active
  return (locality, delegation)

def activeZones (config : Configuration) (locality : Locality) : List (DeliveryZone × Int) :=
  locality.zoneLinks.filterMap fun link =>
    if link.active then
      (config.deliveryZones.find? fun zone =>
        zone.id == link.deliveryZoneId && zone.active && zone.supported &&
          !zone.temporarilySuspended).map fun zone =>
            (zone, link.priorityOverride.getD zone.priority)
    else none

def zoneBefore (left right : DeliveryZone × Int) : Prop :=
  left.2 > right.2 \/ (left.2 = right.2 /\ left.1.id <= right.1.id)

instance : DecidableRel zoneBefore := fun _ _ => inferInstanceAs (Decidable (_ \/ _))

def selectZone (config : Configuration) (locality : Locality) : Except Failure DeliveryZone :=
  match (activeZones config locality).insertionSort zoneBefore with
  | [] => .error (conflict "DELIVERY_AREA_UNSUPPORTED")
  | [selected] => .ok selected.1
  | selected :: next :: _ =>
    if next.2 = selected.2 then .error deliveryConfigurationError else .ok selected.1

def scopedRates (config : Configuration) (now : Int) (zone : DeliveryZone) (locality : Locality)
    (delegation : Delegation) : List DeliveryRate :=
  config.deliveryRates.filter fun rate =>
    rate.active && validAt rate now &&
      (rate.localityId == some locality.id ||
        (rate.delegationId == some delegation.id && rate.localityId == none) ||
        (rate.governorateId == some delegation.governorateId && rate.delegationId == none &&
          rate.localityId == none) ||
        (rate.deliveryZoneId == some zone.id && rate.governorateId == none &&
          rate.delegationId == none && rate.localityId == none) ||
        (rate.deliveryZoneId == none && rate.governorateId == none && rate.delegationId == none &&
          rate.localityId == none))

def surchargeTypes : List DeliveryRateType :=
  [.remoteSurcharge, .weightSurcharge, .oversizeSurcharge, .expressSurcharge]

def selectRates (rates : List DeliveryRate) (context : RateContext) :
    Except Failure (DeliveryRate × List DeliveryRate) := do
  let base <- resolved (selectBaseRate rates context)
  let surcharges <- surchargeTypes.mapM fun type => resolved (selectSurchargeRate rates context type)
  let chosen := surcharges.filterMap id
  throwIf (context.express && !chosen.any (fun rate => rate.type == .expressSurcharge))
    (conflict "EXPRESS_DELIVERY_UNAVAILABLE")
  return (base, base :: chosen)

def maximumCod (zone : DeliveryZone) (selectedRates : List DeliveryRate) : Option Int :=
  ((zone.maxCodMillimes :: selectedRates.map (·.maxCodMillimes)).filterMap id).min?

-- Order creation also refuses a negative fee; the quote sums whatever the rates hold.
def courier (rejectsNegativeFees : Bool) (config rateConfig : Configuration) (localityId : Id)
    (orderMillimes weightGrams : Int) (express : Bool) (now : Int) :
    Except Failure ResolvedFulfillment := do
  let (locality, delegation) <- orThrow (activeLocality? config localityId)
    (conflict "DELIVERY_AREA_UNSUPPORTED")
  let zone <- selectZone config locality
  throwIf (zone.minOrderMillimes.any (fun bound => orderMillimes < bound))
    (conflict "MINIMUM_ORDER_NOT_MET")
  let context : RateContext := {
    deliveryZoneId := zone.id
    governorateId := delegation.governorateId
    delegationId := delegation.id
    localityId := locality.id
    orderMillimes
    weightGrams
    express }
  let (base, selectedRates) <- selectRates (scopedRates rateConfig now zone locality delegation) context
  throwIf (rejectsNegativeFees && selectedRates.any (fun rate => rate.feeMillimes < 0))
    deliveryConfigurationError
  let fees <- orFail (addMillimes (selectedRates.map (·.feeMillimes))) rangeFailure
  let free := zone.freeDeliveryThresholdMillimes.any (fun threshold => orderMillimes >= threshold)
  let deliveryTotalMillimes := if free then 0 else fees
  return {
    methodType := .courier
    deliveryTotalMillimes
    maxCodMillimes := maximumCod zone selectedRates
    deliveryZoneId := some zone.id
    deliveryRateId := some base.id
    pickupLocationId := none
    phoneConfirmationRequired := zone.phoneConfirmationRequired
    manualReviewRequired := zone.manualReviewRequired
    selectedRateIds := selectedRates.map (·.id)
    freeDeliveryApplied := deliveryTotalMillimes == 0
    courierLocalityId := some locality.id }

-- A fulfillment order creation accepts is the one the quote computes.
theorem courier_accepted {config rateConfig : Configuration} {localityId : Id}
    {orderMillimes weightGrams now : Int} {express : Bool} {fulfillment : ResolvedFulfillment}
    (accepted : courier true config rateConfig localityId orderMillimes weightGrams express now =
      .ok fulfillment) :
    courier false config rateConfig localityId orderMillimes weightGrams express now =
      .ok fulfillment := by
  simp only [courier, bind_ok, throwIf_ok] at accepted ⊢
  obtain ⟨place, found, zone, selected, ⟨⟩, minimum, rates, chosen, ⟨⟩, -, rest⟩ := accepted
  exact ⟨place, found, zone, selected, ⟨⟩, minimum, rates, chosen, ⟨⟩, by simp, rest⟩

theorem courier_fee_nonneg {config rateConfig : Configuration} {localityId : Id}
    {orderMillimes weightGrams now : Int} {express : Bool} {fulfillment : ResolvedFulfillment}
    (accepted : courier true config rateConfig localityId orderMillimes weightGrams express now =
      .ok fulfillment) : 0 <= fulfillment.deliveryTotalMillimes := by
  simp only [courier, bind_ok, throwIf_ok, orFail_ok, addMillimes_ok, pure_ok] at accepted
  obtain ⟨_, -, zone, -, -, -, rates, -, -, negative, fees, ⟨-, -, rfl⟩, rfl⟩ := accepted
  have fees : 0 <= (rates.2.map (·.feeMillimes)).sum := by
    refine List.sum_nonneg fun fee member => ?_
    obtain ⟨rate, chosen, rfl⟩ := List.mem_map.1 member
    simp only [Bool.true_and, List.any_eq_true, decide_eq_true_eq, not_exists, not_and,
      Int.not_lt] at negative
    exact negative rate chosen
  dsimp only
  split
  next => exact Int.le_refl 0
  next => exact fees

theorem pickup_fee {config : Configuration} {pickupLocationId : Id} {orderMillimes : Int}
    {fulfillment : ResolvedFulfillment}
    (accepted : pickup config pickupLocationId orderMillimes = .ok fulfillment) :
    fulfillment.deliveryTotalMillimes = 0 := by
  simp only [pickup, bind_ok, throwIf_ok, orThrow_ok, pure_ok] at accepted
  obtain ⟨_, -, -, -, rfl⟩ := accepted
  rfl

end VapeCommerce.Checkout.Fulfillment
