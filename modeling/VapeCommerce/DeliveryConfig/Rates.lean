import VapeCommerce.Checkout.Fulfillment
import VapeCommerce.Database

set_option autoImplicit false

-- The delivery-rate endpoints; each call is one serializable transaction.
namespace VapeCommerce.DeliveryConfig.Rates

open VapeCommerce.Lib VapeCommerce.Lib.Outcome VapeCommerce.Schema VapeCommerce.Config
open VapeCommerce.Money

def maxMoneyMillimes : Int := 1000000

def rateNotFound : Failure := notFound "DELIVERY_RATE_NOT_FOUND"

def rateVersionConflict : Failure := conflict "DELIVERY_RATE_VERSION_CONFLICT"

structure RateRecord extends DeliveryRate where
  express : Bool
  version : Int

def RateRecord.key (rate : RateRecord) : Id := rate.id

-- The zones and the geography are read here and maintained elsewhere.
structure RateState where
  config : Configuration
  rates : Table RateRecord.key

-- The configuration that checkout prices from.
def RateState.current (state : RateState) : Configuration :=
  { state.config with deliveryRates := state.rates.rows.map (·.toDeliveryRate) }

-- A property of an update body: left out, null or given.
inductive Field (A : Type) where
  | absent
  | null
  | given (value : A)

-- `{ ...current, ...input }` at one property.
def Field.mergedOver {A : Type} (field : Field A) (current : Option A) : Option A :=
  match field with
  | .absent => current
  | .null => none
  | .given value => some value

-- `RateConfigInput` without the name; the pipe has parsed its dates.
structure RateConfigInput where
  type : DeliveryRateType
  deliveryZoneId : Option Id
  governorateId : Option Id
  delegationId : Option Id
  localityId : Option Id
  priority : Option Int
  feeMillimes : Int
  minWeightGrams : Option Int
  maxWeightGrams : Option Int
  minOrderMillimes : Option Int
  maxOrderMillimes : Option Int
  maxCodMillimes : Option Int
  express : Option Bool
  validFrom : Option Int
  validUntil : Option Int

structure UpdateDeliveryRate where
  expectedVersion : Int
  type : Option DeliveryRateType
  deliveryZoneId : Field Id
  governorateId : Field Id
  delegationId : Field Id
  localityId : Field Id
  priority : Field Int
  feeMillimes : Option Int
  minWeightGrams : Field Int
  maxWeightGrams : Field Int
  minOrderMillimes : Field Int
  maxOrderMillimes : Field Int
  maxCodMillimes : Field Int
  express : Field Bool
  validFrom : Field Int
  validUntil : Field Int

def UpdateDeliveryRate.mergedOver (input : UpdateDeliveryRate) (current : RateRecord) : RateConfigInput where
  type := input.type.getD current.type
  deliveryZoneId := input.deliveryZoneId.mergedOver current.deliveryZoneId
  governorateId := input.governorateId.mergedOver current.governorateId
  delegationId := input.delegationId.mergedOver current.delegationId
  localityId := input.localityId.mergedOver current.localityId
  priority := input.priority.mergedOver (some current.priority)
  feeMillimes := input.feeMillimes.getD current.feeMillimes
  minWeightGrams := input.minWeightGrams.mergedOver current.minWeightGrams
  maxWeightGrams := input.maxWeightGrams.mergedOver current.maxWeightGrams
  minOrderMillimes := input.minOrderMillimes.mergedOver current.minOrderMillimes
  maxOrderMillimes := input.maxOrderMillimes.mergedOver current.maxOrderMillimes
  maxCodMillimes := input.maxCodMillimes.mergedOver current.maxCodMillimes
  express := input.express.mergedOver (some current.express)
  validFrom := input.validFrom.mergedOver current.validFrom
  validUntil := input.validUntil.mergedOver current.validUntil

def rateInput (id : Id) (input : RateConfigInput) (active : Bool) (version : Int) : RateRecord where
  id := id
  type := input.type
  deliveryZoneId := input.deliveryZoneId
  governorateId := input.governorateId
  delegationId := input.delegationId
  localityId := input.localityId
  priority := input.priority.getD 0
  feeMillimes := input.feeMillimes
  minWeightGrams := input.minWeightGrams
  maxWeightGrams := input.maxWeightGrams
  minOrderMillimes := input.minOrderMillimes
  maxOrderMillimes := input.maxOrderMillimes
  maxCodMillimes := input.maxCodMillimes
  express := input.express.getD false
  active := active
  validFrom := input.validFrom
  validUntil := input.validUntil
  version := version

def baseRateTypes : List DeliveryRateType := [.base, .governorate, .delegation, .locality]

def scopeIds (rate : DeliveryRate) : List Id :=
  [rate.deliveryZoneId, rate.governorateId, rate.delegationId, rate.localityId].filterMap id

def isValidScope (rate : DeliveryRate) : Bool :=
  (rate.type == .base && (scopeIds rate).length <= 1 &&
      ((scopeIds rate).length == 0 || rate.deliveryZoneId.isSome)) ||
    (rate.type == .governorate && (scopeIds rate).length == 1 && rate.governorateId.isSome) ||
    (rate.type == .delegation && (scopeIds rate).length == 1 && rate.delegationId.isSome) ||
    (rate.type == .locality && (scopeIds rate).length == 1 && rate.localityId.isSome) ||
    (!baseRateTypes.contains rate.type && (scopeIds rate).length <= 1)

def exceeds (bounds : Option Int × Option Int) : Prop :=
  exists low, low ∈ bounds.1 /\ exists high, high ∈ bounds.2 /\ low > high

instance (bounds : Option Int × Option Int) : Decidable (exceeds bounds) :=
  match bounds with
  | (some low, some high) => decidable_of_iff (low > high) (by simp [exceeds])
  | (none, _) => .isFalse (by simp [exceeds])
  | (some _, none) => .isFalse (by simp [exceeds])

def governorateActive (config : Configuration) (wanted : Id) : Bool :=
  config.governorates.any fun governorate => governorate.id == wanted && governorate.active

def delegationActive (config : Configuration) (wanted : Id) : Bool :=
  config.delegations.any fun delegation =>
    delegation.id == wanted && delegation.active && governorateActive config delegation.governorateId

def localityActive (config : Configuration) (wanted : Id) : Bool :=
  config.localities.any fun locality =>
    locality.id == wanted && locality.active && delegationActive config locality.delegationId

def geographyUnavailable : Failure := conflict "DELIVERY_GEOGRAPHY_UNAVAILABLE"

def validateRate (config : Configuration) (rate : DeliveryRate) : Except Failure Unit := do
  throwIf (Not (isSafeInteger rate.feeMillimes) \/ rate.feeMillimes < 0 \/
      rate.feeMillimes > maxMoneyMillimes)
    (conflict "DELIVERY_RATE_AMOUNT_INVALID")
  throwIf (exists start, start ∈ rate.validFrom /\ exists stop, stop ∈ rate.validUntil /\ start >= stop)
    (conflict "DELIVERY_RATE_DATES_INVALID")
  throwIf (exceeds (rate.minWeightGrams, rate.maxWeightGrams) \/
      exceeds (rate.minOrderMillimes, rate.maxOrderMillimes))
    (conflict "DELIVERY_RATE_BOUNDS_INVALID")
  throwIf (Not (isValidScope rate)) (conflict "DELIVERY_RATE_SCOPE_INVALID")
  let deliveryZone := rate.deliveryZoneId.bind fun wanted =>
    config.deliveryZones.find? fun zone => zone.id == wanted
  throwIf (rate.deliveryZoneId.isSome /\ deliveryZone.isNone) (conflict "DELIVERY_ZONE_NOT_FOUND")
  throwIf (rate.feeMillimes = 0 /\
      (deliveryZone.bind (·.freeDeliveryThresholdMillimes)) ≠ some 0)
    (conflict "DELIVERY_RATE_FREE_CONFIGURATION_REQUIRED")
  throwIf (rate.governorateId.any fun wanted => !governorateActive config wanted) geographyUnavailable
  throwIf (rate.delegationId.any fun wanted => !delegationActive config wanted) geographyUnavailable
  throwIf (rate.localityId.any fun wanted => !localityActive config wanted) geographyUnavailable

-- The row that the query of `assertNoAmbiguousRate` looks for.
def conflicting (rate : DeliveryRate) (excludeId : Id) (other : RateRecord) : Bool :=
  other.id != excludeId && other.active && other.type == rate.type &&
    other.priority == rate.priority && other.deliveryZoneId == rate.deliveryZoneId &&
    other.governorateId == rate.governorateId && other.delegationId == rate.delegationId &&
    other.localityId == rate.localityId &&
    rate.validUntil.all (fun stop => other.validFrom.all fun start => start < stop) &&
    rate.validFrom.all (fun start => other.validUntil.all fun stop => stop > start)

def assertNoAmbiguousRate (state : RateState) (rate : DeliveryRate) (excludeId : Id) :
    Except Failure Unit :=
  throwIf (state.rates.rows.any (conflicting rate excludeId)) (conflict "DELIVERY_RATE_AMBIGUOUS")

def currentRate (rate : DeliveryRate) (now : Int) : Bool :=
  rate.active && decide (rate.feeMillimes >= 0) && Checkout.Policy.validAt rate now

def assertAffectedActiveZonesHaveCurrentBase (state : RateState) (before after : RateRecord)
    (now : Int) : Except Failure Unit :=
  let zoneIds := ([before, after].filter (·.type == .base)).filterMap (·.deliveryZoneId)
  zoneIds.dedup.forM fun deliveryZoneId =>
    let active := (state.config.deliveryZones.find? fun zone => zone.id == deliveryZoneId).any (·.active)
    throwIf (active /\ state.rates.count (fun rate =>
        currentRate rate.toDeliveryRate now && rate.deliveryZoneId == some deliveryZoneId &&
          rate.type == .base && rate.governorateId == none && rate.delegationId == none &&
          rate.localityId == none) = 0)
      (conflict "ACTIVE_DELIVERY_ZONE_RATE_REQUIRED")

def requireRate (state : RateState) (id : Id) : Except Failure RateRecord :=
  orThrow (state.rates.find? id) rateNotFound

-- The rewritten row carries the id the update addressed.
def saved (candidate : RateRecord) (row : RateRecord) : RateRecord :=
  { candidate with id := row.id, version := row.version + 1 }

def activated (active : Bool) (row : RateRecord) : RateRecord :=
  { row with active, version := row.version + 1 }

theorem saved_key (candidate row : RateRecord) : (saved candidate row).key = row.key := rfl

theorem activated_key (active : Bool) (row : RateRecord) : (activated active row).key = row.key := rfl

def create (state : RateState) (id : Id) (input : RateConfigInput) :
    Except Failure RateState := do
  let candidate := rateInput id input false 1
  validateRate state.config candidate.toDeliveryRate
  let rates <- Database.create state.rates candidate
  return { state with rates }

def update (state : RateState) (id : Id) (input : UpdateDeliveryRate) (now : Int) :
    Except Failure RateState := do
  let current <- requireRate state id
  throwIf (current.version ≠ input.expectedVersion) rateVersionConflict
  let candidate := rateInput id (input.mergedOver current) current.active (current.version + 1)
  validateRate state.config candidate.toDeliveryRate
  requireWhen candidate.active (assertNoAmbiguousRate state candidate.toDeliveryRate id)
  let rates <- Database.updateOne state.rates
    (fun row => row.id == id && row.version == input.expectedVersion) (saved candidate)
    (saved_key candidate) rateVersionConflict
  let next := { state with rates }
  let changed <- requireRate next id
  assertAffectedActiveZonesHaveCurrentBase next current changed now
  return next

def setActive (state : RateState) (id : Id) (expectedVersion : Int) (active : Bool) (now : Int) :
    Except Failure RateState := do
  let current <- requireRate state id
  throwIf (current.version ≠ expectedVersion) rateVersionConflict
  validateRate state.config current.toDeliveryRate
  requireWhen active (assertNoAmbiguousRate state current.toDeliveryRate id)
  let rates <- Database.updateOne state.rates
    (fun row => row.id == id && row.version == expectedVersion) (activated active)
    (activated_key active) rateVersionConflict
  let next := { state with rates }
  let changed <- requireRate next id
  assertAffectedActiveZonesHaveCurrentBase next current changed now
  return next

end VapeCommerce.DeliveryConfig.Rates
