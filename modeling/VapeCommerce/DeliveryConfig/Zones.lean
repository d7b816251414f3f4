import VapeCommerce.DeliveryConfig.Rates

set_option autoImplicit false

-- The delivery-zone endpoints; each call is one serializable transaction.
namespace VapeCommerce.DeliveryConfig.Zones

open VapeCommerce.Lib VapeCommerce.Lib.Outcome VapeCommerce.Schema VapeCommerce.Config
open VapeCommerce.Money VapeCommerce.DeliveryConfig.Rates

inductive DeliveryPaymentMethod where
  | cashOnDelivery
deriving DecidableEq, Repr

inductive DeliveryAssignmentMode where
  | manual
deriving DecidableEq, Repr

inductive DeliveryCommunicationChannel where
  | whatsapp
  | phone
deriving DecidableEq, Repr

structure GovernorateRecord extends Governorate where
  code : Text

-- The administrative map; no endpoint writes it.
structure Geography where
  governorates : List GovernorateRecord
  delegations : List Delegation
  localities : List Locality

structure ZoneRecord extends DeliveryZone where
  code : Text
  nameFr : Text
  nameAr : Text
  estimatedMinDays : Option Int
  estimatedMaxDays : Option Int
  estimatedMinMinutes : Option Int
  estimatedMaxMinutes : Option Int
  paymentMethod : Option DeliveryPaymentMethod
  assignmentMode : Option DeliveryAssignmentMode
  driverCommunication : Option DeliveryCommunicationChannel
  updatedAt : Int

def ZoneRecord.key (zone : ZoneRecord) : Id := zone.id

structure DeliveryZoneLocality where
  deliveryZoneId : Id
  localityId : Id
  priorityOverride : Option Int
  active : Bool

def DeliveryZoneLocality.key (link : DeliveryZoneLocality) : Id × Id :=
  (link.deliveryZoneId, link.localityId)

structure ZoneState where
  geography : Geography
  other : Configuration
  zones : Table ZoneRecord.key
  links : Table DeliveryZoneLocality.key
  rates : Table RateRecord.key

def zoneLinks (links : Table DeliveryZoneLocality.key) (localityId : Id) : List ZoneLink :=
  (links.filter fun link => link.localityId == localityId).map fun link =>
    { deliveryZoneId := link.deliveryZoneId
      active := link.active
      priorityOverride := link.priorityOverride }

-- What the rate endpoints and checkout read of the zones and the map.
def ZoneState.config (state : ZoneState) : Configuration :=
  { state.other with
    governorates := state.geography.governorates.map (·.toGovernorate)
    delegations := state.geography.delegations
    localities := state.geography.localities.map fun locality =>
      { locality with zoneLinks := zoneLinks state.links locality.id }
    deliveryZones := state.zones.rows.map (·.toDeliveryZone) }

def ZoneState.rateState (state : ZoneState) : RateState :=
  { config := state.config, rates := state.rates }

def bizerteExpressCode : Text := "BIZERTE_EXPRESS".toList

def bizerteGovernorateCode : Text := "23".toList

def maxResolvedLocalities : Nat := 1000

def maxEstimateDays : Int := 365

def maxEstimateMinutes : Int := 10080

structure CreateDeliveryZone where
  code : Text
  nameFr : Text
  nameAr : Text
  priority : Option Int
  minOrderMillimes : Option Int
  maxCodMillimes : Option Int
  freeDeliveryThresholdMillimes : Option Int
  estimatedMinDays : Option Int
  estimatedMaxDays : Option Int
  estimatedMinMinutes : Option Int
  estimatedMaxMinutes : Option Int
  paymentMethod : Option DeliveryPaymentMethod
  assignmentMode : Option DeliveryAssignmentMode
  driverCommunication : Option DeliveryCommunicationChannel
  phoneConfirmationRequired : Option Bool
  manualReviewRequired : Option Bool

-- A column that is not nullable has no null here; Prisma refuses it.
structure UpdateDeliveryZone where
  expectedUpdatedAt : Int
  code : Option Text
  nameFr : Option Text
  nameAr : Option Text
  priority : Option Int
  minOrderMillimes : Rates.Field Int
  maxCodMillimes : Rates.Field Int
  freeDeliveryThresholdMillimes : Rates.Field Int
  estimatedMinDays : Rates.Field Int
  estimatedMaxDays : Rates.Field Int
  estimatedMinMinutes : Rates.Field Int
  estimatedMaxMinutes : Rates.Field Int
  paymentMethod : Rates.Field DeliveryPaymentMethod
  assignmentMode : Rates.Field DeliveryAssignmentMode
  driverCommunication : Rates.Field DeliveryCommunicationChannel
  phoneConfirmationRequired : Option Bool
  manualReviewRequired : Option Bool

inductive GeographyScope where
  | governorate
  | delegation
  | locality
deriving DecidableEq, Repr

structure LinkZoneGeography where
  expectedUpdatedAt : Int
  scope : GeographyScope
  geographyId : Id
  active : Bool
  priorityOverride : Option Int

def zoneNotFound : Failure := notFound "DELIVERY_ZONE_NOT_FOUND"

def zoneVersionConflict : Failure := conflict "DELIVERY_ZONE_VERSION_CONFLICT"

def zoneCodeConflict : Failure := conflict "DELIVERY_ZONE_CODE_CONFLICT"

def estimateInvalid : Failure := conflict "DELIVERY_ZONE_ESTIMATE_INVALID"

def geographyMissing : Failure := conflict "DELIVERY_ZONE_GEOGRAPHY_MISSING"

def coverageInvalid : Failure := conflict "BIZERTE_EXPRESS_COVERAGE_INVALID"

def createdZone (id : Id) (input : CreateDeliveryZone) (now : Int) : ZoneRecord where
  id := id
  code := input.code
  nameFr := trim input.nameFr
  nameAr := trim input.nameAr
  priority := input.priority.getD 0
  active := false
  supported := false
  temporarilySuspended := false
  minOrderMillimes := input.minOrderMillimes
  maxCodMillimes := input.maxCodMillimes
  freeDeliveryThresholdMillimes := input.freeDeliveryThresholdMillimes
  estimatedMinDays := input.estimatedMinDays
  estimatedMaxDays := input.estimatedMaxDays
  estimatedMinMinutes := input.estimatedMinMinutes
  estimatedMaxMinutes := input.estimatedMaxMinutes
  paymentMethod := input.paymentMethod
  assignmentMode := input.assignmentMode
  driverCommunication := input.driverCommunication
  phoneConfirmationRequired := input.phoneConfirmationRequired.getD false
  manualReviewRequired := input.manualReviewRequired.getD false
  updatedAt := now

-- The columns the update writes; `updatedAt` moves with them.
def updatedZone (input : UpdateDeliveryZone) (now : Int) (row : ZoneRecord) : ZoneRecord :=
  { row with
    code := input.code.getD row.code
    nameFr := (input.nameFr.map trim).getD row.nameFr
    nameAr := (input.nameAr.map trim).getD row.nameAr
    priority := input.priority.getD row.priority
    minOrderMillimes := input.minOrderMillimes.mergedOver row.minOrderMillimes
    maxCodMillimes := input.maxCodMillimes.mergedOver row.maxCodMillimes
    freeDeliveryThresholdMillimes :=
      input.freeDeliveryThresholdMillimes.mergedOver row.freeDeliveryThresholdMillimes
    estimatedMinDays := input.estimatedMinDays.mergedOver row.estimatedMinDays
    estimatedMaxDays := input.estimatedMaxDays.mergedOver row.estimatedMaxDays
    estimatedMinMinutes := input.estimatedMinMinutes.mergedOver row.estimatedMinMinutes
    estimatedMaxMinutes := input.estimatedMaxMinutes.mergedOver row.estimatedMaxMinutes
    paymentMethod := input.paymentMethod.mergedOver row.paymentMethod
    assignmentMode := input.assignmentMode.mergedOver row.assignmentMode
    driverCommunication := input.driverCommunication.mergedOver row.driverCommunication
    phoneConfirmationRequired := input.phoneConfirmationRequired.getD row.phoneConfirmationRequired
    manualReviewRequired := input.manualReviewRequired.getD row.manualReviewRequired
    updatedAt := now }

def switchedZone (active : Bool) (now : Int) (row : ZoneRecord) : ZoneRecord :=
  { row with active, supported := active, temporarilySuspended := false, updatedAt := now }

def touchedZone (now : Int) (row : ZoneRecord) : ZoneRecord :=
  { row with updatedAt := now }

theorem updatedZone_key (input : UpdateDeliveryZone) (now : Int) (row : ZoneRecord) :
    (updatedZone input now row).key = row.key := rfl

theorem switchedZone_key (active : Bool) (now : Int) (row : ZoneRecord) :
    (switchedZone active now row).key = row.key := rfl

theorem touchedZone_key (now : Int) (row : ZoneRecord) : (touchedZone now row).key = row.key := rfl

def validateEstimatePair (minimum maximum : Option Int) (lowerBound upperBound : Int) :
    Except Failure Unit := do
  throwIf (minimum.isSome ≠ maximum.isSome) estimateInvalid
  throwIf (exists low, low ∈ minimum /\ exists high, high ∈ maximum /\
      (Not (isSafeInteger low) \/ Not (isSafeInteger high) \/ low < lowerBound \/
        high > upperBound \/ low > high))
    estimateInvalid

def validateZoneBounds (zone : ZoneRecord) : Except Failure Unit := do
  [zone.minOrderMillimes, zone.maxCodMillimes, zone.freeDeliveryThresholdMillimes].forM fun value =>
    throwIf (exists amount, amount ∈ value /\
        (Not (isSafeInteger amount) \/ amount < 0 \/ amount > maxMoneyMillimes))
      (conflict "DELIVERY_ZONE_AMOUNT_INVALID")
  validateEstimatePair zone.estimatedMinDays zone.estimatedMaxDays 0 maxEstimateDays
  validateEstimatePair zone.estimatedMinMinutes zone.estimatedMaxMinutes 1 maxEstimateMinutes
  throwIf (zone.estimatedMinDays.isSome /\ zone.estimatedMinMinutes.isSome)
    (conflict "DELIVERY_ZONE_ESTIMATE_UNIT_INVALID")

def requireZone (state : ZoneState) (id : Id) : Except Failure ZoneRecord :=
  orThrow (state.zones.find? id) zoneNotFound

def assertTimestamp (actual expected : Int) : Except Failure Unit :=
  throwIf (actual ≠ expected) zoneVersionConflict

def governorateCoded (geography : Geography) (localityId : Id) (coded : Text -> Bool) : Bool :=
  geography.localities.any fun locality => locality.id == localityId &&
    geography.delegations.any fun delegation => delegation.id == locality.delegationId &&
      geography.governorates.any fun governorate =>
        governorate.id == delegation.governorateId && coded governorate.code

-- An active link of the zone to a locality on the active map.
def supportsLocality (state : ZoneState) (id : Id) (link : DeliveryZoneLocality) : Bool :=
  link.deliveryZoneId == id && link.active && localityActive state.config link.localityId

def reachesOutside (state : ZoneState) (id : Id) (link : DeliveryZoneLocality) : Bool :=
  link.deliveryZoneId == id && link.active &&
    governorateCoded state.geography link.localityId fun code => code != bizerteGovernorateCode

def assertZoneHasSupportedLocality (state : ZoneState) (id : Id) : Except Failure Unit :=
  throwIf (state.links.count (supportsLocality state id) = 0)
    (conflict "ACTIVE_DELIVERY_ZONE_GEOGRAPHY_REQUIRED")

def chargesNothing (id : Id) (rate : RateRecord) : Bool :=
  rate.active && rate.deliveryZoneId == some id && rate.feeMillimes == 0

def assertZoneFeeConfiguration (state : ZoneState) (zone : ZoneRecord) : Except Failure Unit :=
  throwIf (zone.freeDeliveryThresholdMillimes ≠ some 0 /\ state.rates.count (chargesNothing zone.id) > 0)
    (conflict "DELIVERY_RATE_FREE_CONFIGURATION_REQUIRED")

def assertBizerteExpressReady (state : ZoneState) (zone : ZoneRecord) : Except Failure Unit := do
  throwIf (zone.estimatedMinMinutes ≠ some 30 \/ zone.estimatedMaxMinutes ≠ some 50 \/
      zone.estimatedMinDays ≠ none \/ zone.estimatedMaxDays ≠ none \/
      zone.paymentMethod ≠ some .cashOnDelivery \/ zone.assignmentMode ≠ some .manual \/
      zone.driverCommunication ≠ some .whatsapp)
    (conflict "BIZERTE_EXPRESS_CONFIGURATION_INVALID")
  throwIf (state.links.count (supportsLocality state zone.id) = 0) geographyMissing
  throwIf (state.links.count (reachesOutside state zone.id) > 0) coverageInvalid

def resolveLocalityIds (state : ZoneState) (scope : GeographyScope) (id : Id) : List Id :=
  let geography := state.geography
  match scope with
  | .locality => if localityActive state.config id then [id] else []
  | .delegation =>
    if delegationActive state.config id then
      (((geography.localities.filter fun locality => locality.delegationId == id && locality.active).map
        (·.id)).insertionSort (· <= ·)).take (maxResolvedLocalities + 1)
    else []
  | .governorate =>
    if governorateActive state.config id then
      (((geography.localities.filter fun locality => locality.active &&
          geography.delegations.any fun delegation => delegation.id == locality.delegationId &&
            delegation.active && delegation.governorateId == id).map
        (·.id)).insertionSort (· <= ·)).take (maxResolvedLocalities + 1)
    else []

def relinked (link row : DeliveryZoneLocality) : DeliveryZoneLocality :=
  { row with active := link.active, priorityOverride := link.priorityOverride }

theorem relinked_key (link row : DeliveryZoneLocality) : (relinked link row).key = row.key := rfl

def upsertLink (links : Table DeliveryZoneLocality.key) (link : DeliveryZoneLocality) :
    Table DeliveryZoneLocality.key :=
  match links.insert? link with
  | some next => next
  | none => links.modify link.key (relinked link) (relinked_key link)

def create (state : ZoneState) (id : Id) (input : CreateDeliveryZone) (now : Int) :
    Except Failure ZoneState := do
  let created := createdZone id input now
  validateZoneBounds created
  throwIf (state.zones.rows.any fun zone => zone.code == created.code) zoneCodeConflict
  let zones <- Database.create state.zones created
  return { state with zones }

def update (state : ZoneState) (id : Id) (input : UpdateDeliveryZone) (now : Int) :
    Except Failure ZoneState := do
  let current <- requireZone state id
  assertTimestamp current.updatedAt input.expectedUpdatedAt
  validateZoneBounds (updatedZone input now current)
  throwIf (state.zones.rows.any fun zone => zone.id != id && some zone.code == input.code) zoneCodeConflict
  let zones <- Database.updateOne state.zones
    (fun row => row.id == id && row.updatedAt == input.expectedUpdatedAt) (updatedZone input now)
    (updatedZone_key input now) zoneVersionConflict
  let next := { state with zones }
  let changed <- requireZone next id
  assertZoneFeeConfiguration next changed
  requireWhen (changed.active /\ changed.code = bizerteExpressCode)
    (assertBizerteExpressReady next changed)
  return next

def assertActivatable (state : ZoneState) (current : ZoneRecord) (now : Int) : Except Failure Unit := do
  validateZoneBounds current
  assertZoneFeeConfiguration state current
  requireWhen (current.code = bizerteExpressCode) (assertBizerteExpressReady state current)
  throwIf (state.links.count (supportsLocality state current.id) = 0) geographyMissing
  throwIf (state.rates.count (fun rate =>
      currentRate rate.toDeliveryRate now && rate.deliveryZoneId == some current.id &&
        rate.type == .base && rate.governorateId == none && rate.delegationId == none &&
        rate.localityId == none) = 0)
    (conflict "DELIVERY_ZONE_RATE_MISSING")

def setActive (state : ZoneState) (id : Id) (expectedUpdatedAt : Int) (active : Bool) (now : Int) :
    Except Failure ZoneState := do
  let current <- requireZone state id
  assertTimestamp current.updatedAt expectedUpdatedAt
  requireWhen active (assertActivatable state current now)
  let zones <- Database.updateOne state.zones
    (fun row => row.id == id && row.updatedAt == expectedUpdatedAt) (switchedZone active now)
    (switchedZone_key active now) zoneVersionConflict
  return { state with zones }

def linkGeography (state : ZoneState) (id : Id) (input : LinkZoneGeography) (now : Int) :
    Except Failure ZoneState := do
  let current <- requireZone state id
  assertTimestamp current.updatedAt input.expectedUpdatedAt
  throwIf (current.code = bizerteExpressCode /\ input.active /\ input.scope = .governorate)
    (conflict "BIZERTE_EXPRESS_EXPLICIT_COVERAGE_REQUIRED")
  let localityIds := resolveLocalityIds state input.scope input.geographyId
  throwIf (localityIds.length = 0) (conflict "DELIVERY_GEOGRAPHY_EMPTY")
  throwIf (localityIds.length > maxResolvedLocalities) (conflict "DELIVERY_GEOGRAPHY_TOO_LARGE")
  throwIf (current.code = bizerteExpressCode /\ input.active /\
      Not (localityIds.all fun localityId => governorateCoded state.geography localityId
        fun code => code == bizerteGovernorateCode))
    coverageInvalid
  let zones <- Database.updateOne state.zones
    (fun row => row.id == id && row.updatedAt == input.expectedUpdatedAt) (touchedZone now)
    (touchedZone_key now) zoneVersionConflict
  let links := (localityIds.map fun localityId =>
    { deliveryZoneId := id
      localityId
      active := input.active
      priorityOverride := input.priorityOverride : DeliveryZoneLocality }).foldl upsertLink state.links
  let next := { state with zones, links }
  requireWhen current.active (assertZoneHasSupportedLocality next id)
  let changed <- requireZone next id
  requireWhen (changed.active /\ changed.code = bizerteExpressCode)
    (assertBizerteExpressReady next changed)
  return next

inductive ConfigCall where
  | createZone (id : Id) (input : CreateDeliveryZone)
  | updateZone (id : Id) (input : UpdateDeliveryZone)
  | setZoneActive (id : Id) (expectedUpdatedAt : Int) (active : Bool)
  | linkGeography (id : Id) (input : LinkZoneGeography)
  | createRate (id : Id) (input : RateConfigInput)
  | updateRate (id : Id) (input : UpdateDeliveryRate)
  | setRateActive (id : Id) (expectedVersion : Int) (active : Bool)

structure ConfigRequest where
  now : Int
  call : ConfigCall

-- A rate endpoint writes the rates and nothing else.
def ZoneState.priced (state : ZoneState) (rated : RateState) : ZoneState :=
  { state with rates := rated.rates }

def exec (state : ZoneState) (request : ConfigRequest) : Except Failure ZoneState :=
  match request.call with
  | .createZone id input => create state id input request.now
  | .updateZone id input => update state id input request.now
  | .setZoneActive id expectedUpdatedAt active =>
    setActive state id expectedUpdatedAt active request.now
  | .linkGeography id input => linkGeography state id input request.now
  | .createRate id input => state.priced <$> Rates.create state.rateState id input
  | .updateRate id input => state.priced <$> Rates.update state.rateState id input request.now
  | .setRateActive id expectedVersion active =>
    state.priced <$> Rates.setActive state.rateState id expectedVersion active request.now

def step (state : ZoneState) (request : ConfigRequest) : ZoneState :=
  (succeeded (exec state request)).getD state

end VapeCommerce.DeliveryConfig.Zones
