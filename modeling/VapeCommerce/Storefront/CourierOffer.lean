import VapeCommerce.Checkout.Fulfillment
import VapeCommerce.Checkout.RateChoice
import VapeCommerce.Catalog.Tables
import VapeCommerce.System

set_option autoImplicit false

-- geography.service.ts: whether the storefront offers courier delivery to a locality, against what
-- checkout prices there.
namespace VapeCommerce.Storefront.CourierOffer

open VapeCommerce.Lib.Outcome VapeCommerce.Schema VapeCommerce.Config VapeCommerce.Checkout.Pricing
open VapeCommerce.Checkout.Fulfillment
open VapeCommerce.Checkout.RateChoice (eligibleForBase selectBaseRate_eq sorted_rates)
open VapeCommerce.Catalog (databaseIntMax)

section Offer

def maxDeliveryRateCandidates : Nat := 250

def zoneLinkLimit : Nat := 20

def maxSafeInteger : Int := 9007199254740991

def canBackCourierMethod (rate : DeliveryRate) (zone : DeliveryZone) (locality : Locality)
    (delegation : Delegation) : Bool :=
  let geographicallyApplicable :=
    (rate.localityId == some locality.id && rate.type == .locality) ||
    (rate.localityId == none && rate.delegationId == some delegation.id && rate.type == .delegation) ||
    (rate.localityId == none && rate.delegationId == none &&
      rate.governorateId == some delegation.governorateId && rate.type == .governorate) ||
    (rate.localityId == none && rate.delegationId == none && rate.governorateId == none &&
      rate.deliveryZoneId == some zone.id && rate.type == .base) ||
    (rate.localityId == none && rate.delegationId == none && rate.governorateId == none &&
      rate.deliveryZoneId == none && rate.type == .base)
  if !geographicallyApplicable || rate.feeMillimes < 0 then false
  else
    let minimumOrder := max (zone.minOrderMillimes.getD 0) (rate.minOrderMillimes.getD 0)
    let maximumOrder := min (zone.maxCodMillimes.getD maxSafeInteger)
      (min (rate.maxOrderMillimes.getD maxSafeInteger) (rate.maxCodMillimes.getD maxSafeInteger))
    let minimumWeight := rate.minWeightGrams.getD 0
    let maximumWeight := rate.maxWeightGrams.getD maxSafeInteger
    minimumOrder <= maximumOrder && minimumWeight <= maximumWeight

structure CourierMethod where
  deliveryZoneId : Id
  minimumOrderMillimes : Option Int
  maximumCodMillimes : Option Int
  phoneConfirmationRequired : Bool
deriving DecidableEq, Repr

def methodOf (zone : DeliveryZone) : CourierMethod where
  deliveryZoneId := zone.id
  minimumOrderMillimes := zone.minOrderMillimes
  maximumCodMillimes := zone.maxCodMillimes
  phoneConfirmationRequired := zone.phoneConfirmationRequired

-- The links come in the order the database keeps them, the rates by priority and id.
def courierMethod (config : Configuration) (now : Int) (localityId : Id) : Option CourierMethod := do
  let (locality, delegation) <- activeLocality? config localityId
  match ((activeZones config locality).take zoneLinkLimit).insertionSort zoneBefore with
  | [] => none
  | selected :: rest =>
    if rest.head?.any (fun next => next.2 = selected.2) then none
    else
      let rates := (scopedRates config now selected.1 locality delegation).take (maxDeliveryRateCandidates + 1)
      if rates.length > maxDeliveryRateCandidates then none
      else if rates.any (fun rate => canBackCourierMethod rate selected.1 locality delegation) then
        some (methodOf selected.1)
      else none

end Offer

section Statement

-- What checkout resolves before it looks at rates.
structure Resolves (config : Configuration) (localityId : Id) (locality : Locality) (delegation : Delegation)
    (zone : DeliveryZone) : Prop where
  active : activeLocality? config localityId = some (locality, delegation)
  zone : selectZone config locality = .ok zone

def rateContext (zone : DeliveryZone) (locality : Locality) (delegation : Delegation)
    (orderMillimes weightGrams : Int) (express : Bool) : RateContext where
  deliveryZoneId := zone.id
  governorateId := delegation.governorateId
  delegationId := delegation.id
  localityId := locality.id
  orderMillimes
  weightGrams
  express

structure WithinZone (zone : DeliveryZone) (orderMillimes : Int) : Prop where
  minimum : forall bound, zone.minOrderMillimes = some bound -> bound <= orderMillimes
  maximum : forall bound, zone.maxCodMillimes = some bound -> orderMillimes <= bound

-- 32-bit columns, and the CHECK on the fee.
structure StoredRates (config : Configuration) : Prop where
  fee : forall rate, rate ∈ config.deliveryRates -> 0 <= rate.feeMillimes
  minOrder : forall rate, rate ∈ config.deliveryRates -> forall bound, rate.minOrderMillimes = some bound ->
    bound <= databaseIntMax
  zoneMinOrder : forall zone, zone ∈ config.deliveryZones -> forall bound, zone.minOrderMillimes = some bound ->
    bound <= databaseIntMax
  minWeight : forall rate, rate ∈ config.deliveryRates -> forall bound, rate.minWeightGrams = some bound ->
    bound <= databaseIntMax

-- The locality has no more eligible zone links and current rates than the offer reads.
structure Permitted (config : Configuration) (now : Int) (localityId : Id) : Prop where
  links : forall locality delegation, activeLocality? config localityId = some (locality, delegation) ->
    (activeZones config locality).length <= zoneLinkLimit
  rates : forall locality delegation zone, Resolves config localityId locality delegation zone ->
    (scopedRates config now zone locality delegation).length <= maxDeliveryRateCandidates

-- An order within the bounds of its zone that a base rate is found for.
structure Priced (config : Configuration) (now : Int) (localityId : Id) (orderMillimes weightGrams : Int)
    (express : Bool) (locality : Locality) (delegation : Delegation) (zone : DeliveryZone)
    (rate : DeliveryRate) : Prop where
  resolves : Resolves config localityId locality delegation zone
  within : WithinZone zone orderMillimes
  rate : selectBaseRate (scopedRates config now zone locality delegation)
    (rateContext zone locality delegation orderMillimes weightGrams express) = .ok rate

-- An order within the bounds of the offered zone for which a current base rate is eligible.
structure Served (config : Configuration) (now : Int) (localityId : Id) (orderMillimes weightGrams : Int)
    (locality : Locality) (delegation : Delegation) (zone : DeliveryZone) (rate : DeliveryRate) : Prop where
  active : activeLocality? config localityId = some (locality, delegation)
  linked : zone ∈ (activeZones config locality).map Prod.fst
  checkout : (activeZones config locality).length <= zoneLinkLimit -> selectZone config locality = .ok zone
  within : WithinZone zone orderMillimes
  current : rate ∈ scopedRates config now zone locality delegation
  eligible : forall express, eligibleForBase
    (rateContext zone locality delegation orderMillimes weightGrams express) rate = true

-- No minimum that the order meets is negative; the console stores none.
structure NonnegativeMinimums (zone : DeliveryZone) (rate : DeliveryRate) : Prop where
  zoneOrder : forall bound, zone.minOrderMillimes = some bound -> 0 <= bound
  rateOrder : forall bound, rate.minOrderMillimes = some bound -> 0 <= bound
  rateWeight : forall bound, rate.minWeightGrams = some bound -> 0 <= bound

end Statement

section Applicable

variable {zone : DeliveryZone} {locality : Locality} {delegation : Delegation} {rate : DeliveryRate}
variable {orderMillimes weightGrams : Int} {express : Bool}

def applicable (rate : DeliveryRate) (context : RateContext) : Bool :=
  geographicRank rate context > 0 && baseTypeMatchesRank rate (geographicRank rate context)

-- The offer and checkout read the geography of a rate alike.
theorem applicable_eq : applicable rate
    (rateContext zone locality delegation orderMillimes weightGrams express) =
    ((rate.localityId == some locality.id && rate.type == .locality) ||
    (rate.localityId == none && rate.delegationId == some delegation.id && rate.type == .delegation) ||
    (rate.localityId == none && rate.delegationId == none &&
      rate.governorateId == some delegation.governorateId && rate.type == .governorate) ||
    (rate.localityId == none && rate.delegationId == none && rate.governorateId == none &&
      rate.deliveryZoneId == some zone.id && rate.type == .base) ||
    (rate.localityId == none && rate.delegationId == none && rate.governorateId == none &&
      rate.deliveryZoneId == none && rate.type == .base)) := by
  obtain ⟨_, _, _, _, type, _, _, deliveryZoneId, governorateId, delegationId, localityId⟩ := rate
  simp only [applicable, geographicRank, baseTypeMatchesRank, rateContext]
  cases localityId with
  | some localityId => by_cases here : localityId = locality.id <;> simp [here]
  | none =>
    cases delegationId with
    | some delegationId => by_cases here : delegationId = delegation.id <;> simp [here]
    | none =>
      cases governorateId with
      | some governorateId => by_cases here : governorateId = delegation.governorateId <;> simp [here]
      | none =>
        cases deliveryZoneId with
        | some zoneId => by_cases here : zoneId = zone.id <;> simp [here]
        | none => simp

theorem canBack_iff (fee : 0 <= rate.feeMillimes) : canBackCourierMethod rate zone locality delegation = true <->
    applicable rate (rateContext zone locality delegation orderMillimes weightGrams express) = true /\
      max (zone.minOrderMillimes.getD 0) (rate.minOrderMillimes.getD 0) <=
        min (zone.maxCodMillimes.getD maxSafeInteger)
          (min (rate.maxOrderMillimes.getD maxSafeInteger) (rate.maxCodMillimes.getD maxSafeInteger)) /\
      rate.minWeightGrams.getD 0 <= rate.maxWeightGrams.getD maxSafeInteger := by
  have nonnegative : Not (rate.feeMillimes < 0) := Int.not_lt.2 fee
  dsimp only [canBackCourierMethod]
  rw [<- @applicable_eq zone locality delegation rate orderMillimes weightGrams express]
  cases applicable rate (rateContext zone locality delegation orderMillimes weightGrams express) with
  | false => simp
  | true => simp [nonnegative]

end Applicable

section Bounds

variable {bound : Option Int} {amount : Int}

theorem above_minimum (meets : forall low, bound = some low -> low <= amount) (counted : 0 <= amount) :
    bound.getD 0 <= amount := by
  cases bound with
  | none => exact counted
  | some low => exact meets low rfl

theorem stored_minimum (small : forall low, bound = some low -> low <= databaseIntMax) :
    bound.getD 0 <= maxSafeInteger := by
  cases bound with
  | none => decide
  | some low =>
    have least := small low rfl
    have room : databaseIntMax <= maxSafeInteger := by decide
    exact le_trans least room

theorem below_maximum (keeps : forall high, bound = some high -> amount <= high) :
    min amount maxSafeInteger <= bound.getD maxSafeInteger := by
  cases bound with
  | none => exact min_le_right _ _
  | some high => exact le_trans (min_le_left _ _) (keeps high rfl)

theorem meets_minimum {low : Int} (least : bound.getD 0 <= amount) (given : bound = some low) :
    low <= amount := by
  subst given
  exact least

theorem keeps_maximum {high : Int} (most : amount <= bound.getD maxSafeInteger) (given : bound = some high) :
    amount <= high := by
  subst given
  exact most

theorem withinBounds_iff (rate : DeliveryRate) (context : RateContext) : withinBounds rate context = true <->
    (forall low, rate.minOrderMillimes = some low -> low <= context.orderMillimes) /\
      (forall high, rate.maxOrderMillimes = some high -> context.orderMillimes <= high) /\
      (forall high, rate.maxCodMillimes = some high -> context.orderMillimes <= high) /\
      (forall low, rate.minWeightGrams = some low -> low <= context.weightGrams) /\
      forall high, rate.maxWeightGrams = some high -> context.weightGrams <= high := by
  simp only [withinBounds, Bool.and_eq_true, Option.all_eq_true, decide_eq_true_eq, ge_iff_le, and_assoc]

end Bounds

section Choice

-- What checkout selects is one of the rates, and eligible.
theorem selectBaseRate_eligible {rates : List DeliveryRate} {context : RateContext} {rate : DeliveryRate}
    (selected : selectBaseRate rates context = .ok rate) :
    rate ∈ rates /\ eligibleForBase context rate = true := by
  rw [selectBaseRate_eq, bind_ok] at selected
  obtain ⟨chosen, first, given⟩ := selected
  rw [orThrow_ok] at given
  subst given
  obtain ⟨order, permuted, -, sorted⟩ := sorted_rates (eligibleForBase context) context rates
  rw [chooseUnique, sorted] at first
  have top : order.head? = some rate := by
    cases order with
    | nil => simp at first
    | cons head rest =>
      cases rest with
      | nil => simpa using first
      | cons second others =>
        simp only [List.map_cons] at first
        split at first
        next => cases first
        next => simpa using first
  exact List.mem_filter.1 (permuted.mem_iff.1 (List.mem_of_mem_head? top))

variable {config : Configuration} {now : Int} {localityId : Id}

-- The zone that checkout resolves is the one the offer is about.
theorem courierMethod_resolved {locality : Locality} {delegation : Delegation} {zone : DeliveryZone}
    (resolves : Resolves config localityId locality delegation zone)
    (links : (activeZones config locality).length <= zoneLinkLimit)
    (rates : (scopedRates config now zone locality delegation).length <= maxDeliveryRateCandidates) :
    courierMethod config now localityId =
      if (scopedRates config now zone locality delegation).any
        (fun rate => canBackCourierMethod rate zone locality delegation) then some (methodOf zone) else none := by
  have chosen := resolves.zone
  simp only [courierMethod, resolves.active, Option.bind_eq_bind, Option.bind_some, List.take_of_length_le links]
  unfold selectZone at chosen
  split at chosen
  next => cases chosen
  next selected alone =>
    cases chosen
    rw [alone]
    simp [List.take_of_length_le (Nat.le_succ_of_le rates), Nat.not_lt.2 rates]
  next selected next others several =>
    split at chosen
    next => cases chosen
    next apart =>
      cases chosen
      rw [several]
      simp [List.take_of_length_le (Nat.le_succ_of_le rates), Nat.not_lt.2 rates, apart]

-- An offered zone stands alone at the top of the links that were read.
structure Offered (config : Configuration) (now : Int) (localityId : Id) (locality : Locality)
    (delegation : Delegation) (selected : DeliveryZone × Int) (rest : List (DeliveryZone × Int))
    (rate : DeliveryRate) : Prop where
  active : activeLocality? config localityId = some (locality, delegation)
  sorted : ((activeZones config locality).take zoneLinkLimit).insertionSort zoneBefore = selected :: rest
  apart : Not (rest.head?.any (fun next => next.2 = selected.2) = true)
  current : rate ∈ scopedRates config now selected.1 locality delegation
  backs : canBackCourierMethod rate selected.1 locality delegation = true

theorem courierMethod_offered {method : CourierMethod}
    (offers : courierMethod config now localityId = some method) :
    exists locality delegation selected rest rate,
      Offered config now localityId locality delegation selected rest rate /\ method = methodOf selected.1 := by
  simp only [courierMethod, Option.bind_eq_bind, Option.bind_eq_some_iff, Prod.exists] at offers
  obtain ⟨locality, delegation, active, offers⟩ := offers
  split at offers
  next => cases offers
  next selected rest sorted =>
    split at offers
    next => cases offers
    next apart =>
      split at offers
      next => cases offers
      next =>
        split at offers
        next some_rate =>
          obtain ⟨rate, member, backs⟩ := List.any_eq_true.1 some_rate
          exact ⟨locality, delegation, selected, rest, rate,
            ⟨active, sorted, apart, List.mem_of_mem_take member, backs⟩, (Option.some.inj offers).symm⟩
        next => cases offers

theorem Offered.linked {locality : Locality} {delegation : Delegation} {selected : DeliveryZone × Int}
    {rest : List (DeliveryZone × Int)} {rate : DeliveryRate}
    (offered : Offered config now localityId locality delegation selected rest rate) :
    selected.1 ∈ (activeZones config locality).map Prod.fst := by
  have member : selected ∈ ((activeZones config locality).take zoneLinkLimit).insertionSort zoneBefore := by
    simp [offered.sorted]
  exact List.mem_map_of_mem (List.mem_of_mem_take ((List.mem_insertionSort zoneBefore).1 member))

theorem Offered.checkout {locality : Locality} {delegation : Delegation} {selected : DeliveryZone × Int}
    {rest : List (DeliveryZone × Int)} {rate : DeliveryRate}
    (offered : Offered config now localityId locality delegation selected rest rate)
    (links : (activeZones config locality).length <= zoneLinkLimit) :
    selectZone config locality = .ok selected.1 := by
  have sorted := offered.sorted
  have apart := offered.apart
  rw [List.take_of_length_le links] at sorted
  rw [selectZone, sorted]
  cases rest with
  | nil => rfl
  | cons next others =>
    simp only [List.head?_cons, Option.any_some, decide_eq_true_eq] at apart
    exact if_neg apart

end Choice

section Agreement

variable {config : Configuration} {now : Int} {localityId : Id}

theorem selectZone_linked {locality : Locality} {zone : DeliveryZone}
    (selects : selectZone config locality = .ok zone) : zone ∈ (activeZones config locality).map Prod.fst := by
  have member (selected : DeliveryZone × Int)
      (inside : selected ∈ (activeZones config locality).insertionSort zoneBefore) :
      selected.1 ∈ (activeZones config locality).map Prod.fst :=
    List.mem_map_of_mem ((List.mem_insertionSort zoneBefore).1 inside)
  unfold selectZone at selects
  split at selects
  next => cases selects
  next selected alone =>
    cases selects
    exact member selected (by simp [alone])
  next selected next others several =>
    split at selects
    next => cases selects
    next =>
      cases selects
      exact member selected (by simp [several])

theorem linked_stored {locality : Locality} {zone : DeliveryZone}
    (linked : zone ∈ (activeZones config locality).map Prod.fst) : zone ∈ config.deliveryZones := by
  obtain ⟨pair, inside, rfl⟩ := List.mem_map.1 linked
  obtain ⟨link, -, given⟩ := List.mem_filterMap.1 inside
  split at given
  next =>
    obtain ⟨zone, found, rfl⟩ := Option.map_eq_some_iff.1 given
    exact List.mem_of_find?_eq_some found
  next => cases given

-- A rate that checkout selects for an order within the zone's bounds passes the interval test.
theorem priced_backs (stored : StoredRates config) {orderMillimes weightGrams : Int} {express : Bool}
    {locality : Locality} {delegation : Delegation} {zone : DeliveryZone} {rate : DeliveryRate}
    (order : 0 <= orderMillimes) (weight : 0 <= weightGrams)
    (priced : Priced config now localityId orderMillimes weightGrams express locality delegation zone rate) :
    rate ∈ scopedRates config now zone locality delegation /\
      canBackCourierMethod rate zone locality delegation = true := by
  obtain ⟨current, eligible⟩ := selectBaseRate_eligible priced.rate
  have kept := (List.mem_filter.1 current).1
  have zoneKept := linked_stored (selectZone_linked priced.resolves.zone)
  have split : (applicable rate (rateContext zone locality delegation orderMillimes weightGrams express) &&
      withinBounds rate (rateContext zone locality delegation orderMillimes weightGrams express)) = true :=
    eligible
  obtain ⟨applies, bounds⟩ := Bool.and_eq_true_iff.1 split
  obtain ⟨minOrder, maxOrder, maxCod, minWeight, maxWeight⟩ := (withinBounds_iff _ _).1 bounds
  refine ⟨current, (canBack_iff (stored.fee rate kept)).2 ⟨applies, ?_, ?_⟩⟩
  next =>
    have lower : max (zone.minOrderMillimes.getD 0) (rate.minOrderMillimes.getD 0) <=
        min orderMillimes maxSafeInteger :=
      max_le
        (le_min (above_minimum priced.within.minimum order) (stored_minimum (stored.zoneMinOrder zone zoneKept)))
        (le_min (above_minimum minOrder order) (stored_minimum (stored.minOrder rate kept)))
    exact lower.trans (le_min (below_maximum priced.within.maximum)
      (le_min (below_maximum maxOrder) (below_maximum maxCod)))
  next =>
    have lower : rate.minWeightGrams.getD 0 <= min weightGrams maxSafeInteger :=
      le_min (above_minimum minWeight weight) (stored_minimum (stored.minWeight rate kept))
    exact lower.trans (below_maximum maxWeight)

theorem backs_fee {zone : DeliveryZone} {locality : Locality} {delegation : Delegation} {rate : DeliveryRate}
    (backs : canBackCourierMethod rate zone locality delegation = true) : 0 <= rate.feeMillimes := by
  refine Int.not_lt.1 fun negative => ?_
  simp [canBackCourierMethod, negative] at backs

-- The least order and the least weight of the interval test are served.
theorem offered_served {locality : Locality} {delegation : Delegation} {selected : DeliveryZone × Int}
    {rest : List (DeliveryZone × Int)} {rate : DeliveryRate}
    (offered : Offered config now localityId locality delegation selected rest rate) :
    Served config now localityId
      (max (selected.1.minOrderMillimes.getD 0) (rate.minOrderMillimes.getD 0)) (rate.minWeightGrams.getD 0)
      locality delegation selected.1 rate := by
  have test (express : Bool) := (@canBack_iff selected.1 locality delegation rate
    (max (selected.1.minOrderMillimes.getD 0) (rate.minOrderMillimes.getD 0)) (rate.minWeightGrams.getD 0)
    express (backs_fee offered.backs)).1 offered.backs
  obtain ⟨-, orders, weights⟩ := test false
  obtain ⟨zoneMost, rateMost⟩ := le_min_iff.1 orders
  obtain ⟨orderMost, codMost⟩ := le_min_iff.1 rateMost
  refine {
    active := offered.active
    linked := offered.linked
    checkout := offered.checkout
    within := {
      minimum := fun low given => meets_minimum (le_max_left _ _) given
      maximum := fun high given => keeps_maximum zoneMost given }
    current := offered.current
    eligible := fun express => ?_ }
  have bounds : withinBounds rate (rateContext selected.1 locality delegation
      (max (selected.1.minOrderMillimes.getD 0) (rate.minOrderMillimes.getD 0)) (rate.minWeightGrams.getD 0)
      express) = true :=
    (withinBounds_iff _ _).2 ⟨fun low given => meets_minimum (le_max_right _ _) given,
      fun high given => keeps_maximum orderMost given, fun high given => keeps_maximum codMost given,
      fun low given => meets_minimum le_rfl given, fun high given => keeps_maximum weights given⟩
  exact Bool.and_eq_true_iff.2 ⟨(test express).1, bounds⟩

theorem minimum_nonneg {bound : Option Int} (kept : forall low, bound = some low -> 0 <= low) :
    0 <= bound.getD 0 := by
  cases bound with
  | none => exact le_rfl
  | some low => exact kept low rfl

/-- Where no courier method is offered, checkout finds no base rate for any order within the bounds of the
    zone it resolves; where one is offered, some order within the bounds of that zone has an eligible rate,
    and the zone is the one checkout resolves. -/
theorem courier_offer_agrees (config : Configuration) (now : Int) (localityId : Id)
    (stored : StoredRates config) :
    (Permitted config now localityId -> courierMethod config now localityId = none ->
        forall orderMillimes weightGrams express locality delegation zone rate,
          0 <= orderMillimes -> 0 <= weightGrams ->
          Not (Priced config now localityId orderMillimes weightGrams express locality delegation zone rate)) /\
      forall method, courierMethod config now localityId = some method ->
        exists orderMillimes weightGrams locality delegation zone rate,
          Served config now localityId orderMillimes weightGrams locality delegation zone rate /\
            method = methodOf zone /\
            (NonnegativeMinimums zone rate -> 0 <= orderMillimes /\ 0 <= weightGrams) := by
  constructor
  next =>
    intro permitted absent orderMillimes weightGrams express locality delegation zone rate order weight priced
    obtain ⟨current, backs⟩ := priced_backs stored order weight priced
    have offers := courierMethod_resolved priced.resolves
      (permitted.links locality delegation priced.resolves.active)
      (permitted.rates locality delegation zone priced.resolves)
    rw [if_pos (List.any_eq_true.2 ⟨rate, current, backs⟩), absent] at offers
    cases offers
  next =>
    intro method offers
    obtain ⟨locality, delegation, selected, rest, rate, offered, rfl⟩ := courierMethod_offered offers
    refine ⟨_, _, locality, delegation, selected.1, rate, offered_served offered, rfl, fun nonnegative => ?_⟩
    exact ⟨le_max_of_le_left (minimum_nonneg nonnegative.zoneOrder), minimum_nonneg nonnegative.rateWeight⟩

end Agreement

namespace Sample

def zone (id : Id) (maxCodMillimes : Option Int) : DeliveryZone where
  id := id
  active := true
  supported := true
  temporarilySuspended := false
  priority := 1
  minOrderMillimes := none
  maxCodMillimes := maxCodMillimes
  freeDeliveryThresholdMillimes := none
  phoneConfirmationRequired := false
  manualReviewRequired := false

def rate (minOrderMillimes : Option Int) : DeliveryRate where
  id := 1
  active := true
  validFrom := none
  validUntil := none
  type := .base
  priority := 1
  feeMillimes := 7000
  deliveryZoneId := none
  governorateId := none
  delegationId := none
  localityId := none
  minWeightGrams := none
  maxWeightGrams := none
  minOrderMillimes := minOrderMillimes
  maxOrderMillimes := none
  maxCodMillimes := none

def link (zoneId : Nat) (priorityOverride : Option Int) : ZoneLink where
  deliveryZoneId := zoneId
  active := true
  priorityOverride := priorityOverride

def served (zones : List DeliveryZone) (links : List ZoneLink) (rates : List DeliveryRate) : Configuration :=
  { System.Sample.shop with
    localities := [{ id := 1, delegationId := 1, active := true, zoneLinks := links }]
    deliveryZones := zones
    deliveryRates := rates }

-- The zone takes orders up to 500 millimes, the only rate starts at 600.
def capped : Configuration :=
  served [zone 1 (some 500)] [link 1 none] [rate (some 600)]

def plain : Configuration :=
  served [zone 1 none] [link 1 none] [rate none]

-- Twenty links share a priority, and the twenty-first stands above them.
def crowded : Configuration :=
  served ((List.range 21).map fun id => zone id none)
    ((List.range 21).map fun id => link id (if id = 20 then some 2 else none)) [rate none]

theorem stored {zones : List DeliveryZone} {links : List ZoneLink} {minimum : Option Int}
    (small : forall bound, minimum = some bound -> bound <= databaseIntMax)
    (open_ended : zones.all (fun zone => zone.minOrderMillimes.isNone) = true) :
    StoredRates (served zones links [rate minimum]) where
  fee := by simp [served, rate]
  minOrder := by simpa [served, rate] using small
  zoneMinOrder := by
    intro zone member bound given
    have absent := List.all_eq_true.1 open_ended zone member
    simp [given] at absent
  minWeight := by simp [served, rate]

theorem permitted {zones : List DeliveryZone} {links : List ZoneLink} {minimum : Option Int}
    (few : links.length <= zoneLinkLimit) :
    Permitted (served zones links [rate minimum]) 0 1 where
  links := by
    intro locality delegation active
    have same : locality.zoneLinks = links := by
      simp [activeLocality?, served, System.Sample.shop] at active
      simp [<- active.1]
    exact (List.length_filterMap_le _ _).trans (same ▸ few)
  rates := by
    intro locality delegation zone _
    exact (List.length_filter_le _ _).trans (by decide : 1 <= maxDeliveryRateCandidates)

end Sample

theorem capped_zone_agrees :
    (forall orderMillimes weightGrams express locality delegation zone rate,
      0 <= orderMillimes -> 0 <= weightGrams ->
      Not (Priced Sample.capped 0 1 orderMillimes weightGrams express locality delegation zone rate)) /\
    exists orderMillimes weightGrams locality delegation zone rate,
      Served Sample.plain 0 1 orderMillimes weightGrams locality delegation zone rate := by
  constructor
  next =>
    exact (courier_offer_agrees Sample.capped 0 1 (Sample.stored (by decide) rfl)).1
      (Sample.permitted (by decide)) (by decide)
  next =>
    obtain ⟨orderMillimes, weightGrams, locality, delegation, zone, rate, served, -⟩ :=
      (courier_offer_agrees Sample.plain 0 1 (Sample.stored (by simp) rfl)).2
        (methodOf (Sample.zone 1 none)) (by decide)
    exact ⟨orderMillimes, weightGrams, locality, delegation, zone, rate, served⟩

-- Without an offer an order above the zone's maximum finds a rate, and so does one within it where
-- checkout reads a link that the offer does not.
theorem unoffered_orders_priced :
    Not (forall config now localityId, StoredRates config -> Permitted config now localityId ->
      courierMethod config now localityId = none ->
      forall orderMillimes weightGrams express locality delegation zone rate,
        0 <= orderMillimes -> 0 <= weightGrams -> Resolves config localityId locality delegation zone ->
        Not (selectBaseRate (scopedRates config now zone locality delegation)
          (rateContext zone locality delegation orderMillimes weightGrams express) = .ok rate)) /\
    Not (forall config now localityId, StoredRates config ->
      (forall locality delegation zone, Resolves config localityId locality delegation zone ->
        (scopedRates config now zone locality delegation).length <= maxDeliveryRateCandidates) ->
      courierMethod config now localityId = none ->
      forall orderMillimes weightGrams express locality delegation zone rate,
        0 <= orderMillimes -> 0 <= weightGrams ->
        Not (Priced config now localityId orderMillimes weightGrams express locality delegation zone rate)) := by
  constructor
  next =>
    intro always
    exact always Sample.capped 0 1 (Sample.stored (by decide) rfl) (Sample.permitted (by decide)) (by decide)
      600 0 false _ _ (Sample.zone 1 (some 500)) (Sample.rate (some 600)) (by decide) (by decide)
      ⟨rfl, rfl⟩ rfl
  next =>
    intro always
    exact always Sample.crowded 0 1 (Sample.stored (by simp) rfl)
      (fun locality delegation zone _ =>
        (List.length_filter_le _ _).trans (by decide : 1 <= maxDeliveryRateCandidates))
      (by decide +kernel) 600 0 false _ _ (Sample.zone 20 none) (Sample.rate none) (by decide) (by decide)
      ⟨⟨rfl, rfl⟩, ⟨by simp [Sample.zone], by simp [Sample.zone]⟩, rfl⟩

end VapeCommerce.Storefront.CourierOffer
