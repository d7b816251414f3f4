import VapeCommerce.DeliveryConfig.Rates
import VapeCommerce.Lib.Runs

set_option autoImplicit false

-- What the checks of the rate endpoints leave for checkout: one best rate, or none.
namespace VapeCommerce.DeliveryConfig.Selection

open VapeCommerce.Lib VapeCommerce.Lib.Outcome VapeCommerce.Schema VapeCommerce.Config
open VapeCommerce.Checkout.Pricing VapeCommerce.Checkout.Policy VapeCommerce.DeliveryConfig.Rates

structure Competing (left right : DeliveryRate) : Prop where
  type : left.type = right.type
  priority : left.priority = right.priority
  deliveryZoneId : left.deliveryZoneId = right.deliveryZoneId
  governorateId : left.governorateId = right.governorateId
  delegationId : left.delegationId = right.delegationId
  localityId : left.localityId = right.localityId

theorem Competing.symm {left right : DeliveryRate} (competing : Competing left right) :
    Competing right left where
  type := competing.type.symm
  priority := competing.priority.symm
  deliveryZoneId := competing.deliveryZoneId.symm
  governorateId := competing.governorateId.symm
  delegationId := competing.delegationId.symm
  localityId := competing.localityId.symm

-- Never in force together.
def Disjoint (left right : DeliveryRate) : Prop :=
  forall now, Not (validAt left now = true /\ validAt right now = true)

structure Unambiguous (state : RateState) : Prop where
  inScope : forall rate, rate ∈ state.rates.rows -> isValidScope rate.toDeliveryRate = true
  apart : forall left right, left ∈ state.rates.rows -> right ∈ state.rates.rows ->
    left.active = true -> right.active = true -> left.id ≠ right.id ->
    Competing left.toDeliveryRate right.toDeliveryRate ->
    Disjoint left.toDeliveryRate right.toDeliveryRate

section Windows

theorem validAt_iff (rate : DeliveryRate) (now : Int) :
    validAt rate now = true <->
      (forall start, rate.validFrom = some start -> start <= now) /\
        forall stop, rate.validUntil = some stop -> now < stop := by
  simp [validAt, Option.all_eq_true]

-- Half-open windows that share an instant pass the query's two comparisons.
theorem conflicting_of_shared {rate : DeliveryRate} {other : RateRecord} {excludeId : Id} {now : Int}
    (different : other.id ≠ excludeId) (active : other.active = true)
    (competing : Competing rate other.toDeliveryRate) (here : validAt rate now = true)
    (there : validAt other.toDeliveryRate now = true) : conflicting rate excludeId other = true := by
  have rateWindow := (validAt_iff rate now).1 here
  have otherWindow := (validAt_iff other.toDeliveryRate now).1 there
  have starts : rate.validUntil.all (fun stop => other.validFrom.all fun start => start < stop) := by
    simp only [Option.all_eq_true, decide_eq_true_eq]
    intro stop ends start begins
    have before := otherWindow.1 start begins
    have after := rateWindow.2 stop ends
    omega
  have ends : rate.validFrom.all (fun start => other.validUntil.all fun stop => stop > start) := by
    simp only [Option.all_eq_true, decide_eq_true_eq]
    intro start begins stop ends
    have before := rateWindow.1 start begins
    have after := otherWindow.2 stop ends
    omega
  simp [conflicting, different, active, competing.type, competing.priority,
    competing.deliveryZoneId, competing.governorateId, competing.delegationId, competing.localityId,
    starts, ends]

theorem disjoint_of_checked {state : RateState} {rate : DeliveryRate} {excludeId : Id}
    (checked : assertNoAmbiguousRate state rate excludeId = .ok ()) {other : RateRecord}
    (member : other ∈ state.rates.rows) (different : other.id ≠ excludeId)
    (active : other.active = true) (competing : Competing rate other.toDeliveryRate) :
    Disjoint rate other.toDeliveryRate := by
  simp only [assertNoAmbiguousRate, throwIf_ok, List.any_eq_true, not_exists, not_and] at checked
  intro now shared
  exact checked other member (conflicting_of_shared different active competing shared.1 shared.2)

end Windows

section Endpoints

theorem validateRate_scoped {config : Configuration} {rate : DeliveryRate}
    (valid : validateRate config rate = .ok ()) : isValidScope rate = true := by
  simp only [validateRate, bind_ok, throwIf_ok, exists_const, not_not] at valid
  exact valid.2.2.2.1

-- A rewrite of one row, checked against the rows beside it.
theorem rewritten_unambiguous {state : RateState} (old : Unambiguous state) {current : RateRecord}
    (member : current ∈ state.rates.rows) {chosen : RateRecord -> Bool}
    {change : RateRecord -> RateRecord} (keeps : forall row, (change row).key = row.key)
    (hit : chosen current = true) (only : forall row, chosen row = true -> row.id = current.id)
    (inScope : isValidScope (change current).toDeliveryRate = true)
    (checked : (change current).active = true ->
      forall other, other ∈ state.rates.rows -> other.id ≠ current.id -> other.active = true ->
        Competing (change current).toDeliveryRate other.toDeliveryRate ->
        Disjoint (change current).toDeliveryRate other.toDeliveryRate) :
    Unambiguous { state with rates := state.rates.update chosen change keeps } := by
  have row_cases : forall row, row ∈ state.rates.rows ->
      (row = current /\ Table.rewrite chosen change row = change current) \/
        (row.id ≠ current.id /\ Table.rewrite chosen change row = row) := by
    intro row present
    by_cases same : row.id = current.id
    next =>
      have eq : row = current := state.rates.same_of_key present member same
      exact .inl ⟨eq, by rw [eq, Table.rewrite_chosen hit]⟩
    next =>
      have miss : chosen row = false := by
        cases met : chosen row with
        | false => rfl
        | true => exact absurd (only row met) same
      exact .inr ⟨same, Table.rewrite_other miss⟩
  constructor
  case inScope =>
    intro rate present
    obtain ⟨row, here, rfl⟩ := List.mem_map.1 present
    cases row_cases row here with
    | inl target => rw [target.2]; exact inScope
    | inr other => rw [other.2]; exact old.inScope row here
  case apart =>
    intro left right leftPresent rightPresent leftActive rightActive different competing
    obtain ⟨leftRow, leftHere, rfl⟩ := List.mem_map.1 leftPresent
    obtain ⟨rightRow, rightHere, rfl⟩ := List.mem_map.1 rightPresent
    cases row_cases leftRow leftHere with
    | inl leftTarget =>
      rw [leftTarget.2] at leftActive different competing ⊢
      cases row_cases rightRow rightHere with
      | inl rightTarget => exact absurd (by rw [rightTarget.2]) different
      | inr rightOther =>
        rw [rightOther.2] at rightActive competing ⊢
        exact checked leftActive rightRow rightHere rightOther.1 rightActive competing
    | inr leftOther =>
      rw [leftOther.2] at leftActive different competing ⊢
      cases row_cases rightRow rightHere with
      | inl rightTarget =>
        rw [rightTarget.2] at rightActive competing ⊢
        intro now shared
        exact checked rightActive leftRow leftHere leftOther.1 leftActive competing.symm now
          ⟨shared.2, shared.1⟩
      | inr rightOther =>
        rw [rightOther.2] at rightActive different competing ⊢
        exact old.apart leftRow rightRow leftHere rightHere leftActive rightActive different competing

theorem create_unambiguous {state next : RateState} {id : Id} {input : RateConfigInput}
    (old : Unambiguous state) (ran : create state id input = .ok next) : Unambiguous next := by
  simp only [create, bind_ok, Database.create_ok, pure_ok] at ran
  obtain ⟨_, valid, rates, inserted, rfl⟩ := ran
  have rows := (Table.insert?_rows inserted).1
  constructor
  case inScope =>
    intro rate present
    rw [rows, List.mem_append, List.mem_singleton] at present
    cases present with
    | inl before => exact old.inScope rate before
    | inr added => exact added ▸ validateRate_scoped valid
  case apart =>
    intro left right leftPresent rightPresent leftActive rightActive
    rw [rows, List.mem_append, List.mem_singleton] at leftPresent rightPresent
    -- A new rate starts inactive.
    cases leftPresent with
    | inr added => simp [added, rateInput] at leftActive
    | inl leftBefore =>
      cases rightPresent with
      | inr added => simp [added, rateInput] at rightActive
      | inl rightBefore =>
        exact old.apart left right leftBefore rightBefore leftActive rightActive

theorem update_unambiguous {state next : RateState} {id : Id} {input : UpdateDeliveryRate} {now : Int}
    (old : Unambiguous state) (ran : update state id input now = .ok next) : Unambiguous next := by
  simp only [update, requireRate, bind_ok, orThrow_ok, throwIf_ok, not_not, exists_const,
    requireWhen_ok, Database.updateOne_ok, pure_ok] at ran
  obtain ⟨current, found, version, _, valid, checked, rates, ⟨-, rfl⟩, -, -, -, -, rfl⟩ := ran
  have member := Table.find?_mem found
  have same : current.key = id := Table.find?_key found
  subst same
  apply rewritten_unambiguous old member
  case hit => simp [RateRecord.key, version]
  case only =>
    intro row met
    simp only [Bool.and_eq_true, beq_iff_eq] at met
    exact met.1
  case inScope => exact validateRate_scoped valid
  case checked =>
    intro active other present different otherActive competing
    exact disjoint_of_checked (checked active) present different otherActive competing

theorem setActive_unambiguous {state next : RateState} {id : Id} {version now : Int} {active : Bool}
    (old : Unambiguous state) (ran : setActive state id version active now = .ok next) :
    Unambiguous next := by
  simp only [setActive, requireRate, bind_ok, orThrow_ok, throwIf_ok, not_not, exists_const,
    requireWhen_ok, Database.updateOne_ok, pure_ok] at ran
  obtain ⟨current, found, matched, _, valid, checked, rates, ⟨-, rfl⟩, -, -, -, -, rfl⟩ := ran
  have member := Table.find?_mem found
  have same : current.key = id := Table.find?_key found
  subst same
  apply rewritten_unambiguous old member
  case hit => simp [RateRecord.key, matched]
  case only =>
    intro row met
    simp only [Bool.and_eq_true, beq_iff_eq] at met
    exact met.1
  case inScope => exact validateRate_scoped valid
  case checked =>
    intro activates other present different otherActive competing
    have slots : Competing current.toDeliveryRate other.toDeliveryRate := { competing with }
    exact disjoint_of_checked (checked activates) present different otherActive slots

end Endpoints

section Ranking

def slot (rate : DeliveryRate) : Option Id × Option Id × Option Id × Option Id :=
  (rate.deliveryZoneId, rate.governorateId, rate.delegationId, rate.localityId)

-- The only slot a rate of this rank can have in this context.
def slotAt (context : RateContext) (rank : Int) : Option Id × Option Id × Option Id × Option Id :=
  if rank = 5 then (none, none, none, some context.localityId)
  else if rank = 4 then (none, none, some context.delegationId, none)
  else if rank = 3 then (none, some context.governorateId, none, none)
  else if rank = 2 then (some context.deliveryZoneId, none, none, none)
  else (none, none, none, none)

theorem isValidScope_single {rate : DeliveryRate} (valid : isValidScope rate = true) :
    (scopeIds rate).length <= 1 := by
  simp only [isValidScope, Bool.or_eq_true, Bool.and_eq_true, beq_iff_eq, decide_eq_true_eq] at valid
  omega

theorem slot_of_rank {rate : DeliveryRate} {context : RateContext}
    (single : (scopeIds rate).length <= 1) (ranked : geographicRank rate context > 0) :
    slot rate = slotAt context (geographicRank rate context) := by
  cases zone : rate.deliveryZoneId <;> cases governorate : rate.governorateId <;>
    cases delegation : rate.delegationId <;> cases locality : rate.localityId <;>
    simp [scopeIds, zone, governorate, delegation, locality] at single <;>
    simp only [geographicRank, slot, zone, governorate, delegation, locality] at ranked ⊢ <;>
    split_ifs at ranked ⊢ <;> simp_all [slotAt]

theorem competing_of_slots {left right : DeliveryRate} (type : left.type = right.type)
    (priority : left.priority = right.priority) (slots : slot left = slot right) :
    Competing left right := by
  simp only [slot, Prod.mk.injEq] at slots
  obtain ⟨zone, governorate, delegation, locality⟩ := slots
  exact ⟨type, priority, zone, governorate, delegation, locality⟩

theorem baseType_of_rank {left right : DeliveryRate} {rank : Int}
    (leftMatches : baseTypeMatchesRank left rank = true)
    (rightMatches : baseTypeMatchesRank right rank = true) : left.type = right.type := by
  simp only [baseTypeMatchesRank, Bool.or_eq_true, Bool.and_eq_true, beq_iff_eq] at leftMatches rightMatches
  cases leftType : left.type <;> cases rightType : right.type <;> simp_all

-- Two candidates that checkout's comparison cannot tell apart.
def Tied (left right : DeliveryRate × Int) : Prop :=
  left.2 = right.2 /\ left.1.priority = right.1.priority

theorem chooseUnique_ambiguous {ranked : List (DeliveryRate × Int)} {required : Bool}
    (untied : ranked.Pairwise fun left right => Not (Tied left right)) :
    chooseUnique ranked required ≠ .error .deliveryRateAmbiguous := by
  have symmetric : forall left right : DeliveryRate × Int, Not (Tied left right) ->
      Not (Tied right left) :=
    fun left right apart tied => apart ⟨tied.1.symm, tied.2.symm⟩
  have sorted := (List.perm_insertionSort ranksBefore ranked).symm.pairwise untied
    (fun {left right} => symmetric left right)
  unfold chooseUnique
  cases order : ranked.insertionSort ranksBefore with
  | nil => cases required <;> simp
  | cons first rest =>
    cases rest with
    | nil => simp
    | cons second others =>
      rw [order, List.pairwise_cons] at sorted
      have apart : Not (second.2 = first.2 /\ second.1.priority = first.1.priority) :=
        fun tied => sorted.1 second (by simp) ⟨tied.1.symm, tied.2.symm⟩
      simp [apart]

end Ranking

section Checkout

variable {state : RateState} {context : RateContext} {now : Int}

-- The rates in force at an instant compete pairwise nowhere.
theorem current_apart (unambiguous : Unambiguous state) (locality : Locality)
    (zone : DeliveryZone) (delegation : Delegation) :
    (Checkout.Fulfillment.scopedRates state.current now zone locality delegation).Pairwise
      fun left right => isValidScope left = true /\ isValidScope right = true /\
        Not (Competing left right) := by
  have ids : state.rates.rows.Pairwise fun left right => left.id ≠ right.id :=
    List.pairwise_map.1 state.rates.distinct
  unfold Checkout.Fulfillment.scopedRates RateState.current
  rw [List.pairwise_filter, List.pairwise_map]
  apply ids.imp_of_mem
  intro left right leftPresent rightPresent different leftChosen rightChosen
  simp only [Bool.and_eq_true] at leftChosen rightChosen
  refine ⟨unambiguous.inScope left leftPresent, unambiguous.inScope right rightPresent, ?_⟩
  intro competing
  exact unambiguous.apart left right leftPresent rightPresent leftChosen.1.1 rightChosen.1.1
    different competing now ⟨leftChosen.1.2, rightChosen.1.2⟩

omit state now in
-- Equal ranks mean equal slots, so tied candidates of one type compete.
theorem candidates_untied {rates : List DeliveryRate} {keep : DeliveryRate -> Int -> Bool}
    (ranked : forall rate rank, keep rate rank = true -> rank > 0)
    (typed : forall left right rank, keep left rank = true -> keep right rank = true ->
      left.type = right.type)
    (apart : rates.Pairwise fun left right => isValidScope left = true /\
      isValidScope right = true /\ Not (Competing left right)) :
    (rates.filterMap fun rate =>
      if keep rate (geographicRank rate context) then some (rate, geographicRank rate context)
      else none).Pairwise fun left right => Not (Tied left right) := by
  rw [List.pairwise_filterMap]
  apply apart.imp
  rintro left right ⟨leftScope, rightScope, uncontested⟩ leftCandidate leftMade rightCandidate
    rightMade tied
  rw [Option.ite_none_right_eq_some] at leftMade rightMade
  obtain ⟨leftKept, ⟨⟩⟩ := leftMade
  obtain ⟨rightKept, ⟨⟩⟩ := rightMade
  have sameRank : geographicRank left context = geographicRank right context := tied.1
  have leftSlot := slot_of_rank (isValidScope_single leftScope) (ranked _ _ leftKept)
  have rightSlot := slot_of_rank (isValidScope_single rightScope) (ranked _ _ rightKept)
  have slots : slot left = slot right := by rw [leftSlot, rightSlot, sameRank]
  exact uncontested (competing_of_slots (typed left right _ leftKept (sameRank ▸ rightKept)) tied.2 slots)

omit state now in
theorem selectBaseRate_unambiguous {rates : List DeliveryRate}
    (apart : rates.Pairwise fun left right => isValidScope left = true /\
      isValidScope right = true /\ Not (Competing left right)) :
    selectBaseRate rates context ≠ .error .deliveryRateAmbiguous := by
  let keep : DeliveryRate -> Int -> Bool := fun rate rank =>
    rank > 0 && baseTypeMatchesRank rate rank && withinBounds rate context
  have untied := @candidates_untied context rates keep
    (fun rate rank kept => by simp only [keep, Bool.and_eq_true, decide_eq_true_eq] at kept; omega)
    (fun left right rank leftKept rightKept => by
      simp only [keep, Bool.and_eq_true] at leftKept rightKept
      exact baseType_of_rank leftKept.1.2 rightKept.1.2)
    apart
  intro ambiguous
  simp only [selectBaseRate, bind_error] at ambiguous
  cases ambiguous with
  | inl failed => exact chooseUnique_ambiguous untied failed
  | inr chosen =>
    obtain ⟨selected, -, missing⟩ := chosen
    cases selected <;> simp [orThrow] at missing

omit state now in
theorem selectSurchargeRate_unambiguous {rates : List DeliveryRate} (type : DeliveryRateType)
    (apart : rates.Pairwise fun left right => isValidScope left = true /\
      isValidScope right = true /\ Not (Competing left right)) :
    selectSurchargeRate rates context type ≠ .error .deliveryRateAmbiguous := by
  let keep : DeliveryRate -> Int -> Bool := fun rate rank =>
    rate.type == type && rank > 0 && (type != .expressSurcharge || context.express) &&
      withinBounds rate context
  have untied := @candidates_untied context rates keep
    (fun rate rank kept => by simp only [keep, Bool.and_eq_true, decide_eq_true_eq] at kept; omega)
    (fun left right rank leftKept rightKept => by
      simp only [keep, Bool.and_eq_true, beq_iff_eq] at leftKept rightKept
      exact leftKept.1.1.1.trans rightKept.1.1.1.symm)
    apart
  exact chooseUnique_ambiguous untied

end Checkout

section Runs

inductive RateCall where
  | configure (config : Configuration)
  | create (id : Id) (input : RateConfigInput)
  | update (id : Id) (input : UpdateDeliveryRate)
  | setActive (id : Id) (expectedVersion : Int) (active : Bool)

-- One request at its own time; `configure` is what zone and geography administrators change.
structure RateRequest where
  now : Int
  call : RateCall

def exec (state : RateState) (request : RateRequest) : Except Failure RateState :=
  match request.call with
  | .configure config => .ok { state with config }
  | .create id input => create state id input
  | .update id input => update state id input request.now
  | .setActive id version active => setActive state id version active request.now

def step (state : RateState) (request : RateRequest) : RateState :=
  (succeeded (exec state request)).getD state

def opening (config : Configuration) : RateState where
  config := config
  rates := Table.empty

theorem exec_unambiguous {state next : RateState} {request : RateRequest}
    (old : Unambiguous state) (ran : exec state request = .ok next) : Unambiguous next := by
  unfold exec at ran
  cases call : request.call with
  | configure config =>
    simp only [call] at ran
    cases ran
    exact ⟨old.inScope, old.apart⟩
  | create id input =>
    simp only [call] at ran
    exact create_unambiguous old ran
  | update id input =>
    simp only [call] at ran
    exact update_unambiguous old ran
  | setActive id version active =>
    simp only [call] at ran
    exact setActive_unambiguous old ran

theorem step_unambiguous (state : RateState) (request : RateRequest) (old : Unambiguous state) :
    Unambiguous (step state request) := by
  unfold step
  cases ran : exec state request with
  | error failure => exact old
  | ok next => exact exec_unambiguous old ran

theorem run_unambiguous (config : Configuration) (requests : List RateRequest) :
    Unambiguous (Runs.run step (opening config) requests) := by
  apply Runs.run_keeps step_unambiguous
  exact ⟨by simp [opening], by simp [opening]⟩

/-- Whatever rates the endpoints have admitted, checkout never finds two it cannot rank. -/
theorem admitted_rates_unambiguous (config : Configuration) (requests : List RateRequest)
    (now : Int) (zone : DeliveryZone) (locality : Locality) (delegation : Delegation)
    (context : RateContext) :
    let rates := Checkout.Fulfillment.scopedRates
      (Runs.run step (opening config) requests).current now zone locality delegation
    selectBaseRate rates context ≠ .error .deliveryRateAmbiguous /\
      forall type, selectSurchargeRate rates context type ≠ .error .deliveryRateAmbiguous := by
  intro rates
  have apart := @current_apart _ now (run_unambiguous config requests) locality zone delegation
  exact ⟨selectBaseRate_unambiguous apart, fun type => selectSurchargeRate_unambiguous type apart⟩

end Runs

end VapeCommerce.DeliveryConfig.Selection
