import Mathlib.Data.Prod.Lex
import VapeCommerce.Checkout.Pricing
import VapeCommerce.Lib.Ranking

set_option autoImplicit false

-- Which rate `chooseUnique` settles on: the top of the eligible rates, when it is alone there.
namespace VapeCommerce.Checkout.RateChoice

open VapeCommerce.Lib.Outcome VapeCommerce.Lib.Ranking VapeCommerce.Schema VapeCommerce.Config
open VapeCommerce.Checkout.Pricing

def eligibleForBase (context : RateContext) (rate : DeliveryRate) : Bool :=
  geographicRank rate context > 0 && baseTypeMatchesRank rate (geographicRank rate context) &&
    withinBounds rate context

def eligibleForSurcharge (context : RateContext) (type : DeliveryRateType) (rate : DeliveryRate) : Bool :=
  rate.type == type && geographicRank rate context > 0 &&
    (type != .expressSurcharge || context.express) && withinBounds rate context

-- Geographic rank first, priority second.
def standing (context : RateContext) (rate : DeliveryRate) : Int ×ₗ Int :=
  toLex (geographicRank rate context, rate.priority)

def eligibleRates (eligible : DeliveryRate -> Bool) (rates : List DeliveryRate) : List DeliveryRate :=
  rates.filter eligible

-- No eligible rate stands above this one.
def Highest (eligible : DeliveryRate -> Bool) (context : RateContext) (rates : List DeliveryRate)
    (rate : DeliveryRate) : Prop :=
  Top (standing context) (eligibleRates eligible rates) rate

def Alone (eligible : DeliveryRate -> Bool) (context : RateContext) (rates : List DeliveryRate)
    (rate : DeliveryRate) : Prop :=
  Highest eligible context rates rate /\
    forall other, Highest eligible context rates other -> other = rate

def Shared (eligible : DeliveryRate -> Bool) (context : RateContext) (rates : List DeliveryRate) : Prop :=
  exists left right, Highest eligible context rates left /\ Highest eligible context rates right /\
    left.id ≠ right.id

section Sorting

instance : IsTrans (DeliveryRate × Int) ranksBefore where
  trans left middle right first second := by
    simp only [ranksBefore] at first second ⊢
    have ids := @Nat.le_trans left.1.id middle.1.id right.1.id
    grind

instance : Std.Total (α := DeliveryRate × Int) ranksBefore where
  total left right := by
    simp only [ranksBefore]
    have ids := Nat.le_total left.1.id right.1.id
    grind

variable {eligible : DeliveryRate -> Bool} {context : RateContext} {rates : List DeliveryRate}

def ranked (eligible : DeliveryRate -> Bool) (context : RateContext) (rates : List DeliveryRate) :
    List (DeliveryRate × Int) :=
  (eligibleRates eligible rates).map fun rate => (rate, geographicRank rate context)

theorem standing_le (context : RateContext) (left right : DeliveryRate) :
    standing context left <= standing context right <->
      geographicRank left context < geographicRank right context \/
        (geographicRank left context = geographicRank right context /\ left.priority <= right.priority) :=
  Prod.Lex.toLex_le_toLex

theorem standing_eq (context : RateContext) (left right : DeliveryRate) :
    standing context left = standing context right <->
      geographicRank left context = geographicRank right context /\ left.priority = right.priority := by
  simp [standing]

-- The sorted candidates, seen as rates.
theorem sorted_rates (eligible : DeliveryRate -> Bool) (context : RateContext) (rates : List DeliveryRate) :
    exists order : List DeliveryRate, order.Perm (eligibleRates eligible rates) /\
      Descending (standing context) order /\
      (ranked eligible context rates).insertionSort ranksBefore =
        order.map fun rate => (rate, geographicRank rate context) := by
  have permuted := List.perm_insertionSort ranksBefore (ranked eligible context rates)
  have sorted := List.pairwise_insertionSort ranksBefore (ranked eligible context rates)
  have pairs : forall candidate, candidate ∈ (ranked eligible context rates).insertionSort ranksBefore ->
      candidate = (candidate.1, geographicRank candidate.1 context) := by
    intro candidate member
    obtain ⟨rate, -, rfl⟩ := List.mem_map.1 (permuted.mem_iff.1 member)
    rfl
  refine ⟨((ranked eligible context rates).insertionSort ranksBefore).map (·.1), ?_, ?_, ?_⟩
  next =>
    have seen := permuted.map (·.1)
    simpa [ranked, Function.comp_def] using seen
  next =>
    rw [Descending, List.pairwise_map]
    refine sorted.imp_of_mem fun {left right} leftMember rightMember before => ?_
    have leftPair := congrArg Prod.snd (pairs left leftMember)
    have rightPair := congrArg Prod.snd (pairs right rightMember)
    simp only [ranksBefore] at before
    rw [standing_le]
    omega
  next =>
    rw [List.map_map]
    exact (List.map_id' _).symm.trans (List.map_congr_left pairs)

end Sorting

section Choice

variable {eligible : DeliveryRate -> Bool} {context : RateContext} {rates : List DeliveryRate}

-- The three outcomes of a choice, each with its reason.
inductive Chosen (eligible : DeliveryRate -> Bool) (context : RateContext) (rates : List DeliveryRate)
    (required : Bool) : Except RateResolutionError (Option DeliveryRate) -> Prop where
  | nothing (absent : forall rate, rate ∈ rates -> eligible rate = false) :
      Chosen eligible context rates required
        (if required then .error .deliveryRateMissing else .ok none)
  | alone {rate : DeliveryRate} (highest : Alone eligible context rates rate) :
      Chosen eligible context rates required (.ok (some rate))
  | shared (tie : Shared eligible context rates) :
      Chosen eligible context rates required (.error .deliveryRateAmbiguous)

theorem highest_congr {order : List DeliveryRate} (permuted : order.Perm (eligibleRates eligible rates))
    (rate : DeliveryRate) : Highest eligible context rates rate <-> Top (standing context) order rate :=
  top_congr (fun _ => permuted.mem_iff.symm) rate

theorem chooseUnique_chosen (distinct : (rates.map (·.id)).Nodup) (required : Bool) :
    Chosen eligible context rates required (chooseUnique (ranked eligible context rates) required) := by
  obtain ⟨order, permuted, sorted, seen⟩ := sorted_rates eligible context rates
  have highest := @highest_congr eligible context rates order permuted
  rw [chooseUnique, seen]
  cases order with
  | nil =>
    refine .nothing fun rate member => ?_
    have none := permuted.nil_eq
    exact Bool.eq_false_iff.2 fun chosen =>
      absurd (List.mem_filter.2 ⟨member, chosen⟩) (by
        change Not (rate ∈ eligibleRates eligible rates)
        simp [<- none])
  | cons first rest =>
    have top := top_first sorted
    cases rest with
    | nil =>
      refine .alone ⟨(highest first).2 top, fun other there => ?_⟩
      simpa using ((highest other).1 there).member
    | cons second others =>
      simp only [List.map_cons]
      split
      next tie =>
        have tied := (standing_eq context second first).2 tie
        have second := top_second sorted tied
        refine .shared ⟨first, _, (highest first).2 top, (highest _).2 second, ?_⟩
        have ids : ((eligibleRates eligible rates).map (·.id)).Nodup :=
          List.Nodup.sublist (List.filter_sublist.map _) distinct
        have nodup := (permuted.map (·.id)).nodup_iff.2 ids
        simp only [List.map_cons, List.nodup_cons, List.mem_cons, not_or] at nodup
        exact nodup.1.1
      next apart =>
        have different : standing context second ≠ standing context first := fun same =>
          apart ((standing_eq context second first).1 same)
        exact .alone ⟨(highest first).2 top, fun other there =>
          top_only sorted different ((highest other).1 there)⟩

-- No two of the outcomes can be had from the same rates.
theorem Chosen.unique {required : Bool} {left right : Except RateResolutionError (Option DeliveryRate)}
    (first : Chosen eligible context rates required left)
    (second : Chosen eligible context rates required right) : left = right := by
  have inhabited : forall rate, Highest eligible context rates rate ->
      Not (forall rate, rate ∈ rates -> eligible rate = false) := by
    intro rate highest absent
    obtain ⟨member, chosen⟩ := List.mem_filter.1 highest.member
    simp [absent rate member] at chosen
  have separate : forall rate, Alone eligible context rates rate -> Not (Shared eligible context rates) := by
    rintro rate ⟨-, only⟩ ⟨one, other, oneHighest, otherHighest, apart⟩
    exact apart (by rw [only one oneHighest, only other otherHighest])
  cases first with
  | nothing absent =>
    cases second with
    | nothing => rfl
    | alone highest => exact absurd absent (inhabited _ highest.1)
    | shared tie =>
      obtain ⟨one, _, highest, -⟩ := tie
      exact absurd absent (inhabited one highest)
  | alone highest =>
    cases second with
    | nothing absent => exact absurd absent (inhabited _ highest.1)
    | alone other => rw [highest.2 _ other.1]
    | shared tie => exact absurd tie (separate _ highest)
  | shared tie =>
    cases second with
    | nothing absent =>
      obtain ⟨one, _, highest, -⟩ := tie
      exact absurd absent (inhabited one highest)
    | alone highest => exact absurd tie (separate _ highest)
    | shared => rfl

theorem Chosen.perm {required : Bool} {other : List DeliveryRate} (permuted : other.Perm rates)
    {outcome : Except RateResolutionError (Option DeliveryRate)}
    (chosen : Chosen eligible context other required outcome) :
    Chosen eligible context rates required outcome := by
  have same : forall rate, Highest eligible context other rate <-> Highest eligible context rates rate :=
    fun rate => top_congr (fun _ => (permuted.filter eligible).mem_iff) rate
  cases chosen with
  | nothing absent => exact .nothing fun rate member => absent rate (permuted.mem_iff.2 member)
  | alone highest =>
    exact .alone ⟨(same _).1 highest.1, fun rate there => highest.2 rate ((same rate).2 there)⟩
  | shared tie =>
    obtain ⟨left, right, leftHighest, rightHighest, apart⟩ := tie
    exact .shared ⟨left, right, (same left).1 leftHighest, (same right).1 rightHighest, apart⟩

variable {required : Bool} {outcome : Except RateResolutionError (Option DeliveryRate)}

theorem Chosen.some_iff (chosen : Chosen eligible context rates required outcome) (rate : DeliveryRate) :
    outcome = .ok (some rate) <-> Alone eligible context rates rate := by
  constructor
  next =>
    intro same
    cases chosen with
    | nothing => cases required <;> simp at same
    | alone highest => cases same; exact highest
    | shared => cases same
  next => exact fun alone => chosen.unique (.alone alone)

theorem Chosen.none_iff (chosen : Chosen eligible context rates required outcome) :
    outcome = (if required then .error .deliveryRateMissing else .ok none) <->
      forall rate, rate ∈ rates -> eligible rate = false := by
  constructor
  next =>
    intro same
    cases chosen with
    | nothing absent => exact absent
    | alone => cases required <;> simp at same
    | shared => cases required <;> simp at same
  next => exact fun absent => chosen.unique (.nothing absent)

theorem Chosen.ambiguous_iff (chosen : Chosen eligible context rates required outcome) :
    outcome = .error .deliveryRateAmbiguous <-> Shared eligible context rates := by
  constructor
  next =>
    intro same
    cases chosen with
    | nothing => cases required <;> simp at same
    | alone => cases same
    | shared tie => exact tie
  next => exact fun tie => chosen.unique (.shared tie)

end Choice

section Selections

theorem filterMap_ranked (eligible : DeliveryRate -> Bool) (context : RateContext)
    (rates : List DeliveryRate) :
    (rates.filterMap fun rate =>
      if eligible rate then some (rate, geographicRank rate context) else none) =
      ranked eligible context rates := by
  induction rates with
  | nil => rfl
  | cons rate rest ih =>
    cases chosen : eligible rate with
    | true => simp [ranked, eligibleRates, chosen, ih]
    | false => simp [ranked, eligibleRates, chosen, ih]

theorem selectBaseRate_eq (rates : List DeliveryRate) (context : RateContext) :
    selectBaseRate rates context =
      (chooseUnique (ranked (eligibleForBase context) context rates) true >>= fun selected =>
        orThrow selected .deliveryRateMissing) := by
  rw [<- filterMap_ranked]
  rfl

theorem selectSurchargeRate_eq (rates : List DeliveryRate) (context : RateContext)
    (type : DeliveryRateType) :
    selectSurchargeRate rates context type =
      chooseUnique (ranked (eligibleForSurcharge context type) context rates) false := by
  rw [<- filterMap_ranked]
  rfl

theorem required_ok {eligible : DeliveryRate -> Bool} {context : RateContext} {rates : List DeliveryRate}
    {outcome : Except RateResolutionError (Option DeliveryRate)}
    (chosen : Chosen eligible context rates true outcome) :
    (forall rate, (outcome >>= fun selected => orThrow selected .deliveryRateMissing) = .ok rate <->
        outcome = .ok (some rate)) /\
      forall error, (outcome >>= fun selected => orThrow selected .deliveryRateMissing) = .error error <->
        outcome = .error error := by
  cases chosen with
  | nothing => simp [bind, Except.bind]
  | alone => simp [bind, Except.bind, orThrow]
  | shared => simp [bind, Except.bind]

/-- Both selections return the eligible rate that alone stands highest, say that there is none exactly
    when nothing is eligible, are ambiguous exactly when two rates share the highest standing, and do
    not depend on the order of the rates. -/
theorem rates_chosen_by_standing (rates : List DeliveryRate) (context : RateContext)
    (distinct : (rates.map (·.id)).Nodup) :
    ((forall rate, selectBaseRate rates context = .ok rate <->
          Alone (eligibleForBase context) context rates rate) /\
        (selectBaseRate rates context = .error .deliveryRateMissing <->
          forall rate, rate ∈ rates -> eligibleForBase context rate = false) /\
        (selectBaseRate rates context = .error .deliveryRateAmbiguous <->
          Shared (eligibleForBase context) context rates) /\
        forall other, other.Perm rates -> selectBaseRate other context = selectBaseRate rates context) /\
      forall type,
        (forall rate, selectSurchargeRate rates context type = .ok (some rate) <->
            Alone (eligibleForSurcharge context type) context rates rate) /\
          (selectSurchargeRate rates context type = .ok none <->
            forall rate, rate ∈ rates -> eligibleForSurcharge context type rate = false) /\
          (selectSurchargeRate rates context type = .error .deliveryRateAmbiguous <->
            Shared (eligibleForSurcharge context type) context rates) /\
          forall other, other.Perm rates ->
            selectSurchargeRate other context type = selectSurchargeRate rates context type := by
  have same : forall eligible required other, other.Perm rates ->
      chooseUnique (ranked eligible context other) required =
        chooseUnique (ranked eligible context rates) required := by
    intro eligible required other permuted
    have ids := (permuted.map (·.id)).nodup_iff.2 distinct
    exact ((chooseUnique_chosen ids required).perm permuted).unique (chooseUnique_chosen distinct required)
  constructor
  next =>
    have chosen := @chooseUnique_chosen (eligibleForBase context) context rates distinct true
    obtain ⟨accepted, refused⟩ := required_ok chosen
    simp only [selectBaseRate_eq]
    refine ⟨fun rate => (accepted rate).trans (chosen.some_iff rate), (refused _).trans chosen.none_iff,
      (refused _).trans chosen.ambiguous_iff, fun other permuted => ?_⟩
    rw [same _ true other permuted]
  next =>
    intro type
    have chosen := @chooseUnique_chosen (eligibleForSurcharge context type) context rates distinct false
    simp only [selectSurchargeRate_eq]
    exact ⟨chosen.some_iff, chosen.none_iff, chosen.ambiguous_iff, same _ false⟩

def flatRate (id : Id) (type : DeliveryRateType) (localityId : Option Id) : DeliveryRate where
  id := id
  active := true
  validFrom := none
  validUntil := none
  type := type
  priority := 1
  feeMillimes := 7000
  deliveryZoneId := none
  governorateId := none
  delegationId := none
  localityId := localityId
  minWeightGrams := none
  maxWeightGrams := none
  minOrderMillimes := none
  maxOrderMillimes := none
  maxCodMillimes := none

def rateSample : RateContext where
  deliveryZoneId := 1
  governorateId := 2
  delegationId := 3
  localityId := 4
  orderMillimes := 50000
  weightGrams := 300
  express := false

theorem locality_over_base :
    Alone (eligibleForBase rateSample) rateSample [flatRate 1 .base none, flatRate 2 .locality (some 4)]
        (flatRate 2 .locality (some 4)) /\
      Shared (eligibleForBase rateSample) rateSample [flatRate 1 .base none, flatRate 2 .base none] :=
  ⟨((rates_chosen_by_standing [flatRate 1 .base none, flatRate 2 .locality (some 4)] rateSample
      (by decide)).1.1 _).1 rfl,
    (rates_chosen_by_standing [flatRate 1 .base none, flatRate 2 .base none] rateSample
      (by decide)).1.2.2.1.1 rfl⟩

end Selections

end VapeCommerce.Checkout.RateChoice
