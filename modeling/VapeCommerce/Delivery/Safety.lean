import Mathlib.Data.List.Induction
import VapeCommerce.Orders.Runs

set_option autoImplicit false

-- Order and delivery move together, and a delivery is only delivered once it may be.
namespace VapeCommerce.Delivery.Safety

open VapeCommerce.Lib VapeCommerce.Lib.Outcome VapeCommerce.Schema VapeCommerce.Database
open VapeCommerce.Cash.Calculations VapeCommerce.Delivery.Admin VapeCommerce.Orders.Admin
open VapeCommerce.Orders.Case
open VapeCommerce.Orders.Progress VapeCommerce.Orders.Transactions VapeCommerce.Orders.StateMachine
open VapeCommerce.Delivery.Steps VapeCommerce.Cash.Steps VapeCommerce.Cash.Operations
open VapeCommerce.System VapeCommerce.Orders.Runs

/-- In every reachable state an order and its delivery have one status. -/
theorem order_mirrors_delivery (config : Config.Configuration) (orderSequence : Option Int)
    (start : Int) (labels : List Timed) :
    let reached := Runs.run step (opening config orderSequence start) labels
    forall order delivery, order ∈ reached.db.orders.rows -> delivery ∈ reached.db.deliveries.rows ->
      delivery.orderId = order.id -> order.status = delivery.status := by
  intro reached order delivery ordered member same
  have settled := (run_sums config orderSequence start labels).settled
  obtain ⟨case, is, rfl⟩ := settled.linked.case_of_delivery member
  have here := is.order
  rw [same, Table.find?_of_mem ordered] at here
  obtain rfl := Option.some.inj here
  exact (settled.sound _ case is).mirrored

theorem dispatched_order_mirrors :
    exists (order : Order) (delivery : Schema.Delivery),
      order ∈ (Sample.after Sample.dispatched).db.orders.rows /\
        delivery ∈ (Sample.after Sample.dispatched).db.deliveries.rows /\
        delivery.status = .outForDelivery /\ order.status = delivery.status := by
  have orders : (Sample.after Sample.dispatched).db.orders.rows.any (·.id == 1) = true := by
    decide +kernel
  have deliveries : (Sample.after Sample.dispatched).db.deliveries.rows.any
      (fun row => row.orderId == 1 && row.status == .outForDelivery) = true := by decide +kernel
  obtain ⟨order, ordered, id⟩ := List.any_eq_true.1 orders
  obtain ⟨delivery, member, found⟩ := List.any_eq_true.1 deliveries
  simp only [Bool.and_eq_true, beq_iff_eq] at id found
  exact ⟨order, delivery, ordered, member, found.2, order_mirrors_delivery Sample.shop (some 0) 0
    (Sample.timed Sample.dispatched) order delivery ordered member (found.1.trans id.symm)⟩

theorem intake_not_delivered {source target : OrderStatus} (listed : (source, target) ∈ intakeSteps) :
    target ≠ .delivered /\ source ≠ .delivered := by
  revert listed
  cases source <;> cases target <;> decide

theorem operational_not_delivered {target : DeliveryStatus}
    (operational : target ∈ operationalDeliveryTargets) : target ≠ .delivered := by
  revert operational
  cases target <;> decide

theorem nothing_after_delivered (target : DeliveryStatus) :
    canTransitionDelivery .delivered target = false := by
  cases target <;> decide

-- Only completion delivers.
theorem delivers_completed {event : Event} {case after : OrderCase} (taken : CaseStep event case after)
    (delivered : after.order.status = .delivered) :
    event = .completed \/ case.order.status = .delivered := by
  cases taken with
  | intake _ target reasonCode actor listed => exact absurd delivered (intake_not_delivered listed).1
  | cancelled => simp [orderCancelled] at delivered
  | transitioned _ target next reasonCode actor edge mirrored operational =>
    exact absurd delivered (operational_not_delivered operational)
  | attempted _ outcome => cases outcome <;> simp [moved, orderMoved, attemptOutcomeStatus] at delivered
  | completed => exact .inl rfl
  | returned => simp [moved, orderMoved] at delivered
  | rerouted => exact .inr delivered
  | recorded => exact .inr delivered
  | corrected => exact .inr delivered
  | writtenOff => exact .inr delivered
  | remitted => exact .inr delivered
  | paid => exact .inr delivered

theorem stays_delivered {event : Event} {case after : OrderCase} (taken : CaseStep event case after)
    (delivered : case.order.status = .delivered) : after.order.status = .delivered := by
  cases taken with
  | intake _ target reasonCode actor listed => exact absurd delivered (intake_not_delivered listed).2
  | cancelled _ reasonCode actor early => simp [delivered, earlyCancellationStatuses] at early
  | transitioned _ target next reasonCode actor edge mirrored operational =>
    rw [<- mirrored, delivered, nothing_after_delivered] at edge
    simp at edge
  | attempted _ outcome next attempt reasonCode actor mirrored => simp [mirrored] at delivered
  | completed => rfl
  | returned _ reasonCode actor mirrored => simp [mirrored] at delivered
  | rerouted => exact delivered
  | recorded => exact delivered
  | corrected => exact delivered
  | writtenOff => exact delivered
  | remitted => exact delivered
  | paid => exact delivered

-- The cash that `complete` adds up for a delivery.
def accountableCash (db : Db) (deliveryId : Id) : Except Failure Int := do
  let amounts <- (db.collections.filter fun row => row.deliveryId == some deliveryId).mapM
    fun collection => accountableCashForDeliveryCompletion (discrepancyOf db collection.id) collection
  return amounts.sum

/-- A delivered delivery with its age check passed, when it needs one, and its cash accounted for. -/
structure Fulfilled (db : Db) (delivery : Schema.Delivery) (order : Order) : Prop where
  listed : delivery ∈ db.deliveries.rows
  ordered : order ∈ db.orders.rows
  same : delivery.orderId = order.id
  status : delivery.status = .delivered
  age : delivery.ageVerificationRequired = true -> delivery.ageVerificationResult = .passed
  clean : Not (delivery.ageVerificationResult ∈ negativeAgeResults) /\
    negativeEvidence db delivery.id = false
  cash : 0 < order.expectedCodMillimes ->
    accountableCash db delivery.id = .ok order.expectedCodMillimes

theorem accountableCash_case {db : Db} {orderId : Id} {case : OrderCase} (linked : Linked db)
    (is : IsCase db orderId case) {accountable : Int}
    (counted : accountableCashForDeliveryCompletion case.discrepancy case.collection = .ok accountable) :
    accountableCash db case.delivery.id = .ok accountable := by
  simp only [accountableCash, collectionsOf_delivery linked is, bind_ok, pure_ok, mapM_cons_ok,
    List.mapM_nil, is.discrepancy]
  exact ⟨[accountable], ⟨accountable, counted, [], rfl, rfl⟩, by simp⟩

theorem delivered_fulfilled {db : Db} (settled : Settled db) {orderId : Id} {case : OrderCase}
    (is : IsCase db orderId case) (delivered : case.order.status = .delivered) :
    Fulfilled db case.delivery case.order := by
  have sound := settled.sound orderId case is
  have kept := sound.delivered delivered
  have clean : Not (NegativeEvidence case) := fun evidence => by
    simpa [delivered, failedStatuses] using sound.aged evidence
  rw [negativeEvidence_case is, not_or, Bool.not_eq_true] at clean
  exact {
    listed := is.delivery_mem
    ordered := is.order_mem
    same := is.delivery_order.trans is.order_id.symm
    status := sound.mirrored ▸ delivered
    age := kept.age
    clean := clean
    cash := fun _ => accountableCash_case settled.linked is kept.cash }

def Delivered (db : Db) (orderId deliveryId : Id) : Prop :=
  exists case, IsCase db orderId case /\ case.delivery.id = deliveryId /\ case.order.status = .delivered

theorem step_stays_delivered {orderId deliveryId : Id} (state : Clocked) (label : Timed)
    (kept : Sums state.db /\ Delivered state.db orderId deliveryId) :
    Sums (step state label).db /\ Delivered (step state label).db orderId deliveryId := by
  obtain ⟨sums, case, is, here, delivered⟩ := kept
  refine ⟨step_sums state label sums, ?_⟩
  obtain ⟨after, there, path⟩ := (step_advance state label sums).known orderId case is
  have sound := sums.settled.sound orderId case is
  refine ⟨after, there, (Orders.Onward.Path.later path sound).1.deliveryId.trans here, ?_⟩
  exact path.keeps (fun _ _ _ _ taken kept => stays_delivered taken kept) delivered

/-- The call of `complete` that delivers, seen from the state before it. -/
structure Completes (state : Clocked) (call : Timed) (deliveryId : Id) : Prop where
  completes : exists expectedVersion ageResult actorUserId,
    call.op = .complete deliveryId expectedVersion ageResult actorUserId
  succeeds : exec state.db (state.now + call.elapsed) call.op = .ok (step state call).db
  before : forall delivery, delivery ∈ state.db.deliveries.rows -> delivery.id = deliveryId ->
    delivery.status ≠ .delivered

-- A path that ends delivered without starting there completes on its way.
theorem path_completes {allowed : Event -> Prop} {case after : OrderCase} (path : Path allowed case after)
    (delivered : after.order.status = .delivered) :
    case.order.status = .delivered \/ allowed .completed := by
  by_cases completes : allowed .completed
  next => exact .inr completes
  next =>
    left
    by_contra before
    have never : Not (after.order.status = .delivered) := by
      refine @Path.keeps _ (fun middle => Not (middle.order.status = .delivered)) case after path
        (fun event middle last ok taken kept there => ?_) before
      rcases delivers_completed taken there with rfl | earlier
      next => exact completes ok
      next => exact kept earlier
    exact never delivered

theorem acts_completed {db : Db} {op : Op} {orderId : Id} (acted : acts db op orderId .completed) :
    exists deliveryId expectedVersion ageResult actorUserId,
      op = .complete deliveryId expectedVersion ageResult actorUserId /\
        Delivers db deliveryId orderId := by
  rcases acted with managed | acted
  next => simp at managed
  next =>
    cases op with
    | complete id version ageResult actor => exact ⟨id, version, ageResult, actor, rfl, acted.2⟩
    | importStatusCsv key dryRun file actor =>
      obtain ⟨command, delivery, -, -, -, -, same⟩ := acted
      simp at same
    | _ => simp at acted

-- A step after which an order is newly delivered is its completion.
theorem newly_delivered {state : Clocked} {call : Timed} (sums : Sums state.db) {orderId : Id}
    {after : OrderCase} (there : IsCase (step state call).db orderId after)
    (delivered : after.order.status = .delivered) :
    Delivered state.db orderId after.delivery.id \/ Completes state call after.delivery.id := by
  have advance := step_advance state call sums
  have linked := sums.settled.linked
  obtain ⟨start, source, reached⟩ := advance.created orderId after there
  have known : exists case, IsCase state.db orderId case := by
    rcases source with is | fresh
    next => exact ⟨start, is⟩
    next =>
      rcases path_completes reached delivered with early | ⟨acted, -⟩
      next => simp [fresh.status] at early
      next =>
        obtain ⟨_, _, _, _, -, delivery, member, -, rfl⟩ := acts_completed acted
        obtain ⟨case, is, -⟩ := linked.case_of_delivery member
        exact ⟨case, is⟩
  obtain ⟨case, is⟩ := known
  obtain ⟨other, also, path⟩ := advance.known orderId case is
  obtain rfl := also.unique there
  have sound := sums.settled.sound orderId case is
  have deliveryId := (Orders.Onward.Path.later path sound).1.deliveryId
  by_cases before : case.order.status = .delivered
  next => exact .inl ⟨case, is, deliveryId.symm, before⟩
  next =>
    right
    obtain ⟨acted, succeeds⟩ := (path_completes path delivered).resolve_left before
    obtain ⟨id, version, ageResult, actor, same, delivery, member, here, owner⟩ := acts_completed acted
    have row : delivery = case.delivery := by
      have found := (Table.lookup_iff linked.deliveries_unique _ _).2 ⟨member, owner⟩
      exact Option.some.inj (found.symm.trans is.delivery)
    subst row
    rw [deliveryId, here]
    refine ⟨⟨version, ageResult, actor, same⟩, succeeds, fun other listed sameId delivering => ?_⟩
    obtain rfl := state.db.deliveries.same_of_key listed is.delivery_mem (sameId.trans here.symm)
    exact before (sound.mirrored.trans delivering)

theorem fulfilled_of_delivered {db : Db} {orderId deliveryId : Id} (sums : Sums db)
    (delivered : Delivered db orderId deliveryId) :
    exists delivery order, delivery.id = deliveryId /\ Fulfilled db delivery order := by
  obtain ⟨case, is, here, status⟩ := delivered
  exact ⟨case.delivery, case.order, here, delivered_fulfilled sums.settled is status⟩

theorem first_delivered {opened : Clocked} (initial : Sums opened.db)
    (none : forall orderId case, Not (IsCase opened.db orderId case)) {orderId deliveryId : Id}
    (labels : List Timed)
    (delivered : Delivered (Runs.run step opened labels).db orderId deliveryId) :
    exists before call later, labels = before ++ call :: later /\
      Completes (Runs.run step opened before) call deliveryId /\
      Delivered (step (Runs.run step opened before) call).db orderId deliveryId := by
  induction labels using List.reverseRecOn with
  | nil =>
    obtain ⟨case, is, -⟩ := delivered
    exact (none orderId case is).elim
  | append_singleton before call ih =>
    rw [Runs.run_append] at delivered
    have here := delivered
    obtain ⟨case, there, rfl, status⟩ := delivered
    rcases newly_delivered (Runs.run_keeps step_sums initial before) there status with earlier | completes
    next =>
      obtain ⟨first, completion, later, rfl, done, since⟩ := ih earlier
      exact ⟨first, completion, later ++ [call], by simp, done, since⟩
    next => exact ⟨before, call, [], rfl, completes, here⟩

/-- Every delivered delivery was put there by a successful `complete`, and has been safely delivered
in every state since. -/
theorem delivered_by_completion (config : Config.Configuration) (orderSequence : Option Int)
    (start : Int) (labels : List Timed) :
    let opened := opening config orderSequence start
    forall delivery, delivery ∈ (Runs.run step opened labels).db.deliveries.rows ->
      delivery.status = .delivered ->
      exists before call later, labels = before ++ call :: later /\
        Completes (Runs.run step opened before) call delivery.id /\
        forall state, Runs.Visits step (step (Runs.run step opened before) call) later state ->
          exists row order, row.id = delivery.id /\ Fulfilled state.db row order := by
  intro opened delivery member delivered
  have sums := run_sums config orderSequence start
  obtain ⟨case, is, rfl⟩ := (sums labels).settled.linked.case_of_delivery member
  have status := ((sums labels).settled.sound _ case is).mirrored.trans delivered
  obtain ⟨before, call, later, split, completes, since⟩ := first_delivered
    (empty_sums config orderSequence) (fun _ _ => no_case) labels ⟨case, is, rfl, status⟩
  refine ⟨before, call, later, split, completes, fun state visited => ?_⟩
  have kept := Runs.visits_keeps step_stays_delivered ⟨step_sums _ call (sums before), since⟩ visited
  exact fulfilled_of_delivered kept.1 kept.2

theorem sample_delivered_by_completion :
    exists before call later, Sample.timed Sample.fulfilled = before ++ call :: later /\
      Completes (Runs.run step Sample.start before) call 1 := by
  have deliveries : (Sample.after Sample.fulfilled).db.deliveries.rows.any
      (fun row => row.id == 1 && row.status == .delivered) = true := by decide +kernel
  obtain ⟨delivery, member, found⟩ := List.any_eq_true.1 deliveries
  simp only [Bool.and_eq_true, beq_iff_eq] at found
  obtain ⟨before, call, later, split, completes, -⟩ := delivered_by_completion Sample.shop (some 0) 0
    (Sample.timed Sample.fulfilled) delivery member found.2
  exact ⟨before, call, later, split, found.1 ▸ completes⟩

end VapeCommerce.Delivery.Safety
