import VapeCommerce.Orders.Steps

set_option autoImplicit false

-- The operations on deliveries, as steps of the cases they belong to.
namespace VapeCommerce.Delivery.Steps

open VapeCommerce.Lib VapeCommerce.Lib.Outcome VapeCommerce.Schema VapeCommerce.Database
open VapeCommerce.Orders.StateMachine VapeCommerce.Orders.Admin VapeCommerce.Orders.Case
open VapeCommerce.Orders.Progress VapeCommerce.Orders.Transactions VapeCommerce.Orders.Steps
open VapeCommerce.Delivery.Admin VapeCommerce.Delivery.Operations

variable {db next : Db} {orderId : Id} {case : OrderCase}

def lockedDelivery (case : OrderCase) : DeliveryOperation where
  delivery := case.delivery
  order := case.order
  lastAttemptNumber := lastAttemptNumber case.attempts
  cashCollections := [case.collection]

theorem collectionsOf_delivery (linked : Linked db) (is : IsCase db orderId case) :
    (db.collections.filter fun row => row.deliveryId == some case.delivery.id) = [case.collection] := by
  have collected : db.collections.lookup CashCollection.deliveryId (some case.delivery.id) =
      some case.collection :=
    (Table.lookup_iff linked.collections_unique_delivery _ _).2
      ⟨is.collection_mem, is.collection_delivery linked⟩
  have unique := Table.filter_unique linked.collections_unique_delivery collected
  simpa only [Table.filter, beq_eq_decide] using unique

theorem lockDelivery_case (linked : Linked db) (is : IsCase db orderId case) :
    lockDelivery db case.delivery.id = .ok (lockedDelivery case) := by
  simp only [lockDelivery, bind_ok, orThrow_ok, pure_ok]
  refine ⟨case.delivery, Table.find?_of_mem is.delivery_mem, case.order, ?_, ?_⟩
  next => rw [is.delivery_order]; exact is.order
  next =>
    simp only [lockedDelivery, is.attempts, DeliveryOperation.mk.injEq, true_and]
    exact collectionsOf_delivery linked is

theorem lockDelivery_ok {id : Id} {operation : DeliveryOperation} (linked : Linked db)
    (ran : lockDelivery db id = .ok operation) :
    exists orderId case, IsCase db orderId case /\ case.delivery.id = id /\
      operation = lockedDelivery case := by
  have found := ran
  simp only [lockDelivery, bind_ok, orThrow_ok] at found
  obtain ⟨delivery, there, -⟩ := found
  obtain ⟨case, is, rfl⟩ := linked.case_of_delivery (Table.find?_mem there)
  have here := Table.find?_key there
  subst here
  exact ⟨_, case, is, rfl, Except.ok.inj (ran.symm.trans (lockDelivery_case linked is))⟩

-- The rows after the pair of updates that moves a case.
def mirrored (db : Db) (case : OrderCase) (target : OrderStatus)
    (data : Schema.Delivery -> Schema.Delivery) (keeps : forall row, (data row).id = row.id)
    (reasonCode : Text) (actorUserId : Id) : Db :=
  { db with
    deliveries := db.deliveries.update (guardsDelivery case.delivery)
      (fun row => deliveryMoved target (data row)) (movedWith_id keeps)
    orders := db.orders.update (guardsOrder case.order) (orderMoved target) (orderMoved_id _)
    history := db.history ++ [historyEntry case.order target reasonCode actorUserId] }

theorem updateMirroredStatus_runs (is : IsCase db orderId case) (target : OrderStatus)
    (data : Schema.Delivery -> Schema.Delivery) (keeps : forall row, (data row).id = row.id)
    (reasonCode : Text) (actorUserId : Id) :
    updateMirroredStatus db case.order case.delivery target data keeps reasonCode actorUserId =
      .ok (mirrored db case target data keeps reasonCode actorUserId) := by
  simp only [updateMirroredStatus, bind_ok, pure_ok]
  exact ⟨_, updateOne_runs is.delivery_mem (guardsDelivery_self _) (fun _ => guardsDelivery_only) _ _ _,
    _, updateOne_runs is.order_mem (guardsOrder_self _) (fun _ => guardsOrder_only) _ _ _, rfl⟩

structure TransitionAdmitted (case : OrderCase) (input : TransitionDelivery) : Prop where
  version : case.delivery.version = input.expectedVersion
  edge : canTransitionDelivery case.delivery.status input.target.status = true
  mirrored : case.order.status = case.delivery.status
  courier : input.target.status ∈ courierRequiredTargets -> case.delivery.courierId.isSome = true
  explained : input.target.status ∈ explanationRequiredTargets ->
    requireExplanation input.explanation "DELIVERY_EXPLANATION_REQUIRED" = .ok ()

def transitionReason (input : TransitionDelivery) : Text :=
  (trimmedOrNull input.reasonCode).getD "MANUAL_TRANSITION".toList

theorem transition_ok (linked : Linked db) (is : IsCase db orderId case) (input : TransitionDelivery)
    (actorUserId : Id) :
    transition db case.delivery.id input actorUserId = .ok next <->
      TransitionAdmitted case input /\
        mirrored db case input.target.status (clearNextAttempt input.target.status)
          (clearNextAttempt_id _) (transitionReason input) actorUserId = next := by
  simp only [transition, assertDeliveryVersion, ok_of_bind (lockDelivery_case linked is), bind_ok,
    throwIf_ok, requireWhen_ok]
  simp only [lockedDelivery, updateMirroredStatus_runs is, Except.ok.injEq]
  constructor
  next =>
    rintro ⟨⟨⟩, version, ⟨⟩, edge, ⟨⟩, courier, ⟨⟩, explained, rfl⟩
    simp only [not_or, not_not, not_and, Bool.not_eq_false, Option.isNone_iff_eq_none] at edge version courier
    exact ⟨⟨version, edge.1, edge.2, fun required => Option.isSome_iff_ne_none.2 (courier required),
      explained⟩, rfl⟩
  next =>
    rintro ⟨admitted, rfl⟩
    refine ⟨(), not_not.2 admitted.version, (), ?_, (), ?_, (), admitted.explained, rfl⟩
    next => simp [admitted.edge, admitted.mirrored]
    next =>
      rintro ⟨required, absent⟩
      have there := admitted.courier required
      rw [Option.isNone_iff_eq_none] at absent
      simp [absent] at there

theorem clearNextAttempt_same (target : DeliveryStatus) (row : Schema.Delivery) :
    exists nextAttemptAt, clearNextAttempt target row = { row with nextAttemptAt } := by
  unfold clearNextAttempt
  split
  next => exact ⟨none, rfl⟩
  next => exact ⟨row.nextAttemptAt, rfl⟩

theorem mirrored_writes (linked : Linked db) (is : IsCase db orderId case) (target : OrderStatus)
    (data : Schema.Delivery -> Schema.Delivery) (keeps : forall row, (data row).id = row.id)
    (same : forall row, (data row).orderId = row.orderId) (reasonCode : Text) (actorUserId : Id) :
    Writes db (mirrored db case target data keeps reasonCode actorUserId) case
      (moved target (data case.delivery) reasonCode actorUserId case) :=
  moved_writes target data keeps same reasonCode actorUserId linked is rfl rfl rfl ⟨rfl, rfl, rfl, rfl⟩

theorem transition_takes (linked : Linked db) (is : IsCase db orderId case) {input : TransitionDelivery}
    {actorUserId : Id} (ran : transition db case.delivery.id input actorUserId = .ok next) :
    Takes db next (.transitioned input.target.status) case := by
  obtain ⟨admitted, rfl⟩ := (transition_ok linked is input actorUserId).1 ran
  obtain ⟨nextAttemptAt, same⟩ := clearNextAttempt_same input.target.status case.delivery
  have keeps : forall row, (clearNextAttempt input.target.status row).orderId = row.orderId := by
    intro row
    obtain ⟨_, rewritten⟩ := clearNextAttempt_same input.target.status row
    rw [rewritten]
  have writes := mirrored_writes linked is input.target.status (clearNextAttempt input.target.status)
    (clearNextAttempt_id _) keeps (transitionReason input) actorUserId
  rw [same] at writes
  exact ⟨_, .transitioned case _ nextAttemptAt _ actorUserId admitted.edge admitted.mirrored
    input.target.operational admitted.courier, writes⟩

structure AttemptAdmitted (case : OrderCase) (input : RecordDeliveryAttempt) (now : Int)
    (nextAttemptAt : Option Int) : Prop where
  version : case.delivery.version = input.expectedVersion
  delivery : case.delivery.status = .outForDelivery
  order : case.order.status = .outForDelivery
  explained : input.outcome = .otherFailed ->
    requireExplanation input.explanation "OTHER_FAILURE_EXPLANATION_REQUIRED" = .ok ()
  next : nextAttempt input.outcome input.nextAttemptAt now = .ok nextAttemptAt

def attemptOf (case : OrderCase) (input : RecordDeliveryAttempt) (nextAttemptAt : Option Int)
    (actorUserId : Id) (now : Int) : DeliveryAttempt where
  deliveryId := case.delivery.id
  attemptNumber := lastAttemptNumber case.attempts + 1
  attemptedAt := now
  outcome := input.outcome.recorded
  nextAttemptAt := nextAttemptAt
  ageVerificationResult := agedResult input.outcome case.delivery.ageVerificationResult
  cashExpectedMillimes := case.order.expectedCodMillimes
  cashCollectedMillimes := none
  recordedByUserId := actorUserId

theorem attempt_appended (is : IsCase db orderId case) {attempt : DeliveryAttempt}
    (here : attempt.deliveryId = case.delivery.id) (id : Id) :
    (db.attempts ++ [attempt]).filter (fun other => other.deliveryId == id) =
      if id = case.delivery.id then case.attempts ++ [attempt] else attemptsOf db id := by
  refine appended_at (fun id (other : DeliveryAttempt) => other.deliveryId == id)
    (congrArg (· ++ [attempt]) is.attempts) (fun id => ?_) id
  simpa only [here, beq_iff_eq] using eq_comm

theorem ageEvent_appended (is : IsCase db orderId case) {event : AgeVerificationEvent}
    (here : event.deliveryId = some case.delivery.id) (id : Id) :
    (db.ageEvents ++ [event]).filter (fun other => other.deliveryId == some id) =
      if id = case.delivery.id then case.ageEvents ++ [event] else ageEventsOf db id := by
  refine appended_at (fun id (other : AgeVerificationEvent) => other.deliveryId == some id)
    (congrArg (· ++ [event]) is.ageEvents) (fun id => ?_) id
  simpa only [here, beq_iff_eq, Option.some.injEq] using eq_comm

-- The rows after an attempt: the pair has moved, and the attempt and its evidence are kept.
def attemptRecorded (db : Db) (case : OrderCase) (input : RecordDeliveryAttempt)
    (nextAttemptAt : Option Int) (actorUserId : Id) (now : Int) : Db :=
  { mirrored db case (attemptOutcomeStatus input.outcome)
      (fun row => { row with
        nextAttemptAt
        ageVerificationResult := agedResult input.outcome case.delivery.ageVerificationResult })
      (fun _ => rfl) (attemptOutcomeCode input.outcome).toList actorUserId with
    attempts := db.attempts ++ [attemptOf case input nextAttemptAt actorUserId now]
    ageEvents := if input.outcome = .failedAgeVerification then
        db.ageEvents ++ [deliveryAgeEvent case.delivery case.order .failed]
      else db.ageEvents }

theorem attempt_allowed (outcome : FailedAttemptOutcome) :
    canTransitionDelivery .outForDelivery (attemptOutcomeStatus outcome) = true := by
  cases outcome <;> decide

theorem recordAttempt_ok (linked : Linked db) (is : IsCase db orderId case)
    (input : RecordDeliveryAttempt) (actorUserId : Id) (now : Int) :
    recordAttempt db case.delivery.id input actorUserId now = .ok next <->
      exists nextAttemptAt, AttemptAdmitted case input now nextAttemptAt /\
        attemptRecorded db case input nextAttemptAt actorUserId now = next := by
  simp only [recordAttempt, assertDeliveryVersion, ok_of_bind (lockDelivery_case linked is), bind_ok,
    throwIf_ok, requireWhen_ok]
  simp only [lockedDelivery, updateMirroredStatus_runs is, Except.ok.injEq, pure_ok]
  constructor
  next =>
    rintro ⟨⟨⟩, version, ⟨⟩, out, ⟨⟩, explained, nextAttemptAt, computed, ⟨⟩, -, _, rfl, rfl⟩
    simp only [not_or, not_not] at version out
    exact ⟨nextAttemptAt, ⟨version, out.1, out.2, explained, computed⟩, rfl⟩
  next =>
    rintro ⟨nextAttemptAt, admitted, rfl⟩
    refine ⟨(), not_not.2 admitted.version, (), ?_, (), admitted.explained, nextAttemptAt,
      admitted.next, (), ?_, _, rfl, rfl⟩
    next => simp [admitted.delivery, admitted.order]
    next => simp [admitted.delivery, attempt_allowed]

theorem recordAttempt_takes (linked : Linked db) (is : IsCase db orderId case)
    {input : RecordDeliveryAttempt} {actorUserId : Id} {now : Int}
    (ran : recordAttempt db case.delivery.id input actorUserId now = .ok next) :
    Takes db next (.attempted input.outcome) case := by
  obtain ⟨nextAttemptAt, admitted, rfl⟩ := (recordAttempt_ok linked is input actorUserId now).1 ran
  have moves := mirrored_writes linked is (attemptOutcomeStatus input.outcome)
    (fun row => { row with
      nextAttemptAt
      ageVerificationResult := agedResult input.outcome case.delivery.ageVerificationResult })
    (fun _ => rfl) (fun _ => rfl) (attemptOutcomeCode input.outcome).toList actorUserId
  refine ⟨_, .attempted case input.outcome nextAttemptAt
    (attemptOf case input nextAttemptAt actorUserId now) (attemptOutcomeCode input.outcome).toList
    actorUserId admitted.order admitted.delivery rfl, ?_⟩
  exact { moves with
    attempts := attempt_appended is rfl
    ageEvents := by
      unfold attemptedAge attemptRecorded
      split
      next => exact ageEvent_appended is rfl
      next => exact moves.ageEvents }

theorem negativeEvidence_case (is : IsCase db orderId case) :
    NegativeEvidence case <-> case.delivery.ageVerificationResult ∈ negativeAgeResults \/
      negativeEvidence db case.delivery.id = true := by
  have events : (db.ageEvents.any fun event => event.deliveryId == some case.delivery.id &&
      event.phase == .delivery && decide (event.result ∈ negativeAgeResults)) = true <->
      exists event, event ∈ case.ageEvents /\ event.phase = .delivery /\
        event.result ∈ negativeAgeResults := by
    rw [<- is.ageEvents]
    simp only [ageEventsOf, List.any_eq_true, Bool.and_eq_true, beq_iff_eq, decide_eq_true_eq,
      List.mem_filter]
    constructor
    next => rintro ⟨event, member, ⟨here, phase⟩, result⟩; exact ⟨event, ⟨member, here⟩, phase, result⟩
    next => rintro ⟨event, ⟨member, here⟩, phase, result⟩; exact ⟨event, member, ⟨here, phase⟩, result⟩
  have attempts : ((attemptsOf db case.delivery.id).any fun attempt =>
      attempt.outcome == .failedAgeVerification) = true <->
      exists attempt, attempt ∈ case.attempts /\ attempt.outcome = .failedAgeVerification := by
    rw [is.attempts]
    simp only [List.any_eq_true, beq_iff_eq]
  rw [negativeEvidence, Bool.or_eq_true, attempts, events]
  rfl

structure CompletionAdmitted (case : OrderCase) (expectedVersion : Nat)
    (ageResult : CompletionAgeResult) (accountable : Int) : Prop where
  version : case.delivery.version = expectedVersion
  source : case.delivery.status = completionSource case.order
  mirrored : case.order.status = completionSource case.order
  courier : case.order.deliveryMethodType = .courier -> case.delivery.courierId.isSome = true
  age : ageResult = if case.delivery.ageVerificationRequired then .passed else .notRequired
  clean : Not (NegativeEvidence case)
  counted : accountableCashForDeliveryCompletion case.discrepancy case.collection = .ok accountable
  covered : 0 < case.order.expectedCodMillimes ->
    accountable = case.order.expectedCodMillimes /\ case.order.paymentStatus ∈ cashPaymentStatuses

def completionAttempt (case : OrderCase) (ageResult : CompletionAgeResult) (accountable : Int)
    (actorUserId : Id) (now : Int) : DeliveryAttempt where
  deliveryId := case.delivery.id
  attemptNumber := lastAttemptNumber case.attempts + 1
  attemptedAt := now
  outcome := .delivered
  nextAttemptAt := none
  ageVerificationResult := ageResult.recorded
  cashExpectedMillimes := case.order.expectedCodMillimes
  cashCollectedMillimes := some accountable
  recordedByUserId := actorUserId

def completionRecorded (db : Db) (case : OrderCase) (ageResult : CompletionAgeResult)
    (accountable : Int) (actorUserId : Id) (now : Int) : Db :=
  { mirrored db case .delivered
      (fun row => { row with
        ageVerificationResult := ageResult.recorded
        cashCollectedResult := if case.order.expectedCodMillimes > 0 then some true else none
        nextAttemptAt := none })
      (fun _ => rfl) "MANUAL_DELIVERY_COMPLETED".toList actorUserId with
    attempts := db.attempts ++ [completionAttempt case ageResult accountable actorUserId now]
    ageEvents := db.ageEvents ++ [deliveryAgeEvent case.delivery case.order ageResult.recorded] }

theorem completion_allowed (order : Order) :
    canTransitionDelivery (completionSource order) .delivered = true := by
  unfold completionSource
  split <;> decide

theorem complete_ok (linked : Linked db) (is : IsCase db orderId case) (expectedVersion : Nat)
    (ageResult : CompletionAgeResult) (actorUserId : Id) (now : Int) :
    complete db case.delivery.id expectedVersion ageResult actorUserId now = .ok next <->
      exists accountable, CompletionAdmitted case expectedVersion ageResult accountable /\
        completionRecorded db case ageResult accountable actorUserId now = next := by
  have evidence := negativeEvidence_case is
  simp only [complete, assertDeliveryVersion, ok_of_bind (lockDelivery_case linked is), bind_ok,
    throwIf_ok]
  simp only [lockedDelivery, updateMirroredStatus_runs is, Except.ok.injEq, pure_ok, is.discrepancy,
    mapM_cons_ok, List.mapM_nil]
  constructor
  next =>
    rintro ⟨⟨⟩, version, ⟨⟩, source, ⟨⟩, courier, ⟨⟩, age, ⟨⟩, result, ⟨⟩, clean, _,
      ⟨accountable, counted, _, rfl, rfl⟩, ⟨⟩, covered, _, rfl, rfl⟩
    simp only [List.sum_singleton] at covered ⊢
    simp only [not_or, not_not, not_and, Option.isNone_iff_eq_none] at version source courier age covered
    refine ⟨accountable, ?_, rfl⟩
    exact {
      version := version
      source := source.1
      mirrored := source.2.1
      courier := fun method => Option.isSome_iff_ne_none.2 (courier method)
      age := age
      clean := fun found => (evidence.1 found).elim result clean
      counted := counted
      covered := fun positive => ⟨(covered positive).1, (covered positive).2⟩ }
  next =>
    rintro ⟨accountable, admitted, rfl⟩
    have counted := admitted.counted
    refine ⟨(), not_not.2 admitted.version, (), ?_, (), ?_, (), not_not.2 admitted.age, (), ?_, (), ?_,
      [accountable], ⟨accountable, admitted.counted, [], rfl, rfl⟩, (), ?_, _, rfl, ?_⟩
    next => simp [admitted.source, admitted.mirrored, completion_allowed]
    next =>
      rintro ⟨method, absent⟩
      have there := admitted.courier method
      rw [Option.isNone_iff_eq_none] at absent
      simp [absent] at there
    next => exact fun found => admitted.clean (evidence.2 (.inl found))
    next => exact fun found => admitted.clean (evidence.2 (.inr found))
    next =>
      rintro ⟨positive, uncovered⟩
      obtain ⟨same, payment⟩ := admitted.covered positive
      simp [same, payment] at uncovered
    next => simp only [List.sum_singleton]; rfl

theorem complete_takes (linked : Linked db) (is : IsCase db orderId case) {expectedVersion : Nat}
    {ageResult : CompletionAgeResult} {actorUserId : Id} {now : Int}
    (ran : complete db case.delivery.id expectedVersion ageResult actorUserId now = .ok next) :
    Takes db next .completed case := by
  obtain ⟨accountable, admitted, rfl⟩ :=
    (complete_ok linked is expectedVersion ageResult actorUserId now).1 ran
  have moves := mirrored_writes linked is .delivered
    (fun row => { row with
      ageVerificationResult := ageResult.recorded
      cashCollectedResult := if case.order.expectedCodMillimes > 0 then some true else none
      nextAttemptAt := none })
    (fun _ => rfl) (fun _ => rfl) "MANUAL_DELIVERY_COMPLETED".toList actorUserId
  refine ⟨_, .completed case ageResult (completionAttempt case ageResult accountable actorUserId now)
    (if case.order.expectedCodMillimes > 0 then some true else none) accountable
    "MANUAL_DELIVERY_COMPLETED".toList actorUserId admitted.mirrored admitted.source
    (fun required => by simpa [required] using admitted.age) admitted.clean admitted.counted
    (fun positive => (admitted.covered positive).1) rfl, ?_⟩
  exact { moves with
    attempts := attempt_appended is rfl
    ageEvents := ageEvent_appended is rfl }

theorem completeReturn_ok (linked : Linked db) (is : IsCase db orderId case) (expectedVersion : Nat)
    (reason : Text) (actorUserId : Id) :
    completeReturn db case.delivery.id expectedVersion reason actorUserId = .ok next <->
      (case.delivery.version = expectedVersion /\
        requireExplanation (some reason) "RETURN_EXPLANATION_REQUIRED" = .ok () /\
        case.delivery.status = .returnToSender /\ case.order.status = .returnToSender) /\
      mirrored db case .returned (fun row => row) (fun _ => rfl) "RETURN_RECEIVED".toList actorUserId =
        next := by
  simp only [completeReturn, assertDeliveryVersion, ok_of_bind (lockDelivery_case linked is), bind_ok,
    throwIf_ok]
  simp only [lockedDelivery, updateMirroredStatus_runs is, Except.ok.injEq]
  constructor
  next =>
    rintro ⟨⟨⟩, version, ⟨⟩, explained, ⟨⟩, source, rfl⟩
    simp only [not_or, not_not] at version source
    exact ⟨⟨version, explained, source.1, source.2.1⟩, rfl⟩
  next =>
    rintro ⟨⟨version, explained, source, order⟩, rfl⟩
    refine ⟨(), not_not.2 version, (), explained, (), ?_, rfl⟩
    rw [source, order]
    decide

theorem completeReturn_takes (linked : Linked db) (is : IsCase db orderId case) {expectedVersion : Nat}
    {reason : Text} {actorUserId : Id}
    (ran : completeReturn db case.delivery.id expectedVersion reason actorUserId = .ok next) :
    Takes db next .managed case := by
  obtain ⟨⟨-, -, source, order⟩, rfl⟩ :=
    (completeReturn_ok linked is expectedVersion reason actorUserId).1 ran
  exact ⟨_, .returned case _ actorUserId order source,
    mirrored_writes linked is .returned (fun row => row) (fun _ => rfl) (fun _ => rfl) _ actorUserId⟩

-- Every operation on one delivery starts by locking it.
theorem delivery_case {A : Type} {id : Id} {rest : DeliveryOperation -> Except Failure A} {result : A}
    (linked : Linked db) (ran : (lockDelivery db id >>= rest) = .ok result) :
    exists orderId case, IsCase db orderId case /\ case.delivery.id = id := by
  obtain ⟨operation, locks, -⟩ := (bind_ok _ _ _).1 ran
  obtain ⟨orderId, case, is, here, -⟩ := lockDelivery_ok linked locks
  exact ⟨orderId, case, is, here⟩

def reroute (courierId : Option Id) (trackingNumber : Option Text) (courierFeeMillimes : Option Int)
    (row : Schema.Delivery) : Schema.Delivery :=
  { row with courierId, trackingNumber, courierFeeMillimes, version := row.version + 1 }

theorem reroute_takes (linked : Linked db) (is : IsCase db orderId case) {expectedVersion : Nat}
    (courierId : Option Id) (trackingNumber : Option Text) (courierFeeMillimes : Option Int)
    (version : case.delivery.version = expectedVersion)
    (courier : courierId.isSome = true -> case.order.deliveryMethodType = .courier) :
    Takes db
      { db with
        deliveries := db.deliveries.update
          (fun row => row.id == case.delivery.id && row.version == expectedVersion)
          (reroute courierId trackingNumber courierFeeMillimes) fun _ => rfl }
      .managed case := by
  have base := is.unwritten linked
  refine ⟨_, .rerouted case courierId trackingNumber courierFeeMillimes courier, ?_⟩
  exact { base with
    delivery := by
      refine is.delivery_updated linked (fun _ => by rfl) (fun _ => by rfl) ?_ fun other hit => ?_
      next => simp [version]
      next =>
        simp only [Bool.and_eq_true, beq_iff_eq] at hit
        exact hit.1
    deliveryLinks := by exact deliveryLinks_updated _ _ (fun _ => by rfl) fun _ => by rfl }

theorem assignment_takes {action : AssignmentAction} {id : Id} {input : AssignDelivery}
    (linked : Linked db) (ran : assignment db action id input = .ok next) :
    exists orderId case, IsCase db orderId case /\ case.delivery.id = id /\
      Takes db next .managed case := by
  obtain ⟨orderId, case, is, rfl⟩ := delivery_case linked ran
  simp only [assignment, assertDeliveryVersion, ok_of_bind (lockDelivery_case linked is), bind_ok,
    throwIf_ok, orThrow_ok, updateOne_ok, pure_ok] at ran
  simp only [lockedDelivery] at ran
  obtain ⟨⟨⟩, version, ⟨⟩, method, ⟨⟩, -, ⟨⟩, -, courier, -, ⟨⟩, -, ⟨⟩, -, ⟨⟩, -, deliveries, ⟨-, rfl⟩, rfl⟩ :=
    ran
  exact ⟨orderId, case, is, rfl,
    reroute_takes linked is _ _ _ (not_not.1 version) fun _ => not_not.1 method⟩

theorem unassign_takes {id : Id} {expectedVersion : Nat} {reason : Text} (linked : Linked db)
    (ran : unassign db id expectedVersion reason = .ok next) :
    exists orderId case, IsCase db orderId case /\ case.delivery.id = id /\
      Takes db next .managed case := by
  obtain ⟨orderId, case, is, rfl⟩ := delivery_case linked ran
  simp only [unassign, assertDeliveryVersion, ok_of_bind (lockDelivery_case linked is), bind_ok,
    throwIf_ok, updateOne_ok, pure_ok] at ran
  simp only [lockedDelivery] at ran
  obtain ⟨⟨⟩, version, ⟨⟩, -, ⟨⟩, -, ⟨⟩, -, deliveries, ⟨-, rfl⟩, rfl⟩ := ran
  exact ⟨orderId, case, is, rfl, reroute_takes linked is none none none (not_not.1 version) (by simp)⟩

def bulkOf (case : OrderCase) : BulkDelivery where
  delivery := case.delivery
  order := case.order

theorem bulkDelivery_case (is : IsCase db orderId case) :
    bulkDelivery? db case.delivery.id = some (bulkOf case) := by
  simp only [bulkDelivery?, Table.find?_of_mem is.delivery_mem, is.delivery_order, is.order, bulkOf,
    Option.bind_eq_bind, Option.bind_some, Option.pure_def]

theorem bulkDelivery_some {id : Id} {bulk : BulkDelivery} (linked : Linked db)
    (found : bulkDelivery? db id = some bulk) :
    exists orderId case, IsCase db orderId case /\ case.delivery.id = id /\ bulk = bulkOf case := by
  have there := found
  simp only [bulkDelivery?, Option.bind_eq_bind, Option.bind_eq_some_iff] at there
  obtain ⟨delivery, here, -⟩ := there
  obtain ⟨case, is, rfl⟩ := linked.case_of_delivery (Table.find?_mem here)
  obtain rfl := Table.find?_key here
  exact ⟨_, case, is, rfl, Option.some.inj (found.symm.trans (bulkDelivery_case is))⟩

-- The order and the courier of every delivery, which a move to another status leaves alone.
def custody (db : Db) : List (Id × Id × Option Id) :=
  db.deliveries.rows.map fun delivery => (delivery.id, delivery.orderId, delivery.courierId)

-- Rows read earlier in the transaction name the rows of now, if the guards still hold of them.
theorem applied_case {read : Db} {old : OrderCase} {target : DeliveryStatus} {reasonCode : Text}
    {actorUserId : Id} (linked : Linked db) (held : custody db = custody read)
    (was : IsCase read orderId old)
    (ran : applyDeliveryTransition db (bulkOf old) target reasonCode actorUserId = .ok next) :
    exists case, IsCase db orderId case /\ case.delivery.status = old.delivery.status /\
      case.order.status = old.order.status /\ case.delivery.courierId = old.delivery.courierId /\
      mirrored db case target (fun row => row) (fun _ => rfl) reasonCode actorUserId = next := by
  simp only [applyDeliveryTransition, updateMirroredStatus, bulkOf, bind_ok, updateOne_ok, pure_ok] at ran
  obtain ⟨deliveries, ⟨one, rfl⟩, orders, ⟨only, rfl⟩, rfl⟩ := ran
  obtain ⟨delivery, member, guarded, -⟩ := Table.count_one one
  obtain ⟨order, present, checked, -⟩ := Table.count_one only
  simp only [guardsDelivery, guardsOrder, Bool.and_eq_true, beq_iff_eq] at guarded checked
  obtain ⟨⟨sameId, sameStatus⟩, sameVersion⟩ := guarded
  obtain ⟨⟨orderId', orderStatus⟩, orderVersion⟩ := checked
  have link : delivery.orderId = orderId /\ delivery.courierId = old.delivery.courierId := by
    have there : (delivery.id, delivery.orderId, delivery.courierId) ∈ custody read :=
      held ▸ List.mem_map.2 ⟨delivery, member, rfl⟩
    obtain ⟨other, also, same⟩ := List.mem_map.1 there
    simp only [Prod.mk.injEq] at same
    obtain ⟨id, owner, courier⟩ := same
    obtain rfl := read.deliveries.same_of_key also was.delivery_mem (id.trans sameId)
    exact ⟨owner.symm.trans was.delivery_order, courier.symm⟩
  obtain ⟨case, is, rfl⟩ := linked.case_of_delivery member
  rw [link.1] at is
  have here : case.order = order := by
    refine db.orders.same_of_key is.order_mem present ?_
    rw [is.order_id, orderId', was.order_id]
  subst here
  refine ⟨case, is, sameStatus, orderStatus, link.2, ?_⟩
  have deliveries : guardsDelivery case.delivery = guardsDelivery old.delivery := by
    funext row
    simp only [guardsDelivery, sameId, sameStatus, sameVersion]
  have orders : guardsOrder case.order = guardsOrder old.order := by
    funext row
    simp only [guardsOrder, orderId', orderStatus, orderVersion]
  simp only [mirrored, deliveries, orders, historyEntry, orderId', orderStatus]

theorem mirrored_custody (target : OrderStatus) (data : Schema.Delivery -> Schema.Delivery)
    (keeps : forall row, (data row).id = row.id) (same : forall row, (data row).orderId = row.orderId)
    (courier : forall row, (data row).courierId = row.courierId) (reasonCode : Text) (actorUserId : Id) :
    custody (mirrored db case target data keeps reasonCode actorUserId) = custody db := by
  simp only [custody, mirrored, Table.update_rows]
  refine Table.map_field_rewrite _ (fun row : Schema.Delivery => (row.id, row.orderId, row.courierId)) _ _
    fun row => ?_
  simp only [deliveryMoved, keeps, same, courier]

theorem mirrored_takes (linked : Linked db) (is : IsCase db orderId case) {target : DeliveryStatus}
    (reasonCode : Text) (actorUserId : Id)
    (edge : canTransitionDelivery case.delivery.status target = true)
    (same : case.order.status = case.delivery.status)
    (operational : target ∈ operationalDeliveryTargets)
    (courier : target ∈ courierRequiredTargets -> case.delivery.courierId.isSome = true) :
    Takes db (mirrored db case target (fun row => row) (fun _ => rfl) reasonCode actorUserId)
      (.transitioned target) case :=
  ⟨_, .transitioned case target case.delivery.nextAttemptAt reasonCode actorUserId edge same operational
      courier,
    mirrored_writes linked is target (fun row => row) (fun _ => rfl) (fun _ => rfl) _ _⟩

-- A loop of moves on rows read before it, each allowed where it was read.
structure Applies (allowed : Id -> Event -> Prop) (read : Db) (bulk : BulkDelivery)
    (target : DeliveryStatus) : Prop where
  source : exists orderId old, IsCase read orderId old /\ bulk = bulkOf old /\
    canTransitionDelivery old.delivery.status target = true /\
    old.order.status = old.delivery.status /\
    (target ∈ courierRequiredTargets -> old.delivery.courierId.isSome = true) /\
    allowed orderId (.transitioned target)
  operational : target ∈ operationalDeliveryTargets

theorem applied_advance {allowed : Id -> Event -> Prop} {read : Db} {bulk : BulkDelivery}
    {target : DeliveryStatus} {reasonCode : Text} {actorUserId : Id}
    (applies : Applies allowed read bulk target)
    (before : Advance allowed read db /\ custody db = custody read)
    (ran : applyDeliveryTransition db bulk target reasonCode actorUserId = .ok next) :
    Advance allowed read next /\ custody next = custody read := by
  obtain ⟨advance, held⟩ := before
  obtain ⟨orderId, old, was, rfl, edge, same, courier, ok⟩ := applies.source
  obtain ⟨case, is, status, order, with_courier, rfl⟩ := applied_case advance.linked held was ran
  have takes := mirrored_takes advance.linked is reasonCode actorUserId (status ▸ edge)
    (order.trans (same.trans status.symm)) applies.operational (with_courier ▸ courier)
  exact ⟨advance.trans (takes.advance advance.linked is ok),
    (mirrored_custody _ _ _ (fun _ => rfl) (fun _ => rfl) _ _).trans held⟩

theorem transitionManifest_advance {id : Id} {expectedStatus target : ManifestStatus}
    {actorUserId : Id} (linked : Linked db)
    (ran : transitionManifest db id expectedStatus target actorUserId = .ok next) :
    Advance (fun _ event => event = .transitioned .handedToCourier) db next := by
  simp only [transitionManifest, bind_ok, throwIf_ok, orThrow_ok, updateOne_ok, pure_ok] at ran
  obtain ⟨manifest, -, ⟨⟩, -, ⟨⟩, -, ⟨⟩, -, ⟨⟩, -, ⟨⟩, eligible, handed, moves, ⟨⟩, -, manifests, -, rfl⟩ :=
    ran
  have advance : Advance (fun _ event => event = .transitioned .handedToCourier) db handed := by
    unfold moveManifest at moves
    split at moves
    next handedOver =>
      simp only [assertManifestTarget, bind_ok, requireWhen_ok, handedOver, or_true, true_imp_iff,
        assertManifestAssignedDeliveries, throwIf_ok, List.any_eq_true, not_exists, not_and,
        Bool.or_eq_true, bne_iff_ne, ne_eq, not_or, not_not] at eligible
      obtain ⟨⟨⟩, -, assigned⟩ := eligible
      refine (foldlM_keeps (fun state => Advance _ db state /\ custody state = custody db)
        _ _ (fun state bulk after member kept round => ?_) db handed ⟨Advance.refl linked, rfl⟩ moves).1
      obtain ⟨⟨courier, delivery⟩, order⟩ := assigned bulk member
      obtain ⟨deliveryId, -, found⟩ := List.mem_filterMap.1 member
      obtain ⟨orderId, old, was, -, rfl⟩ := bulkDelivery_some linked found
      have source : old.delivery.status = .assignedToCourier := delivery
      have assignee : old.delivery.courierId = some manifest.courierId := courier
      refine applied_advance ⟨⟨orderId, old, was, rfl, ?_, order.trans delivery.symm, fun _ => ?_, rfl⟩,
        by decide⟩ kept round
      next => rw [source]; decide
      next => rw [assignee]; rfl
    next =>
      obtain rfl := Except.ok.inj moves
      exact Advance.refl linked
  exact advance.trans (SameCases.advance
    ⟨rfl, rfl, rfl, rfl, rfl, rfl, fun _ => rfl, advance.linked.opened⟩ advance.linked)

structure CommandAdmitted (bulk : BulkDelivery) (command : DeliveryStatusCsvCommand) : Prop where
  version : bulk.delivery.version = command.expectedVersion
  current : bulk.delivery.status = command.currentStatus
  mirrored : bulk.order.status = bulk.delivery.status
  edge : canTransitionDelivery bulk.delivery.status command.targetStatus = true
  courier : command.targetStatus ∈ courierRequiredTargets -> bulk.delivery.courierId.isSome = true
  explained : command.targetStatus ∈ explanationRequiredTargets ->
    (command.note.any fun note => decide ((trim note).length >= 4)) = true

theorem unless_none {A : Type} {bad : Prop} [Decidable bad] {code : A} {rest : Option A} :
    (if bad then some code else rest) = none <-> Not bad /\ rest = none := by
  by_cases holds : bad <;> simp [holds]

theorem validateImportCommand_none (command : DeliveryStatusCsvCommand) (bulk : BulkDelivery) :
    validateImportCommand command (some bulk) = none <-> CommandAdmitted bulk command := by
  simp only [validateImportCommand, unless_none, not_not, Bool.not_eq_false, not_and,
    Option.isNone_iff_eq_none, <- ne_eq, <- Option.isSome_iff_ne_none, and_true]
  constructor
  next =>
    rintro ⟨version, current, mirrored, edge, courier, explained⟩
    exact ⟨version, current, mirrored, edge, courier, explained⟩
  next =>
    rintro ⟨version, current, mirrored, edge, courier, explained⟩
    exact ⟨version, current, mirrored, edge, courier, explained⟩

theorem validated_command {command : DeliveryStatusCsvCommand} {bulk : Option BulkDelivery}
    (valid : validateImportCommand command bulk = none) :
    exists found, bulk = some found /\ CommandAdmitted found command := by
  cases bulk with
  | none => simp [validateImportCommand] at valid
  | some found => exact ⟨found, rfl, (validateImportCommand_none command found).1 valid⟩

def Commanded (db : Db) (file : DeliveryStatusCsv) (orderId : Id) (event : Event) : Prop :=
  exists command delivery, command ∈ file.commands /\ delivery ∈ db.deliveries.rows /\
    delivery.id = command.deliveryId /\ delivery.orderId = orderId /\
    event = .transitioned command.targetStatus

theorem importStatusCsv_advance {importKey : Text} {dryRun : Bool} {file : DeliveryStatusCsv}
    {actorUserId : Id} {result : DeliveryStatusImport} (linked : Linked db)
    (ran : importStatusCsv db importKey dryRun file actorUserId = .ok (next, result)) :
    Advance (Commanded db file) db next := by
  unfold importStatusCsv at ran
  split at ran
  next =>
    simp only [bind_ok, pure_ok, Prod.mk.injEq] at ran
    obtain ⟨-, -, rfl, -⟩ := ran
    exact Advance.refl linked
  next =>
    simp only [bind_ok, pure_ok, Prod.mk.injEq] at ran
    obtain ⟨imported, moves, rfl, -⟩ := ran
    have advance : Advance (Commanded db file) db imported := by
      unfold applyCommands at moves
      split at moves
      next applies =>
        simp only [Bool.and_eq_true, List.all_eq_true, List.mem_map, Option.isNone_iff_eq_none,
          forall_exists_index, and_imp, forall_apply_eq_imp_iff₂] at applies
        refine (foldlM_keeps (fun state => Advance _ db state /\ custody state = custody db)
          _ _ (fun state command after member kept round => ?_) db imported
          ⟨Advance.refl linked, rfl⟩ moves).1
        simp only [applyCommand, bind_ok, orThrow_ok] at round
        obtain ⟨bulk, found, round⟩ := round
        obtain ⟨orderId, old, was, here, rfl⟩ := bulkDelivery_some linked found
        obtain ⟨other, same, admitted⟩ := validated_command (applies.2 command member)
        obtain rfl := Option.some.inj (found.symm.trans same)
        refine applied_advance ⟨⟨orderId, old, was, rfl, admitted.edge, admitted.mirrored,
          admitted.courier, ?_⟩, file.operational command member⟩ kept round
        exact ⟨command, old.delivery, member, was.delivery_mem, here, was.delivery_order, rfl⟩
      next =>
        obtain rfl := Except.ok.inj moves
        exact Advance.refl linked
    exact advance.trans (SameCases.advance
      ⟨rfl, rfl, rfl, rfl, rfl, rfl, fun _ => rfl, advance.linked.opened⟩ advance.linked)

end VapeCommerce.Delivery.Steps
