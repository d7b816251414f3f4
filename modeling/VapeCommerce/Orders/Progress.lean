import VapeCommerce.Cash.Accountable
import VapeCommerce.Orders.Case

set_option autoImplicit false

-- Everything an operation can do to one order, as a step from case to case.
namespace VapeCommerce.Orders.Progress

open VapeCommerce.Schema VapeCommerce.Database VapeCommerce.Orders.StateMachine
open VapeCommerce.Orders.Admin VapeCommerce.Delivery.Admin VapeCommerce.Cash.Calculations
open VapeCommerce.Cash.Admin VapeCommerce.Cash.Accountable VapeCommerce.Orders.Case

inductive Event where
  | managed
  | transitioned (target : DeliveryStatus)
  | attempted (outcome : FailedAttemptOutcome)
  | completed
deriving DecidableEq

-- Order and delivery on a new status, and the history entry that says so.
def moved (target : OrderStatus) (delivery : Schema.Delivery) (reasonCode : Text) (actorUserId : Id)
    (case : OrderCase) : OrderCase :=
  { case with
    order := orderMoved target case.order
    delivery := deliveryMoved target delivery
    history := case.history ++ [historyEntry case.order target reasonCode actorUserId] }

def intakeSteps : List (OrderStatus × OrderStatus) :=
  [(.pendingConfirmation, .confirmed), (.confirmed, .preparing), (.preparing, .readyForPickup)]

def unrecordedStatuses : List CashCollectionStatus :=
  [.expected, .voided]

def agedResult (outcome : FailedAttemptOutcome) (before : AgeVerificationResult) :
    AgeVerificationResult :=
  if outcome = .failedAgeVerification then .failed else before

def attemptedAge (outcome : FailedAttemptOutcome) (case : OrderCase) : List AgeVerificationEvent :=
  if outcome = .failedAgeVerification then
    case.ageEvents ++ [deliveryAgeEvent case.delivery case.order .failed]
  else case.ageEvents

def NegativeEvidence (case : OrderCase) : Prop :=
  case.delivery.ageVerificationResult ∈ negativeAgeResults \/
    (exists attempt, attempt ∈ case.attempts /\ attempt.outcome = .failedAgeVerification) \/
    exists event, event ∈ case.ageEvents /\ event.phase = .delivery /\
      event.result ∈ negativeAgeResults

inductive CaseStep : Event -> OrderCase -> OrderCase -> Prop where
  | intake (case : OrderCase) (target : OrderStatus) (reasonCode : Text) (actorUserId : Id)
      (listed : (case.order.status, target) ∈ intakeSteps)
      (mirrored : case.delivery.status = case.order.status)
      (pickup : target = .readyForPickup -> case.order.deliveryMethodType = .storePickup) :
      CaseStep .managed case (moved target case.delivery reasonCode actorUserId case)
  | cancelled (case : OrderCase) (reasonCode : Text) (actorUserId : Id)
      (early : case.order.status ∈ earlyCancellationStatuses)
      (mirrored : case.delivery.status = case.order.status)
      (unpaid : uncollected case.order.paymentStatus = true)
      (unrecorded : case.collection.status ∈ unrecordedStatuses) :
      CaseStep .managed case { case with
        order := orderCancelled case.order
        delivery := deliveryMoved .cancelled case.delivery
        collection := { case.collection with status := .voided }
        history := case.history ++ [historyEntry case.order .cancelled reasonCode actorUserId] }
  | transitioned (case : OrderCase) (target : DeliveryStatus) (nextAttemptAt : Option Int)
      (reasonCode : Text) (actorUserId : Id)
      (edge : canTransitionDelivery case.delivery.status target = true)
      (mirrored : case.order.status = case.delivery.status)
      (operational : target ∈ operationalDeliveryTargets)
      (courier : target ∈ courierRequiredTargets -> case.delivery.courierId.isSome = true) :
      CaseStep (.transitioned target) case
        (moved target { case.delivery with nextAttemptAt } reasonCode actorUserId case)
  | attempted (case : OrderCase) (outcome : FailedAttemptOutcome) (nextAttemptAt : Option Int)
      (attempt : DeliveryAttempt) (reasonCode : Text) (actorUserId : Id)
      (mirrored : case.order.status = .outForDelivery)
      (out : case.delivery.status = .outForDelivery)
      (recorded : attempt.outcome = outcome.recorded) :
      CaseStep (.attempted outcome) case { moved (attemptOutcomeStatus outcome)
        { case.delivery with
          nextAttemptAt
          ageVerificationResult := agedResult outcome case.delivery.ageVerificationResult }
        reasonCode actorUserId case with
        attempts := case.attempts ++ [attempt]
        ageEvents := attemptedAge outcome case }
  | completed (case : OrderCase) (ageResult : CompletionAgeResult) (attempt : DeliveryAttempt)
      (cashCollectedResult : Option Bool) (accountable : Int) (reasonCode : Text) (actorUserId : Id)
      (mirrored : case.order.status = completionSource case.order)
      (source : case.delivery.status = completionSource case.order)
      (verified : case.delivery.ageVerificationRequired = true -> ageResult = .passed)
      (clean : Not (NegativeEvidence case))
      (counted : accountableCashForDeliveryCompletion case.discrepancy case.collection = .ok accountable)
      (covered : 0 < case.order.expectedCodMillimes -> accountable = case.order.expectedCodMillimes)
      (delivered : attempt.outcome = .delivered) :
      CaseStep .completed case { moved .delivered
        { case.delivery with
          ageVerificationResult := ageResult.recorded
          cashCollectedResult
          nextAttemptAt := none }
        reasonCode actorUserId case with
        attempts := case.attempts ++ [attempt]
        ageEvents := case.ageEvents ++ [deliveryAgeEvent case.delivery case.order ageResult.recorded] }
  | returned (case : OrderCase) (reasonCode : Text) (actorUserId : Id)
      (mirrored : case.order.status = .returnToSender)
      (source : case.delivery.status = .returnToSender) :
      CaseStep .managed case (moved .returned case.delivery reasonCode actorUserId case)
  | rerouted (case : OrderCase) (courierId : Option Id) (trackingNumber : Option Text)
      (courierFeeMillimes : Option Int)
      (courier : courierId.isSome = true -> case.order.deliveryMethodType = .courier) :
      CaseStep .managed case { case with
        delivery := { case.delivery with
          courierId, trackingNumber, courierFeeMillimes, version := case.delivery.version + 1 } }
  | recorded (case : OrderCase) (input : RecordRequest) (keyHash : ScopedKey)
      (discrepancyId actorUserId : Id) (difference : Int)
      (expected : case.collection.status = .expected)
      (mirrored : case.order.status = case.delivery.status)
      (collectable : case.delivery.status = collectableStatus case.order)
      (positive : 0 < input.collectedMillimes)
      (balance : cashDifference case.collection.expectedMillimes input.collectedMillimes = .ok difference)
      (courier : case.order.deliveryMethodType = .courier -> case.delivery.courierId.isSome = true) :
      CaseStep .managed case { case with
        order := paid (if difference ≠ 0 then .reconciliationDiscrepancy
          else collectedPaymentStatus case.order) case.order
        delivery := cashCounted (difference == 0) case.delivery
        collection := recordedCollection case.order case.delivery
          (if difference < 0 then .partiallyCollected else .collected) input keyHash actorUserId
          case.collection
        discrepancy := if difference ≠ 0 then
            some (collectionDiscrepancy discrepancyId case.collection input.collectedMillimes
              difference actorUserId)
          else case.discrepancy }
  | corrected (case : OrderCase) (discrepancy : CashDiscrepancy) (actorUserId : Id)
      (found : case.discrepancy = some discrepancy)
      (unsettled : discrepancy.status ∈ unsettledStatuses)
      (counted : case.collection.status ∈ remittableCollectionStatuses) :
      CaseStep .managed case { case with
        order := paid (collectedPaymentStatus case.order) case.order
        delivery := cashCounted true case.delivery
        collection := { case.collection with status := .collected }
        discrepancy := some { discrepancy with
          status := .resolved, resolvedByUserId := some actorUserId } }
  | writtenOff (case : OrderCase) (discrepancy : CashDiscrepancy) (actorUserId : Id)
      (found : case.discrepancy = some discrepancy)
      (unsettled : discrepancy.status ∈ unsettledStatuses)
      (counted : case.collection.status ∈ remittableCollectionStatuses) :
      CaseStep .managed case { case with
        discrepancy := some { discrepancy with
          status := .writtenOff, resolvedByUserId := some actorUserId } }
  | remitted (case : OrderCase) (accountable : Int)
      (counted : case.collection.status ∈ remittableCollectionStatuses)
      (answered : accountableCollectionMillimes case.discrepancy case.collection = .ok accountable)
      (courier : case.collection.courierId.isSome = true) :
      CaseStep .managed case { case with collection := Cash.Admin.remitted case.collection }
  | paid (case : OrderCase) (paymentStatus : PaymentStatus) (accountable : Int)
      (listed : paymentStatus = .cashRemitted \/ paymentStatus = .reconciliationDiscrepancy)
      (answered : accountableCollectionMillimes case.discrepancy case.collection = .ok accountable)
      (courier : case.collection.courierId.isSome = true)
      (cleared : paymentStatus = .cashRemitted ->
        case.collection.status = .remitted /\ accountable = case.order.expectedCodMillimes) :
      CaseStep .managed case { case with order := Cash.Admin.paid paymentStatus case.order }

-- Where an order can be once its cash is recorded.
def cashStatuses (method : DeliveryMethodType) : List OrderStatus :=
  if method = .storePickup then [.readyForPickup, .delivered]
  else [.outForDelivery, .deliveryAttempted, .rescheduled, .delivered, .refused, .failed,
    .returnToSender, .returned]

def failedStatuses : List OrderStatus :=
  [.failed, .returnToSender, .returned]

-- A recorded collection and its discrepancy, if the count differed.
def Accounts (case : OrderCase) (difference : Int) : Prop :=
  match case.discrepancy with
  | none => difference = 0 /\ case.collection.status ∈ collectedCashStatuses
  | some discrepancy =>
    linked case.collection discrepancy difference = true /\ discrepancy.remittanceId = none /\
      discrepancy.orderId = some case.collection.orderId /\
      (discrepancy.status = .resolved -> case.collection.status ∈ collectedCashStatuses) /\
      (discrepancy.status ∈ unsettledStatuses ->
        case.order.paymentStatus = .reconciliationDiscrepancy /\
          case.collection.status ∈ remittableCollectionStatuses)

structure Unrecorded (case : OrderCase) : Prop where
  collected : case.collection.collectedMillimes = 0
  discrepancy : case.discrepancy = none
  key : case.collection.recordIdempotencyKeyHash = none

structure Recorded (case : OrderCase) : Prop where
  positive : 0 < case.collection.collectedMillimes
  collector : case.collection.collectedByUserId.isSome = true
  key : case.collection.recordIdempotencyKeyHash.isSome = true
  balance : exists difference,
    cashDifference case.collection.expectedMillimes case.collection.collectedMillimes = .ok difference /\
      Accounts case difference
  status : case.order.status ∈ cashStatuses case.order.deliveryMethodType
  pickup : case.order.deliveryMethodType = .storePickup -> case.collection.courierId = none
  store : case.order.deliveryMethodType = .storePickup ->
    (forall discrepancy, case.discrepancy = some discrepancy -> discrepancy.status = .resolved) ->
    case.order.paymentStatus = .cashCollectedAtStore

structure Delivered (case : OrderCase) : Prop where
  age : case.delivery.ageVerificationRequired = true -> case.delivery.ageVerificationResult = .passed
  cash : accountableCashForDeliveryCompletion case.discrepancy case.collection =
    .ok case.order.expectedCodMillimes

-- What holds of every order at all times.
structure Sound (case : OrderCase) : Prop where
  mirrored : case.order.status = case.delivery.status
  owed : case.collection.expectedMillimes = case.order.expectedCodMillimes
  positive : 0 < case.order.expectedCodMillimes
  unrecorded : case.collection.status ∈ unrecordedStatuses -> Unrecorded case
  unpaid : case.collection.status = .expected -> uncollected case.order.paymentStatus = true
  voided : case.collection.status = .voided -> case.order.status = .cancelled
  recorded : Not (case.collection.status ∈ unrecordedStatuses) -> Recorded case
  aged : NegativeEvidence case -> case.order.status ∈ failedStatuses
  delivered : case.order.status = .delivered -> Delivered case

-- A change of status that the cash and the age evidence of an order allow.
structure Carries (source target : OrderStatus) : Prop where
  live : source ≠ .cancelled
  open_ended : target ≠ .delivered
  cash : forall method, source ∈ cashStatuses method -> target ∈ cashStatuses method
  aged : source ∈ failedStatuses -> target ∈ failedStatuses

theorem intake_carries {source target : OrderStatus} (listed : (source, target) ∈ intakeSteps) :
    Carries source target := by
  simp only [intakeSteps, List.mem_cons, Prod.mk.injEq, List.not_mem_nil, or_false] at listed
  rcases listed with ⟨rfl, rfl⟩ | ⟨rfl, rfl⟩ | ⟨rfl, rfl⟩
  all_goals exact ⟨by decide, by decide, fun method => by cases method <;> decide, by decide⟩

theorem transition_carries {source target : OrderStatus}
    (edge : canTransitionDelivery source target = true)
    (operational : target ∈ operationalDeliveryTargets) : Carries source target := by
  revert edge operational
  cases source <;> cases target <;> intro edge operational <;>
    first
    | exact absurd edge (by decide)
    | exact absurd operational (by decide)
    | exact ⟨by decide, by decide, fun method => by cases method <;> decide, by decide⟩

theorem attempt_carries (outcome : FailedAttemptOutcome) :
    Carries .outForDelivery (attemptOutcomeStatus outcome) := by
  cases outcome <;>
    exact ⟨by decide, by decide, fun method => by cases method <;> decide, by decide⟩

theorem return_carries : Carries .returnToSender .returned :=
  ⟨by decide, by decide, fun method => by cases method <;> decide, by decide⟩

-- The rows that decide what cash and age say of an order.
structure SameCash (case after : OrderCase) : Prop where
  collection : after.collection = case.collection
  discrepancy : after.discrepancy = case.discrepancy
  payment : after.order.paymentStatus = case.order.paymentStatus
  cod : after.order.expectedCodMillimes = case.order.expectedCodMillimes
  method : after.order.deliveryMethodType = case.order.deliveryMethodType

theorem Recorded.move {case after : OrderCase} (recorded : Recorded case) (same : SameCash case after)
    (status : after.order.status ∈ cashStatuses case.order.deliveryMethodType) : Recorded after where
  positive := same.collection ▸ recorded.positive
  collector := same.collection ▸ recorded.collector
  key := same.collection ▸ recorded.key
  balance := by
    obtain ⟨difference, balanced, accounts⟩ := recorded.balance
    refine ⟨difference, same.collection ▸ balanced, ?_⟩
    unfold Accounts at accounts ⊢
    rw [same.discrepancy, same.collection, same.payment]
    exact accounts
  status := same.method ▸ status
  pickup := by rw [same.method, same.collection]; exact recorded.pickup
  store := by rw [same.method, same.discrepancy, same.payment]; exact recorded.store

theorem Sound.move {case after : OrderCase} (sound : Sound case) (same : SameCash case after)
    (mirrored : after.order.status = after.delivery.status)
    (carries : Carries case.order.status after.order.status)
    (aged : NegativeEvidence after -> NegativeEvidence case \/ after.order.status ∈ failedStatuses) :
    Sound after where
  mirrored := mirrored
  owed := by rw [same.collection, same.cod, sound.owed]
  positive := same.cod ▸ sound.positive
  unrecorded := by
    rw [same.collection]
    intro status
    have before := sound.unrecorded status
    exact ⟨same.collection ▸ before.collected, same.discrepancy ▸ before.discrepancy,
      same.collection ▸ before.key⟩
  unpaid := by rw [same.collection, same.payment]; exact sound.unpaid
  voided := by
    rw [same.collection]
    exact fun void => absurd (sound.voided void) carries.live
  recorded := by
    rw [same.collection]
    exact fun settled => (sound.recorded settled).move same (carries.cash _ (sound.recorded settled).status)
  aged := fun evidence => (aged evidence).elim (fun before => carries.aged (sound.aged before)) id
  delivered := fun there => absurd there carries.open_ended

theorem moved_sameCash (case : OrderCase) (target : OrderStatus) (delivery : Schema.Delivery)
    (reasonCode : Text) (actorUserId : Id) :
    SameCash case (moved target delivery reasonCode actorUserId case) :=
  ⟨rfl, rfl, rfl, rfl, rfl⟩

theorem intake_sound {case : OrderCase} {target : OrderStatus} (reasonCode : Text) (actorUserId : Id)
    (listed : (case.order.status, target) ∈ intakeSteps) (sound : Sound case) :
    Sound (moved target case.delivery reasonCode actorUserId case) :=
  sound.move (moved_sameCash _ _ _ _ _) rfl (intake_carries listed) .inl

theorem transitioned_sound {case : OrderCase} {target : DeliveryStatus} (nextAttemptAt : Option Int)
    (reasonCode : Text) (actorUserId : Id)
    (edge : canTransitionDelivery case.delivery.status target = true)
    (operational : target ∈ operationalDeliveryTargets) (sound : Sound case) :
    Sound (moved target { case.delivery with nextAttemptAt } reasonCode actorUserId case) :=
  sound.move (moved_sameCash _ _ _ _ _) rfl
    (transition_carries (sound.mirrored ▸ edge) operational) .inl

theorem returned_sound {case : OrderCase} (reasonCode : Text) (actorUserId : Id)
    (source : case.order.status = .returnToSender) (sound : Sound case) :
    Sound (moved .returned case.delivery reasonCode actorUserId case) :=
  sound.move (moved_sameCash _ _ _ _ _) rfl (source ▸ return_carries) .inl

-- Only a failed age check leaves new evidence, and it fails the delivery.
theorem attempted_sound {case : OrderCase} {outcome : FailedAttemptOutcome}
    (nextAttemptAt : Option Int) {attempt : DeliveryAttempt} (reasonCode : Text) (actorUserId : Id)
    (mirrored : case.order.status = .outForDelivery) (recorded : attempt.outcome = outcome.recorded)
    (sound : Sound case) :
    Sound { moved (attemptOutcomeStatus outcome)
      { case.delivery with
        nextAttemptAt
        ageVerificationResult := agedResult outcome case.delivery.ageVerificationResult }
      reasonCode actorUserId case with
      attempts := case.attempts ++ [attempt]
      ageEvents := attemptedAge outcome case } := by
  refine sound.move ⟨rfl, rfl, rfl, rfl, rfl⟩ rfl (mirrored ▸ attempt_carries outcome) fun evidence => ?_
  by_cases failed : outcome = .failedAgeVerification
  next => exact .inr (by simp [failed, moved, orderMoved, attemptOutcomeStatus, failedStatuses])
  next =>
    left
    rcases evidence with result | ⟨found, member, same⟩ | event
    next => exact .inl (by simpa [moved, deliveryMoved, agedResult, failed] using result)
    next =>
      rcases List.mem_append.1 member with known | added
      next => exact .inr (.inl ⟨found, known, same⟩)
      next =>
        obtain rfl := List.mem_singleton.1 added
        rw [recorded] at same
        cases outcome <;> simp_all [FailedAttemptOutcome.recorded]
    next => exact .inr (.inr (by simpa [attemptedAge, failed] using event))

theorem completion_clean (result : CompletionAgeResult) :
    Not (result.recorded ∈ negativeAgeResults) := by
  cases result <;> decide

theorem completed_sound {case : OrderCase} {ageResult : CompletionAgeResult} {attempt : DeliveryAttempt}
    (cashCollectedResult : Option Bool) {accountable : Int} (reasonCode : Text) (actorUserId : Id)
    (mirrored : case.order.status = completionSource case.order)
    (verified : case.delivery.ageVerificationRequired = true -> ageResult = .passed)
    (clean : Not (NegativeEvidence case))
    (counted : accountableCashForDeliveryCompletion case.discrepancy case.collection = .ok accountable)
    (covered : 0 < case.order.expectedCodMillimes -> accountable = case.order.expectedCodMillimes)
    (delivered : attempt.outcome = .delivered) (sound : Sound case) :
    Sound { moved .delivered
      { case.delivery with
        ageVerificationResult := ageResult.recorded
        cashCollectedResult
        nextAttemptAt := none }
      reasonCode actorUserId case with
      attempts := case.attempts ++ [attempt]
      ageEvents := case.ageEvents ++ [deliveryAgeEvent case.delivery case.order ageResult.recorded] } where
  mirrored := rfl
  owed := sound.owed
  positive := sound.positive
  unrecorded there := ⟨(sound.unrecorded there).collected, (sound.unrecorded there).discrepancy,
    (sound.unrecorded there).key⟩
  unpaid := sound.unpaid
  voided void := by
    have there := sound.voided void
    rw [mirrored] at there
    unfold completionSource at there
    split at there <;> simp at there
  recorded settled := by
    refine (sound.recorded settled).move ⟨rfl, rfl, rfl, rfl, rfl⟩ ?_
    cases case.order.deliveryMethodType <;> simp [moved, orderMoved, cashStatuses]
  aged evidence := by
    refine absurd ?_ clean
    rcases evidence with result | ⟨found, member, same⟩ | ⟨event, member, phase, result⟩
    next => exact absurd result (completion_clean ageResult)
    next =>
      rcases List.mem_append.1 member with known | added
      next => exact .inr (.inl ⟨found, known, same⟩)
      next => simp [List.mem_singleton.1 added, delivered] at same
    next =>
      rcases List.mem_append.1 member with known | added
      next => exact .inr (.inr ⟨event, known, phase, result⟩)
      next =>
        obtain rfl := List.mem_singleton.1 added
        exact absurd result (completion_clean ageResult)
  delivered _ := by
    refine ⟨fun required => ?_, ?_⟩
    next => simp [moved, deliveryMoved, verified required, CompletionAgeResult.recorded]
    next => exact counted.trans (congrArg _ (covered sound.positive))

theorem early_not_failed {status : OrderStatus} (early : status ∈ earlyCancellationStatuses) :
    Not (status ∈ failedStatuses) := by
  revert early
  cases status <;> decide

theorem cancelled_sound {case : OrderCase} (reasonCode : Text) (actorUserId : Id)
    (early : case.order.status ∈ earlyCancellationStatuses)
    (unrecorded : case.collection.status ∈ unrecordedStatuses) (sound : Sound case) :
    Sound { case with
      order := orderCancelled case.order
      delivery := deliveryMoved .cancelled case.delivery
      collection := { case.collection with status := .voided }
      history := case.history ++ [historyEntry case.order .cancelled reasonCode actorUserId] } where
  mirrored := rfl
  owed := sound.owed
  positive := sound.positive
  unrecorded _ := ⟨(sound.unrecorded unrecorded).collected, (sound.unrecorded unrecorded).discrepancy,
    (sound.unrecorded unrecorded).key⟩
  unpaid there := by simp at there
  voided _ := rfl
  recorded settled := absurd (by simp [unrecordedStatuses]) settled
  aged evidence := by
    exact absurd (sound.aged evidence) (early_not_failed early)
  delivered there := by simp [orderCancelled] at there

theorem rerouted_sound {case : OrderCase} (courierId : Option Id) (trackingNumber : Option Text)
    (courierFeeMillimes : Option Int) (sound : Sound case) :
    Sound { case with
      delivery := { case.delivery with
        courierId, trackingNumber, courierFeeMillimes, version := case.delivery.version + 1 } } where
  mirrored := sound.mirrored
  owed := sound.owed
  positive := sound.positive
  unrecorded there := ⟨(sound.unrecorded there).collected, (sound.unrecorded there).discrepancy,
    (sound.unrecorded there).key⟩
  unpaid := sound.unpaid
  voided := sound.voided
  recorded settled := (sound.recorded settled).move ⟨rfl, rfl, rfl, rfl, rfl⟩
    (sound.recorded settled).status
  aged := sound.aged
  delivered there := ⟨(sound.delivered there).age, (sound.delivered there).cash⟩

theorem collectable_in_cashStatuses (order : Order) :
    collectableStatus order ∈ cashStatuses order.deliveryMethodType := by
  unfold collectableStatus cashStatuses
  split <;> simp

theorem collectable_not_delivered (order : Order) : collectableStatus order ≠ .delivered := by
  unfold collectableStatus
  split <;> simp

theorem counted_status (difference : Int) :
    Not ((if difference < 0 then CashCollectionStatus.partiallyCollected else .collected) ∈
      unrecordedStatuses) := by
  split <;> decide

theorem recorded_sound {case : OrderCase} {input : RecordRequest} (keyHash : ScopedKey)
    (discrepancyId actorUserId : Id) {difference : Int}
    (expected : case.collection.status = .expected)
    (mirrored : case.order.status = case.delivery.status)
    (collectable : case.delivery.status = collectableStatus case.order)
    (positive : 0 < input.collectedMillimes)
    (balance : cashDifference case.collection.expectedMillimes input.collectedMillimes = .ok difference)
    (sound : Sound case) :
    Sound { case with
      order := paid (if difference ≠ 0 then .reconciliationDiscrepancy
        else collectedPaymentStatus case.order) case.order
      delivery := cashCounted (difference == 0) case.delivery
      collection := recordedCollection case.order case.delivery
        (if difference < 0 then .partiallyCollected else .collected) input keyHash actorUserId
        case.collection
      discrepancy := if difference ≠ 0 then
          some (collectionDiscrepancy discrepancyId case.collection input.collectedMillimes
            difference actorUserId)
        else case.discrepancy } where
  mirrored := sound.mirrored
  owed := sound.owed
  positive := sound.positive
  unrecorded there := absurd there (counted_status difference)
  unpaid there := absurd (by simp_all [recordedCollection, unrecordedStatuses]) (counted_status difference)
  voided there := absurd (by simp_all [recordedCollection, unrecordedStatuses]) (counted_status difference)
  recorded _ := by
    have fresh := (sound.unrecorded (by simp [expected, unrecordedStatuses])).discrepancy
    exact {
      positive := positive
      collector := rfl
      key := rfl
      balance := by
        refine ⟨difference, balance, ?_⟩
        by_cases exact_count : difference = 0
        next => simp [Accounts, exact_count, fresh, recordedCollection, collectedCashStatuses]
        next =>
          simp [Accounts, exact_count, linked, collectionDiscrepancy, recordedCollection, paid]
          split <;> decide
      status := by
        have here : case.order.status = collectableStatus case.order := mirrored.trans collectable
        simpa [paid, here] using collectable_in_cashStatuses case.order
      pickup := by
        intro pickup
        simp only [paid] at pickup
        simp [recordedCollection, pickup]
      store := by
        intro pickup settled
        simp only [paid] at pickup
        by_cases exact_count : difference = 0
        next => simp [exact_count, paid, collectedPaymentStatus, pickup]
        next => simp [exact_count, collectionDiscrepancy] at settled }
  aged := sound.aged
  delivered there := absurd (collectable.symm.trans (mirrored.symm.trans there))
    (collectable_not_delivered case.order)

theorem remittable_recorded {status : CashCollectionStatus}
    (counted : status ∈ remittableCollectionStatuses) : Not (status ∈ unrecordedStatuses) := by
  revert counted
  cases status <;> decide

theorem unsettled_not_delivered {case : OrderCase} {discrepancy : CashDiscrepancy} (sound : Sound case)
    (found : case.discrepancy = some discrepancy)
    (unsettled : discrepancy.status ∈ unsettledStatuses) : case.order.status ≠ .delivered := by
  intro there
  have cash := (sound.delivered there).cash
  rw [found] at cash
  simp [accountable_cash_resolved cash, unsettledStatuses] at unsettled

theorem corrected_sound {case : OrderCase} {discrepancy : CashDiscrepancy} (actorUserId : Id)
    (found : case.discrepancy = some discrepancy)
    (unsettled : discrepancy.status ∈ unsettledStatuses)
    (counted : case.collection.status ∈ remittableCollectionStatuses) (sound : Sound case) :
    Sound { case with
      order := paid (collectedPaymentStatus case.order) case.order
      delivery := cashCounted true case.delivery
      collection := { case.collection with status := .collected }
      discrepancy := some { discrepancy with
        status := .resolved, resolvedByUserId := some actorUserId } } where
  mirrored := sound.mirrored
  owed := sound.owed
  positive := sound.positive
  unrecorded there := by simp [unrecordedStatuses] at there
  unpaid there := by simp at there
  voided there := by simp at there
  recorded _ := by
    have recorded := sound.recorded (remittable_recorded counted)
    obtain ⟨difference, balance, accounts⟩ := recorded.balance
    simp only [Accounts, found] at accounts
    obtain ⟨same, scope, order, -⟩ := accounts
    exact {
      positive := recorded.positive
      collector := recorded.collector
      key := recorded.key
      balance := by
        refine ⟨difference, balance, ?_⟩
        simp only [Accounts]
        exact ⟨same, scope, order, by simp [collectedCashStatuses], by simp [unsettledStatuses]⟩
      status := recorded.status
      pickup := recorded.pickup
      store := fun pickup _ => by
        simp only [paid] at pickup
        simp [paid, collectedPaymentStatus, pickup] }
  aged := sound.aged
  delivered there := by
    have before : case.order.status = .delivered := there
    exact absurd before (unsettled_not_delivered sound found unsettled)

theorem writtenOff_sound {case : OrderCase} {discrepancy : CashDiscrepancy} (actorUserId : Id)
    (found : case.discrepancy = some discrepancy)
    (unsettled : discrepancy.status ∈ unsettledStatuses)
    (counted : case.collection.status ∈ remittableCollectionStatuses) (sound : Sound case) :
    Sound { case with
      discrepancy := some { discrepancy with
        status := .writtenOff, resolvedByUserId := some actorUserId } } where
  mirrored := sound.mirrored
  owed := sound.owed
  positive := sound.positive
  unrecorded there := absurd there (remittable_recorded counted)
  unpaid := sound.unpaid
  voided := sound.voided
  recorded settled := by
    have recorded := sound.recorded settled
    obtain ⟨difference, balance, accounts⟩ := recorded.balance
    simp only [Accounts, found] at accounts
    obtain ⟨same, scope, order, -⟩ := accounts
    exact {
      positive := recorded.positive
      collector := recorded.collector
      key := recorded.key
      balance := by
        refine ⟨difference, balance, ?_⟩
        simp only [Accounts]
        exact ⟨same, scope, order, by simp, by simp [unsettledStatuses]⟩
      status := recorded.status
      pickup := recorded.pickup
      store := by simp }
  aged := sound.aged
  delivered there := by
    have before : case.order.status = .delivered := there
    exact absurd before (unsettled_not_delivered sound found unsettled)

theorem remitted_sound {case : OrderCase} {accountable : Int}
    (counted : case.collection.status ∈ remittableCollectionStatuses)
    (answered : accountableCollectionMillimes case.discrepancy case.collection = .ok accountable)
    (sound : Sound case) : Sound { case with collection := Cash.Admin.remitted case.collection } where
  mirrored := sound.mirrored
  owed := sound.owed
  positive := sound.positive
  unrecorded there := by simp [Cash.Admin.remitted, unrecordedStatuses] at there
  unpaid there := by simp [Cash.Admin.remitted] at there
  voided there := by simp [Cash.Admin.remitted] at there
  recorded _ := by
    have recorded := sound.recorded (remittable_recorded counted)
    obtain ⟨difference, balance, accounts⟩ := recorded.balance
    refine { recorded with balance := ⟨difference, balance, ?_⟩ }
    unfold Accounts at accounts ⊢
    cases found : case.discrepancy with
    | none =>
      simp only [found] at accounts
      exact ⟨accounts.1, by simp [Cash.Admin.remitted, collectedCashStatuses]⟩
    | some discrepancy =>
      simp only [found] at accounts answered
      obtain ⟨same, scope, order, -, -⟩ := accounts
      refine ⟨same, scope, order, fun _ => by simp [Cash.Admin.remitted, collectedCashStatuses], ?_⟩
      exact fun unsettled => absurd unsettled (answered_settled answered)
  aged := sound.aged
  delivered there := by
    have delivered := sound.delivered there
    exact ⟨delivered.age, accountable_cash_remitted sound.positive delivered.cash⟩

-- An accountable amount means a recorded collection: an unrecorded one is short of what is owed.
theorem answered_recorded {case : OrderCase} {accountable : Int} (sound : Sound case)
    (answered : accountableCollectionMillimes case.discrepancy case.collection = .ok accountable) :
    Not (case.collection.status ∈ unrecordedStatuses) := by
  intro unrecorded
  obtain ⟨zero, fresh, -⟩ := sound.unrecorded unrecorded
  rw [fresh] at answered
  have exact_count := answered_exact answered
  have owed := sound.owed
  have positive := sound.positive
  omega

theorem paid_sound {case : OrderCase} {paymentStatus : PaymentStatus} {accountable : Int}
    (answered : accountableCollectionMillimes case.discrepancy case.collection = .ok accountable)
    (courier : case.collection.courierId.isSome = true) (sound : Sound case) :
    Sound { case with order := Cash.Admin.paid paymentStatus case.order } where
  mirrored := sound.mirrored
  owed := sound.owed
  positive := sound.positive
  unrecorded there := ⟨(sound.unrecorded there).collected, (sound.unrecorded there).discrepancy,
    (sound.unrecorded there).key⟩
  unpaid there := absurd (by simp_all [unrecordedStatuses]) (answered_recorded sound answered)
  voided := sound.voided
  recorded settled := by
    have recorded := sound.recorded settled
    obtain ⟨difference, balance, accounts⟩ := recorded.balance
    refine {
      positive := recorded.positive
      collector := recorded.collector
      key := recorded.key
      balance := ⟨difference, balance, ?_⟩
      status := recorded.status
      pickup := recorded.pickup
      store := fun pickup _ => ?_ }
    next =>
      unfold Accounts at accounts ⊢
      cases found : case.discrepancy with
      | none => simpa only [found] using accounts
      | some discrepancy =>
        simp only [found] at accounts answered
        obtain ⟨same, scope, order, resolved, -⟩ := accounts
        exact ⟨same, scope, order, resolved, fun unsettled => absurd unsettled (answered_settled answered)⟩
    next =>
      have absent := recorded.pickup pickup
      simp [absent] at courier
  aged := sound.aged
  delivered there := ⟨(sound.delivered there).age, (sound.delivered there).cash⟩

theorem CaseStep.sound {event : Event} {case after : OrderCase} (taken : CaseStep event case after)
    (sound : Sound case) : Sound after := by
  cases taken with
  | intake _ target reasonCode actor listed _ => exact intake_sound reasonCode actor listed sound
  | cancelled _ reasonCode actor early _ _ unrecorded =>
    exact cancelled_sound reasonCode actor early unrecorded sound
  | transitioned _ target next reasonCode actor edge _ operational =>
    exact transitioned_sound next reasonCode actor edge operational sound
  | attempted _ outcome next attempt reasonCode actor mirrored _ recorded =>
    exact attempted_sound next reasonCode actor mirrored recorded sound
  | completed _ ageResult attempt result accountable reasonCode actor mirrored _ verified clean counted
      covered delivered =>
    exact completed_sound result reasonCode actor mirrored verified clean counted covered delivered sound
  | returned _ reasonCode actor mirrored _ => exact returned_sound reasonCode actor mirrored sound
  | rerouted _ courier tracking fee => exact rerouted_sound courier tracking fee sound
  | recorded _ input keyHash discrepancyId actor difference expected mirrored collectable positive
      balance _ =>
    exact recorded_sound keyHash discrepancyId actor expected mirrored collectable positive balance sound
  | corrected _ discrepancy actor found unsettled counted =>
    exact corrected_sound actor found unsettled counted sound
  | writtenOff _ discrepancy actor found unsettled counted =>
    exact writtenOff_sound actor found unsettled counted sound
  | remitted _ accountable counted answered _ => exact remitted_sound counted answered sound
  | paid _ paymentStatus accountable _ answered courier _ => exact paid_sound answered courier sound

-- An order as checkout writes it.
structure Fresh (case : OrderCase) : Prop where
  status : case.order.status = .pendingConfirmation
  delivery : case.delivery.status = .pendingConfirmation
  unassigned : case.delivery.courierId = none
  payment : case.order.paymentStatus = .cashExpected
  positive : 0 < case.order.expectedCodMillimes
  owed : case.collection.expectedMillimes = case.order.expectedCodMillimes
  collection : case.collection.status = .expected
  collected : case.collection.collectedMillimes = 0
  key : case.collection.recordIdempotencyKeyHash = none
  discrepancy : case.discrepancy = none
  age : Not (case.delivery.ageVerificationResult ∈ negativeAgeResults)
  attempts : case.attempts = []
  ageEvents : case.ageEvents = []
  history : exists customerUserId,
    case.history = [Checkout.Order.createdHistory case.order.id customerUserId]

theorem Fresh.sound {case : OrderCase} (fresh : Fresh case) : Sound case where
  mirrored := fresh.status.trans fresh.delivery.symm
  owed := fresh.owed
  positive := fresh.positive
  unrecorded _ := ⟨fresh.collected, fresh.discrepancy, fresh.key⟩
  unpaid _ := by simp [fresh.payment, uncollected]
  voided there := by simp [fresh.collection] at there
  recorded settled := absurd (by simp [fresh.collection, unrecordedStatuses]) settled
  aged evidence := by
    rcases evidence with result | ⟨attempt, member, -⟩ | ⟨event, member, -⟩
    next => exact absurd result fresh.age
    next => simp [fresh.attempts] at member
    next => simp [fresh.ageEvents] at member
  delivered there := by simp [fresh.status] at there

end VapeCommerce.Orders.Progress
