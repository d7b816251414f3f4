import VapeCommerce.Cash.Calculations
import VapeCommerce.Orders.Admin

set_option autoImplicit false

-- admin-deliveries.service.ts
namespace VapeCommerce.Delivery.Admin

open VapeCommerce.Lib VapeCommerce.Lib.Outcome VapeCommerce.Schema VapeCommerce.Config
open VapeCommerce.Database VapeCommerce.Orders.StateMachine VapeCommerce.Orders.Admin
open VapeCommerce.Cash.Calculations

structure DeliveryOperation where
  delivery : Delivery
  order : Order
  lastAttemptNumber : Nat
  cashCollections : List CashCollection

def attemptsOf (db : Db) (deliveryId : Id) : List DeliveryAttempt :=
  db.attempts.filter fun attempt => attempt.deliveryId == deliveryId

def lastAttemptNumber (attempts : List DeliveryAttempt) : Nat :=
  (attempts.map (·.attemptNumber)).foldl max 0

def lockDelivery (db : Db) (id : Id) : Except Failure DeliveryOperation := do
  let delivery <- orThrow (db.deliveries.find? id) (notFound "DELIVERY_NOT_FOUND")
  let order <- orThrow (db.orders.find? delivery.orderId) (notFound "DELIVERY_NOT_FOUND")
  return {
    delivery
    order
    lastAttemptNumber := lastAttemptNumber (attemptsOf db delivery.id)
    cashCollections := db.collections.filter fun row => row.deliveryId == some delivery.id }

def versionConflict : Failure := conflict "VERSION_CONFLICT"

def assertDeliveryVersion (delivery : Delivery) (expectedVersion : Nat) : Except Failure Unit :=
  throwIf (delivery.version ≠ expectedVersion) versionConflict

def requireExplanation (value : Option Text) (code : String) : Except Failure Unit :=
  throwIf (Not (value.any fun text => (trim text).length >= 4)) (badRequest code)

inductive CourierAssignmentWarning where
  | courierOutsideDeliveryZone
  | courierCapacityExceeded
deriving DecidableEq, Repr

def assignmentWarnings (courier : Courier) (activeDeliveries : Nat) (deliveryZoneId : Option Id) :
    List CourierAssignmentWarning :=
  (if courier.deliveryZones ≠ [] && !(deliveryZoneId.any fun zoneId =>
      courier.deliveryZones.any fun zone => zone.active && zone.deliveryZoneId == zoneId) then
    [.courierOutsideDeliveryZone] else []) ++
  (if courier.maximumActiveDeliveries.any (fun maximum => (activeDeliveries : Int) >= maximum) then
    [.courierCapacityExceeded] else [])

def activeDeliveryCount (db : Db) (courierId : Id) : Nat :=
  db.deliveries.count fun delivery =>
    delivery.courierId == some courierId && !decide (delivery.status ∈ terminalDeliveryStatuses)

structure AssignDelivery where
  courierId : Id
  expectedVersion : Nat
  trackingNumber : Option Text
  acknowledgedWarnings : List CourierAssignmentWarning

inductive AssignmentAction where
  | assign
  | reassign (reason : Text)

def assertAssignable (action : AssignmentAction) (delivery : Delivery) (courierId : Id) :
    Except Failure Unit :=
  match action with
  | .assign => throwIf delivery.courierId.isSome (conflict "DELIVERY_ALREADY_ASSIGNED")
  | .reassign reason => do
    throwIf delivery.courierId.isNone (conflict "DELIVERY_NOT_ASSIGNED")
    throwIf (delivery.courierId = some courierId) (conflict "DELIVERY_COURIER_UNCHANGED")
    requireExplanation (some reason) "REASSIGNMENT_REASON_REQUIRED"

def courierFee (courier : Courier) (deliveryZoneId : Option Id) : Option Int :=
  match courier.deliveryZones.find? fun zone =>
      zone.active && some zone.deliveryZoneId == deliveryZoneId with
  | some zone => zone.feeMillimes.or courier.defaultFeeMillimes
  | none => courier.defaultFeeMillimes

def assignment (db : Db) (action : AssignmentAction) (id : Id) (input : AssignDelivery) :
    Except Failure Db := do
  let operation <- lockDelivery db id
  let delivery := operation.delivery
  assertDeliveryVersion delivery input.expectedVersion
  throwIf (operation.order.deliveryMethodType ≠ .courier)
    (conflict "COURIER_ASSIGNMENT_NOT_APPLICABLE")
  throwIf (Not (delivery.status ∈ deliveryAssignmentStatuses) \/
      operation.order.status ≠ delivery.status)
    (conflict "COURIER_ASSIGNMENT_NOT_ALLOWED")
  assertAssignable action delivery input.courierId
  let courier <- orThrow
    (db.config.couriers.find? fun courier => courier.id == input.courierId && courier.active)
    (conflict "COURIER_UNAVAILABLE")
  throwIf (Not courier.available) (conflict "COURIER_OFF_DUTY")
  let warnings := assignmentWarnings courier (activeDeliveryCount db courier.id)
    operation.order.deliveryZoneId
  throwIf (warnings.any fun warning => !decide (warning ∈ input.acknowledgedWarnings))
    (conflict "COURIER_ASSIGNMENT_WARNING_ACKNOWLEDGEMENT_REQUIRED")
  let trackingNumber := (input.trackingNumber.map trim).or delivery.trackingNumber
  throwIf (trackingNumber.isSome && db.deliveries.rows.any fun other =>
      other.id != delivery.id && other.trackingNumber == trackingNumber)
    (conflict "TRACKING_NUMBER_CONFLICT")
  let deliveries <- updateOne db.deliveries
    (fun row => row.id == delivery.id && row.version == input.expectedVersion)
    (fun row => { row with
      courierId := some courier.id
      trackingNumber
      courierFeeMillimes := courierFee courier operation.order.deliveryZoneId
      version := row.version + 1 })
    (fun _ => rfl) versionConflict
  return { db with deliveries }

def activeManifest (manifest : DeliveryManifest) : Bool :=
  manifest.status == .draft || manifest.status == .sealed || manifest.status == .handedOver

def onActiveManifest (db : Db) (deliveryId : Id) : Bool :=
  db.manifests.rows.any fun manifest =>
    activeManifest manifest && decide (deliveryId ∈ manifest.deliveryIds)

def unassign (db : Db) (id : Id) (expectedVersion : Nat) (reason : Text) : Except Failure Db := do
  let operation <- lockDelivery db id
  let delivery := operation.delivery
  assertDeliveryVersion delivery expectedVersion
  requireExplanation (some reason) "UNASSIGNMENT_REASON_REQUIRED"
  throwIf (delivery.courierId.isNone \/ Not (delivery.status ∈ courierUnassignmentStatuses) \/
      operation.order.status ≠ delivery.status)
    (conflict "COURIER_UNASSIGNMENT_NOT_ALLOWED")
  throwIf (onActiveManifest db delivery.id) (conflict "COURIER_UNASSIGNMENT_MANIFEST_ACTIVE")
  let deliveries <- updateOne db.deliveries
    (fun row => row.id == delivery.id && row.version == expectedVersion)
    (fun row => { row with
      courierId := none
      trackingNumber := none
      courierFeeMillimes := none
      version := row.version + 1 })
    (fun _ => rfl) versionConflict
  return { db with deliveries }

theorem movedWith_id {target : DeliveryStatus} {deliveryData : Delivery -> Delivery}
    (keeps : forall row, (deliveryData row).id = row.id) (row : Delivery) :
    (deliveryMoved target (deliveryData row)).id = row.id := keeps row

-- Both rows move to the target together, each under its own guard.
def updateMirroredStatus (db : Db) (order : Order) (delivery : Delivery) (target : DeliveryStatus)
    (deliveryData : Delivery -> Delivery)
    (keeps : forall row, (deliveryData row).id = row.id)
    (reasonCode : Text) (actorUserId : Id) : Except Failure Db := do
  let deliveries <- updateOne db.deliveries (guardsDelivery delivery)
    (fun row => deliveryMoved target (deliveryData row)) (movedWith_id keeps) versionConflict
  let orders <- updateOne db.orders (guardsOrder order) (orderMoved target) (orderMoved_id _)
    versionConflict
  return { db with
    deliveries
    orders
    history := db.history ++ [historyEntry order target reasonCode actorUserId] }

structure TransitionDelivery where
  expectedVersion : Nat
  target : OperationalTarget
  reasonCode : Option Text
  explanation : Option Text

def clearNextAttempt (target : DeliveryStatus) (row : Delivery) : Delivery :=
  if target = .outForDelivery then { row with nextAttemptAt := none } else row

theorem clearNextAttempt_id (target : DeliveryStatus) (row : Delivery) :
    (clearNextAttempt target row).id = row.id := by
  unfold clearNextAttempt
  split <;> rfl

def transition (db : Db) (id : Id) (input : TransitionDelivery) (actorUserId : Id) :
    Except Failure Db := do
  let operation <- lockDelivery db id
  let delivery := operation.delivery
  let target := input.target.status
  assertDeliveryVersion delivery input.expectedVersion
  throwIf (canTransitionDelivery delivery.status target = false \/
      operation.order.status ≠ delivery.status)
    (conflict "DELIVERY_TRANSITION_NOT_ALLOWED")
  throwIf (target ∈ courierRequiredTargets /\ delivery.courierId.isNone)
    (conflict "DELIVERY_COURIER_REQUIRED")
  requireWhen (target ∈ explanationRequiredTargets)
    (requireExplanation input.explanation "DELIVERY_EXPLANATION_REQUIRED")
  updateMirroredStatus db operation.order delivery target (clearNextAttempt target)
    (clearNextAttempt_id target)
    ((trimmedOrNull input.reasonCode).getD "MANUAL_TRANSITION".toList) actorUserId

structure RecordDeliveryAttempt where
  expectedVersion : Nat
  outcome : FailedAttemptOutcome
  explanation : Option Text
  nextAttemptAt : Option Int

def nextAttempt (outcome : FailedAttemptOutcome) (requested : Option Int) (now : Int) :
    Except Failure (Option Int) :=
  if outcome = .rescheduled then do
    let instant <- orThrow requested (badRequest "NEXT_ATTEMPT_REQUIRED")
    throwIf (instant <= now) (badRequest "NEXT_ATTEMPT_INVALID")
    return some instant
  else do
    throwIf requested.isSome (badRequest "NEXT_ATTEMPT_NOT_APPLICABLE")
    return none

def deliveryAgeEvent (delivery : Delivery) (order : Order) (result : AgeVerificationResult) :
    AgeVerificationEvent where
  orderId := order.id
  deliveryId := some delivery.id
  phase := .delivery
  result := result
  minimumAge := order.minimumAgeSnapshot

def attemptOutcomeCode : FailedAttemptOutcome -> String
  | .customerUnavailable => "CUSTOMER_UNAVAILABLE"
  | .addressNotFound => "ADDRESS_NOT_FOUND"
  | .customerRefused => "CUSTOMER_REFUSED"
  | .failedAgeVerification => "FAILED_AGE_VERIFICATION"
  | .partialCashNotAllowed => "PARTIAL_CASH_NOT_ALLOWED"
  | .rescheduled => "RESCHEDULED"
  | .otherFailed => "OTHER_FAILED"

def recordAttempt (db : Db) (id : Id) (input : RecordDeliveryAttempt) (actorUserId : Id)
    (now : Int) : Except Failure Db := do
  let operation <- lockDelivery db id
  let delivery := operation.delivery
  let order := operation.order
  assertDeliveryVersion delivery input.expectedVersion
  throwIf (delivery.status ≠ .outForDelivery \/ order.status ≠ .outForDelivery)
    (conflict "DELIVERY_ATTEMPT_NOT_ALLOWED")
  requireWhen (input.outcome = .otherFailed)
    (requireExplanation input.explanation "OTHER_FAILURE_EXPLANATION_REQUIRED")
  let nextAttemptAt <- nextAttempt input.outcome input.nextAttemptAt now
  let target := attemptOutcomeStatus input.outcome
  throwIf (canTransitionDelivery delivery.status target = false)
    (conflict "DELIVERY_ATTEMPT_OUTCOME_NOT_ALLOWED")
  let failedAge := input.outcome = .failedAgeVerification
  let ageResult := if failedAge then .failed else delivery.ageVerificationResult
  let attempt : DeliveryAttempt := {
    deliveryId := delivery.id
    attemptNumber := operation.lastAttemptNumber + 1
    attemptedAt := now
    outcome := input.outcome.recorded
    nextAttemptAt
    ageVerificationResult := ageResult
    cashExpectedMillimes := order.expectedCodMillimes
    cashCollectedMillimes := none
    recordedByUserId := actorUserId }
  let moved <- updateMirroredStatus db order delivery target
    (fun row => { row with nextAttemptAt, ageVerificationResult := ageResult }) (fun _ => rfl)
    (attemptOutcomeCode input.outcome).toList actorUserId
  return { moved with
    attempts := db.attempts ++ [attempt]
    ageEvents := if failedAge then db.ageEvents ++ [deliveryAgeEvent delivery order .failed]
      else db.ageEvents }

def negativeAgeResults : List AgeVerificationResult :=
  [.failed, .refused, .unableToVerify]

def collectedCashStatuses : List CashCollectionStatus :=
  [.collected, .remitted]

def cashPaymentStatuses : List PaymentStatus :=
  [.cashCollectedByCourier, .cashCollectedAtStore, .cashRemitted]

def accountableCashForDeliveryCompletion (discrepancy : Option CashDiscrepancy)
    (collection : CashCollection) : Except Failure Int := do
  let difference <- cashDifference collection.expectedMillimes collection.collectedMillimes
  match discrepancy with
  | none =>
    throwIf (difference ≠ 0 /\ collection.status ∈ collectedCashStatuses)
      (conflict "COD_COLLECTION_DISCREPANCY_LINK_MISSING")
    return if collection.status ∈ collectedCashStatuses then collection.collectedMillimes else 0
  | some discrepancy =>
    throwIf (Not (linked collection discrepancy difference))
      (conflict "COD_COLLECTION_DISCREPANCY_INVALID")
    throwIf (discrepancy.status ≠ .resolved) (conflict "COD_COLLECTION_DISCREPANCY_UNRESOLVED")
    throwIf (Not (collection.status ∈ collectedCashStatuses))
      (conflict "COD_COLLECTION_DISCREPANCY_INVALID")
    return collection.expectedMillimes

inductive CompletionAgeResult where
  | notRequired
  | passed
deriving DecidableEq, Repr

def CompletionAgeResult.recorded : CompletionAgeResult -> AgeVerificationResult
  | .notRequired => .notRequired
  | .passed => .passed

def completionSource (order : Order) : DeliveryStatus :=
  if order.deliveryMethodType = .storePickup then .readyForPickup else .outForDelivery

def negativeEvidence (db : Db) (deliveryId : Id) : Bool :=
  (attemptsOf db deliveryId).any (fun attempt => attempt.outcome == .failedAgeVerification) ||
    db.ageEvents.any fun event =>
      event.deliveryId == some deliveryId && event.phase == .delivery &&
        decide (event.result ∈ negativeAgeResults)

def complete (db : Db) (id : Id) (expectedVersion : Nat) (ageResult : CompletionAgeResult)
    (actorUserId : Id) (now : Int) : Except Failure Db := do
  let operation <- lockDelivery db id
  let delivery := operation.delivery
  let order := operation.order
  assertDeliveryVersion delivery expectedVersion
  throwIf (delivery.status ≠ completionSource order \/ order.status ≠ completionSource order \/
      canTransitionDelivery delivery.status .delivered = false)
    (conflict "DELIVERY_COMPLETION_NOT_ALLOWED")
  throwIf (order.deliveryMethodType = .courier /\ delivery.courierId.isNone)
    (conflict "DELIVERY_COURIER_REQUIRED")
  throwIf (ageResult ≠ if delivery.ageVerificationRequired then .passed else .notRequired)
    (conflict "AGE_VERIFICATION_RESULT_INVALID")
  throwIf (delivery.ageVerificationResult ∈ negativeAgeResults)
    (conflict "AGE_VERIFICATION_FAILURE_TERMINAL")
  throwIf (negativeEvidence db delivery.id) (conflict "AGE_VERIFICATION_FAILURE_TERMINAL")
  let collected <- operation.cashCollections.mapM fun collection =>
    accountableCashForDeliveryCompletion (discrepancyOf db collection.id) collection
  let collectedMillimes := collected.sum
  throwIf (order.expectedCodMillimes > 0 /\ (collectedMillimes ≠ order.expectedCodMillimes \/
      Not (order.paymentStatus ∈ cashPaymentStatuses)))
    (conflict "COD_COLLECTION_REQUIRED")
  let attempt : DeliveryAttempt := {
    deliveryId := delivery.id
    attemptNumber := operation.lastAttemptNumber + 1
    attemptedAt := now
    outcome := .delivered
    nextAttemptAt := none
    ageVerificationResult := ageResult.recorded
    cashExpectedMillimes := order.expectedCodMillimes
    cashCollectedMillimes := some collectedMillimes
    recordedByUserId := actorUserId }
  let moved <- updateMirroredStatus db order delivery .delivered
    (fun row => { row with
      ageVerificationResult := ageResult.recorded
      cashCollectedResult := if order.expectedCodMillimes > 0 then some true else none
      nextAttemptAt := none })
    (fun _ => rfl) "MANUAL_DELIVERY_COMPLETED".toList actorUserId
  return { moved with
    attempts := db.attempts ++ [attempt]
    ageEvents := db.ageEvents ++ [deliveryAgeEvent delivery order ageResult.recorded] }

def completeReturn (db : Db) (id : Id) (expectedVersion : Nat) (reason : Text) (actorUserId : Id) :
    Except Failure Db := do
  let operation <- lockDelivery db id
  let delivery := operation.delivery
  assertDeliveryVersion delivery expectedVersion
  requireExplanation (some reason) "RETURN_EXPLANATION_REQUIRED"
  throwIf (delivery.status ≠ .returnToSender \/ operation.order.status ≠ .returnToSender \/
      canTransitionDelivery delivery.status .returned = false)
    (conflict "DELIVERY_RETURN_COMPLETION_NOT_ALLOWED")
  updateMirroredStatus db operation.order delivery .returned (fun row => row)
    (fun _ => rfl) "RETURN_RECEIVED".toList actorUserId

end VapeCommerce.Delivery.Admin
