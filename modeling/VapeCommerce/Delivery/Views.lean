import VapeCommerce.System

set_option autoImplicit false

-- The delivery services at REPEATABLE READ: what they read comes from the snapshot their first plain
-- read opened, what they write is guarded by the rows as they are at the commit.
namespace VapeCommerce.Delivery.Views

open VapeCommerce.Lib VapeCommerce.Lib.Outcome VapeCommerce.Schema VapeCommerce.Database
open VapeCommerce.Orders.StateMachine VapeCommerce.Orders.Admin VapeCommerce.Cash.Calculations
open VapeCommerce.Cash.Admin VapeCommerce.Delivery.Admin VapeCommerce.Delivery.Operations

abbrev versionConflict : Failure := Delivery.Admin.versionConflict

def assignment (view : View) (action : AssignmentAction) (id : Id) (input : AssignDelivery) :
    Except Failure Db := do
  let operation <- lockDelivery view.snapshot id
  let delivery := operation.delivery
  assertDeliveryVersion delivery input.expectedVersion
  throwIf (operation.order.deliveryMethodType ≠ .courier)
    (conflict "COURIER_ASSIGNMENT_NOT_APPLICABLE")
  throwIf (Not (delivery.status ∈ deliveryAssignmentStatuses) \/
      operation.order.status ≠ delivery.status)
    (conflict "COURIER_ASSIGNMENT_NOT_ALLOWED")
  assertAssignable action delivery input.courierId
  -- The FOR UPDATE read of the courier answers only its id; this one is plain.
  let courier <- orThrow (findActiveCourier view.snapshot.config input.courierId)
    (conflict "COURIER_UNAVAILABLE")
  throwIf (Not courier.available) (conflict "COURIER_OFF_DUTY")
  let warnings := assignmentWarnings courier (activeDeliveryCount view.snapshot courier.id)
    operation.order.deliveryZoneId
  throwIf (warnings.any fun warning => !decide (warning ∈ input.acknowledgedWarnings))
    (conflict "COURIER_ASSIGNMENT_WARNING_ACKNOWLEDGEMENT_REQUIRED")
  let trackingNumber := (input.trackingNumber.map trim).or delivery.trackingNumber
  throwIf (trackingNumber.isSome && view.current.deliveries.rows.any fun other =>
      other.id != delivery.id && other.trackingNumber == trackingNumber)
    (conflict "TRACKING_NUMBER_CONFLICT")
  let deliveries <- updateOne view.current.deliveries
    (fun row => row.id == delivery.id && row.version == input.expectedVersion)
    (fun row => { row with
      courierId := some courier.id
      trackingNumber
      courierFeeMillimes := courierFee courier operation.order.deliveryZoneId
      version := row.version + 1 })
    (Table.kept Delivery.id) versionConflict
  return { view.current with deliveries }

def unassign (view : View) (id : Id) (expectedVersion : Nat) (reason : Text) : Except Failure Db := do
  let operation <- lockDelivery view.snapshot id
  let delivery := operation.delivery
  assertDeliveryVersion delivery expectedVersion
  requireExplanation (some reason) "UNASSIGNMENT_REASON_REQUIRED"
  throwIf (delivery.courierId.isNone \/ Not (delivery.status ∈ courierUnassignmentStatuses) \/
      operation.order.status ≠ delivery.status)
    (conflict "COURIER_UNASSIGNMENT_NOT_ALLOWED")
  throwIf (onActiveManifest view.snapshot delivery.id)
    (conflict "COURIER_UNASSIGNMENT_MANIFEST_ACTIVE")
  let deliveries <- updateOne view.current.deliveries
    (fun row => row.id == delivery.id && row.version == expectedVersion)
    (fun row => { row with
      courierId := none
      trackingNumber := none
      courierFeeMillimes := none
      version := row.version + 1 })
    (Table.kept Delivery.id) versionConflict
  return { view.current with deliveries }

def transition (view : View) (id : Id) (input : TransitionDelivery) (actorUserId : Id) :
    Except Failure Db := do
  let operation <- lockDelivery view.snapshot id
  let delivery := operation.delivery
  let target := input.target.status
  assertDeliveryVersion delivery input.expectedVersion
  throwIf (canTransitionDelivery delivery.status target = false \/
      operation.order.status ≠ delivery.status)
    (conflict "DELIVERY_TRANSITION_NOT_ALLOWED")
  throwIf (target ∈ courierRequiredTargets /\ delivery.courierId.isNone)
    (conflict "DELIVERY_COURIER_REQUIRED")
  requireWhen (target ∈ explanationRequiredTargets)
    (requireExplanation input.explanation "DELIVERY_EXPLANATION_REQUIRED")
  updateMirroredStatus view.current operation.order delivery target (clearNextAttempt target)
    (clearNextAttempt_id target)
    ((trimmedOrNull input.reasonCode).getD "MANUAL_TRANSITION".toList) actorUserId

def recordAttempt (view : View) (id : Id) (input : RecordDeliveryAttempt) (actorUserId : Id)
    (now : Int) : Except Failure Db := do
  let operation <- lockDelivery view.snapshot id
  let delivery := operation.delivery
  let order := operation.order
  assertDeliveryVersion delivery input.expectedVersion
  throwIf (delivery.status ≠ .outForDelivery \/ order.status ≠ .outForDelivery)
    (conflict "DELIVERY_ATTEMPT_NOT_ALLOWED")
  requireWhen (input.outcome = .otherFailed)
    (requireExplanation input.explanation "OTHER_FAILURE_EXPLANATION_REQUIRED")
  let nextAttemptAt <- nextAttempt input.outcome input.nextAttemptAt now
  let target := attemptOutcomeStatus input.outcome
  throwIf (canTransitionDelivery delivery.status target = false)
    (conflict "DELIVERY_ATTEMPT_OUTCOME_NOT_ALLOWED")
  let failedAge := input.outcome = .failedAgeVerification
  let ageResult := if failedAge then .failed else delivery.ageVerificationResult
  let attempt : DeliveryAttempt := {
    deliveryId := delivery.id
    attemptNumber := operation.lastAttemptNumber + 1
    attemptedAt := now
    outcome := input.outcome.recorded
    nextAttemptAt
    ageVerificationResult := ageResult
    cashExpectedMillimes := order.expectedCodMillimes
    cashCollectedMillimes := none
    recordedByUserId := actorUserId }
  let moved <- updateMirroredStatus view.current order delivery target
    (fun row => { row with nextAttemptAt, ageVerificationResult := ageResult }) (Table.kept Delivery.id)
    (attemptOutcomeCode input.outcome).toList actorUserId
  return { moved with
    attempts := view.current.attempts ++ [attempt]
    ageEvents := if failedAge then view.current.ageEvents ++ [deliveryAgeEvent delivery order .failed]
      else view.current.ageEvents }

def complete (view : View) (id : Id) (expectedVersion : Nat) (ageResult : CompletionAgeResult)
    (actorUserId : Id) (now : Int) : Except Failure Db := do
  let operation <- lockDelivery view.snapshot id
  let delivery := operation.delivery
  let order := operation.order
  assertDeliveryVersion delivery expectedVersion
  throwIf (delivery.status ≠ completionSource order \/ order.status ≠ completionSource order \/
      canTransitionDelivery delivery.status .delivered = false)
    (conflict "DELIVERY_COMPLETION_NOT_ALLOWED")
  throwIf (order.deliveryMethodType = .courier /\ delivery.courierId.isNone)
    (conflict "DELIVERY_COURIER_REQUIRED")
  throwIf (ageResult ≠ if delivery.ageVerificationRequired then .passed else .notRequired)
    (conflict "AGE_VERIFICATION_RESULT_INVALID")
  throwIf (delivery.ageVerificationResult ∈ negativeAgeResults)
    (conflict "AGE_VERIFICATION_FAILURE_TERMINAL")
  throwIf (negativeEvidence view.snapshot delivery.id) (conflict "AGE_VERIFICATION_FAILURE_TERMINAL")
  let collected <- operation.cashCollections.mapM fun collection =>
    accountableCashForDeliveryCompletion (discrepancyOf view.snapshot collection.id) collection
  let collectedMillimes := collected.sum
  throwIf (order.expectedCodMillimes > 0 /\ (collectedMillimes ≠ order.expectedCodMillimes \/
      Not (order.paymentStatus ∈ cashPaymentStatuses)))
    (conflict "COD_COLLECTION_REQUIRED")
  let attempt : DeliveryAttempt := {
    deliveryId := delivery.id
    attemptNumber := operation.lastAttemptNumber + 1
    attemptedAt := now
    outcome := .delivered
    nextAttemptAt := none
    ageVerificationResult := ageResult.recorded
    cashExpectedMillimes := order.expectedCodMillimes
    cashCollectedMillimes := some collectedMillimes
    recordedByUserId := actorUserId }
  let moved <- updateMirroredStatus view.current order delivery .delivered
    (fun row => { row with
      ageVerificationResult := ageResult.recorded
      cashCollectedResult := if order.expectedCodMillimes > 0 then some true else none
      nextAttemptAt := none })
    (Table.kept Delivery.id) "MANUAL_DELIVERY_COMPLETED".toList actorUserId
  return { moved with
    attempts := view.current.attempts ++ [attempt]
    ageEvents := view.current.ageEvents ++ [deliveryAgeEvent delivery order ageResult.recorded] }

def completeReturn (view : View) (id : Id) (expectedVersion : Nat) (reason : Text)
    (actorUserId : Id) : Except Failure Db := do
  let operation <- lockDelivery view.snapshot id
  let delivery := operation.delivery
  assertDeliveryVersion delivery expectedVersion
  requireExplanation (some reason) "RETURN_EXPLANATION_REQUIRED"
  throwIf (delivery.status ≠ .returnToSender \/ operation.order.status ≠ .returnToSender \/
      canTransitionDelivery delivery.status .returned = false)
    (conflict "DELIVERY_RETURN_COMPLETION_NOT_ALLOWED")
  updateMirroredStatus view.current operation.order delivery .returned (fun row => row)
    (Table.kept Delivery.id) "RETURN_RECEIVED".toList actorUserId

def createManifest (view : View) (input : CreateDeliveryManifest) : Except Failure Db := do
  throwIf (findActiveCourier view.snapshot.config input.courierId).isNone
    (conflict "COURIER_UNAVAILABLE")
  input.deliveries.forM (assertManifestDelivery view.snapshot input.courierId)
  throwIf (Not (input.deliveries.map (·.1)).Nodup) (conflict "MANIFEST_CONFLICT")
  let manifests <- create view.current.manifests {
    id := input.id
    courierId := input.courierId
    status := .draft
    deliveryIds := input.deliveries.map (·.1) }
  return { view.current with manifests }

def transitionManifest (view : View) (id : Id) (expectedStatus target : ManifestStatus)
    (actorUserId : Id) : Except Failure Db := do
  let manifest <- orThrow (view.snapshot.manifests.find? id) (notFound "MANIFEST_NOT_FOUND")
  throwIf (manifest.status ≠ expectedStatus) (conflict "MANIFEST_VERSION_CONFLICT")
  throwIf (canTransitionManifest manifest.status target = false)
    (conflict "MANIFEST_TRANSITION_NOT_ALLOWED")
  throwIf (manifest.deliveryIds = []) (conflict "MANIFEST_EMPTY")
  let deliveries := findBulkDeliveries view.snapshot manifest.deliveryIds
  throwIf (deliveries.length ≠ manifest.deliveryIds.length) (conflict "MANIFEST_DELIVERY_MISSING")
  assertManifestTarget view.snapshot.config manifest deliveries target
  let moved <- moveManifest view.current deliveries target actorUserId
  throwIf (target = .closed /\ deliveries.any fun bulk =>
      !decide (bulk.delivery.status ∈ terminalDeliveryStatuses))
    (conflict "MANIFEST_DELIVERIES_NOT_TERMINAL")
  let manifests <- updateOne view.current.manifests
    (fun row => row.id == id && row.status == expectedStatus)
    (fun row => { row with status := target }) (Table.kept DeliveryManifest.id)
    (conflict "MANIFEST_VERSION_CONFLICT")
  return { moved with manifests }

def applyCommands (view : View) (applies : Bool) (commands : List DeliveryStatusCsvCommand)
    (actorUserId : Id) : Except Failure Db :=
  if applies then commands.foldlM (applyCommand view.snapshot actorUserId) view.current
  else .ok view.current

-- A key that another import has taken meanwhile is answered by that import.
def importStatusCsv (view : View) (importKey : Text) (dryRun : Bool) (file : DeliveryStatusCsv)
    (actorUserId : Id) : Except Failure (Db × DeliveryStatusImport) := do
  match view.current.imports.find? fun record =>
      record.importKey == importKey && record.dryRun == dryRun with
  | some record =>
    throwIf (record.payloadHash ≠ file.content) (conflict "DELIVERY_IMPORT_KEY_REUSED")
    return (view.current, record)
  | none =>
    let rowCodes := file.commands.map fun command =>
      validateImportCommand command (bulkDelivery? view.snapshot command.deliveryId)
    let applies := !dryRun && rowCodes.all Option.isNone
    let moved <- applyCommands view applies file.commands actorUserId
    let record : DeliveryStatusImport := {
      importKey
      dryRun
      payloadHash := file.content
      rowCodes
      appliedCount := if applies then file.commands.length else 0 }
    return ({ moved with imports := view.current.imports ++ [record] }, record)

inductive DeliveryOp where
  | assign (action : AssignmentAction) (id : Id) (input : AssignDelivery)
  | unassign (id : Id) (expectedVersion : Nat) (reason : Text)
  | transition (id : Id) (input : TransitionDelivery) (actorUserId : Id)
  | recordAttempt (id : Id) (input : RecordDeliveryAttempt) (actorUserId : Id)
  | complete (id : Id) (expectedVersion : Nat) (ageResult : CompletionAgeResult) (actorUserId : Id)
  | completeReturn (id : Id) (expectedVersion : Nat) (reason : Text) (actorUserId : Id)
  | createManifest (input : CreateDeliveryManifest)
  | transitionManifest (id : Id) (expectedStatus target : ManifestStatus) (actorUserId : Id)
  | importStatusCsv (importKey : Text) (dryRun : Bool) (file : DeliveryStatusCsv) (actorUserId : Id)

def DeliveryOp.exec (view : View) (now : Int) : DeliveryOp -> Except Failure Db
  | .assign action id input => assignment view action id input
  | .unassign id version reason => Views.unassign view id version reason
  | .transition id input actor => Views.transition view id input actor
  | .recordAttempt id input actor => Views.recordAttempt view id input actor now
  | .complete id version ageResult actor => Views.complete view id version ageResult actor now
  | .completeReturn id version reason actor => Views.completeReturn view id version reason actor
  | .createManifest input => Views.createManifest view input
  | .transitionManifest id expected target actor => Views.transitionManifest view id expected target actor
  | .importStatusCsv key dryRun file actor => Prod.fst <$> Views.importStatusCsv view key dryRun file actor

-- The same operation of the service, as one transaction of its own.
def DeliveryOp.alone : DeliveryOp -> System.Op
  | .assign action id input => .assign action id input
  | .unassign id version reason => .unassign id version reason
  | .transition id input actor => .transition id input actor
  | .recordAttempt id input actor => .recordAttempt id input actor
  | .complete id version ageResult actor => .complete id version ageResult actor
  | .completeReturn id version reason actor => .completeReturn id version reason actor
  | .createManifest input => .createManifest input
  | .transitionManifest id expected target actor => .transitionManifest id expected target actor
  | .importStatusCsv key dryRun file actor => .importStatusCsv key dryRun file actor

/-- With nothing committed since its first read, a delivery transaction is the atomic operation. -/
theorem exec_latest (db : Db) (now : Int) (op : DeliveryOp) :
    op.exec (View.latest db) now = System.exec db now op.alone := by
  cases op <;> rfl

end VapeCommerce.Delivery.Views
