import VapeCommerce.Delivery.Admin

set_option autoImplicit false

-- admin-delivery-operations.service.ts: manifests and the status CSV
namespace VapeCommerce.Delivery.Operations

open VapeCommerce.Lib VapeCommerce.Lib.Outcome VapeCommerce.Schema VapeCommerce.Config
open VapeCommerce.Database VapeCommerce.Orders.StateMachine VapeCommerce.Orders.Admin
open VapeCommerce.Delivery.Admin

structure BulkDelivery where
  delivery : Delivery
  order : Order

def bulkDelivery? (db : Db) (id : Id) : Option BulkDelivery := do
  let delivery <- db.deliveries.find? id
  let order <- db.orders.find? delivery.orderId
  return { delivery, order }

def findBulkDeliveries (db : Db) (ids : List Id) : List BulkDelivery :=
  (ids.insertionSort fun left right => left <= right).filterMap (bulkDelivery? db)

-- The same mirrored move as a single transition, with the caller's reason.
def applyDeliveryTransition (db : Db) (bulk : BulkDelivery) (target : DeliveryStatus)
    (reasonCode : Text) (actorUserId : Id) : Except Failure Db :=
  updateMirroredStatus db bulk.order bulk.delivery target (fun row => row) (Table.kept Delivery.id)
    reasonCode actorUserId

def manifestDeliveryIneligible : Failure := conflict "MANIFEST_DELIVERY_INELIGIBLE"

structure CreateDeliveryManifest where
  id : Id
  courierId : Id
  deliveries : List (Id × Nat)

def findActiveCourier (config : Configuration) (courierId : Id) : Option Courier :=
  config.couriers.find? fun courier => courier.id == courierId && courier.active

def assertManifestDelivery (db : Db) (courierId : Id) (requested : Id × Nat) : Except Failure Unit := do
  let bulk <- orThrow (bulkDelivery? db requested.1) (notFound "DELIVERY_NOT_FOUND")
  throwIf (bulk.delivery.version ≠ requested.2) versionConflict
  throwIf (bulk.order.deliveryMethodType ≠ .courier \/ bulk.delivery.courierId ≠ some courierId \/
      bulk.delivery.status ≠ .assignedToCourier \/ bulk.order.status ≠ .assignedToCourier)
    manifestDeliveryIneligible
  throwIf (onActiveManifest db bulk.delivery.id) (conflict "DELIVERY_ALREADY_ON_ACTIVE_MANIFEST")

def createManifest (db : Db) (input : CreateDeliveryManifest) : Except Failure Db := do
  throwIf (findActiveCourier db.config input.courierId).isNone (conflict "COURIER_UNAVAILABLE")
  input.deliveries.forM (assertManifestDelivery db input.courierId)
  throwIf (Not (input.deliveries.map (·.1)).Nodup) (conflict "MANIFEST_CONFLICT")
  let manifests <- create db.manifests {
    id := input.id
    courierId := input.courierId
    status := .draft
    deliveryIds := input.deliveries.map (·.1) }
  return { db with manifests }

def manifestTransitions : ManifestStatus -> List ManifestStatus
  | .draft => [.sealed, .cancelled]
  | .sealed => [.handedOver, .cancelled]
  | .handedOver => [.closed]
  | .closed => []
  | .cancelled => []

def canTransitionManifest (source target : ManifestStatus) : Bool :=
  decide (target ∈ manifestTransitions source)

def assertManifestAssignedDeliveries (deliveries : List BulkDelivery) (courierId : Id) :
    Except Failure Unit :=
  throwIf (deliveries.any fun bulk =>
      bulk.delivery.courierId != some courierId || bulk.delivery.status != .assignedToCourier ||
        bulk.order.status != .assignedToCourier)
    manifestDeliveryIneligible

def handOver (actorUserId : Id) (db : Db) (bulk : BulkDelivery) : Except Failure Db :=
  applyDeliveryTransition db bulk .handedToCourier "MANIFEST_HANDOVER".toList actorUserId

def assertManifestTarget (config : Configuration) (manifest : DeliveryManifest)
    (deliveries : List BulkDelivery) (target : ManifestStatus) : Except Failure Unit := do
  requireWhen (target = .sealed)
    (throwIf (findActiveCourier config manifest.courierId).isNone (conflict "COURIER_UNAVAILABLE"))
  requireWhen (target = .sealed \/ target = .handedOver)
    (assertManifestAssignedDeliveries deliveries manifest.courierId)

def moveManifest (db : Db) (deliveries : List BulkDelivery) (target : ManifestStatus)
    (actorUserId : Id) : Except Failure Db :=
  if target = .handedOver then deliveries.foldlM (handOver actorUserId) db else .ok db

def transitionManifest (db : Db) (id : Id) (expectedStatus target : ManifestStatus)
    (actorUserId : Id) : Except Failure Db := do
  let manifest <- orThrow (db.manifests.find? id) (notFound "MANIFEST_NOT_FOUND")
  throwIf (manifest.status ≠ expectedStatus) (conflict "MANIFEST_VERSION_CONFLICT")
  throwIf (canTransitionManifest manifest.status target = false)
    (conflict "MANIFEST_TRANSITION_NOT_ALLOWED")
  throwIf (manifest.deliveryIds = []) (conflict "MANIFEST_EMPTY")
  let deliveries := findBulkDeliveries db manifest.deliveryIds
  throwIf (deliveries.length ≠ manifest.deliveryIds.length) (conflict "MANIFEST_DELIVERY_MISSING")
  assertManifestTarget db.config manifest deliveries target
  let moved <- moveManifest db deliveries target actorUserId
  throwIf (target = .closed /\ deliveries.any fun bulk =>
      !decide (bulk.delivery.status ∈ terminalDeliveryStatuses))
    (conflict "MANIFEST_DELIVERIES_NOT_TERMINAL")
  let manifests <- updateOne db.manifests
    (fun row => row.id == id && row.status == expectedStatus)
    (fun row => { row with status := target }) (fun _ => rfl) (conflict "MANIFEST_VERSION_CONFLICT")
  return { moved with manifests }

-- An accepted file: its content, and the commands the parser reads from it.
structure DeliveryStatusCsv where
  content : Text
  commands : List DeliveryStatusCsvCommand
  distinct : (commands.map (·.deliveryId)).Nodup
  operational : forall command, command ∈ commands ->
    command.targetStatus ∈ operationalDeliveryTargets
  sized : 1 <= commands.length /\ commands.length <= 500

-- `none` accepts the row.
def validateImportCommand (command : DeliveryStatusCsvCommand) (bulk : Option BulkDelivery) :
    Option String :=
  match bulk with
  | none => some "DELIVERY_NOT_FOUND"
  | some bulk =>
    if bulk.delivery.version ≠ command.expectedVersion then some "VERSION_CONFLICT"
    else if bulk.delivery.status ≠ command.currentStatus then some "DELIVERY_STATUS_CHANGED"
    else if bulk.order.status ≠ bulk.delivery.status then some "DELIVERY_ORDER_STATUS_MISMATCH"
    else if canTransitionDelivery bulk.delivery.status command.targetStatus = false then
      some "DELIVERY_TRANSITION_NOT_ALLOWED"
    else if command.targetStatus ∈ courierRequiredTargets /\ bulk.delivery.courierId.isNone then
      some "DELIVERY_COURIER_REQUIRED"
    else if command.targetStatus ∈ explanationRequiredTargets /\
        Not (command.note.any fun note => (trim note).length >= 4) then
      some "DELIVERY_EXPLANATION_REQUIRED"
    else none

-- Every command is applied to the rows as they were read before the first of them.
def applyCommand (read : Db) (actorUserId : Id) (db : Db) (command : DeliveryStatusCsvCommand) :
    Except Failure Db := do
  let bulk <- orThrow (bulkDelivery? read command.deliveryId) (notFound "DELIVERY_NOT_FOUND")
  applyDeliveryTransition db bulk command.targetStatus
    (command.reasonCode.getD "CSV_STATUS_IMPORT".toList) actorUserId

def applyCommands (db : Db) (applies : Bool) (commands : List DeliveryStatusCsvCommand)
    (actorUserId : Id) : Except Failure Db :=
  if applies then commands.foldlM (applyCommand db actorUserId) db else .ok db

def importStatusCsv (db : Db) (importKey : Text) (dryRun : Bool) (file : DeliveryStatusCsv)
    (actorUserId : Id) : Except Failure (Db × DeliveryStatusImport) := do
  match db.imports.find? fun record => record.importKey == importKey && record.dryRun == dryRun with
  | some record =>
    throwIf (record.payloadHash ≠ file.content) (conflict "DELIVERY_IMPORT_KEY_REUSED")
    return (db, record)
  | none =>
    let rowCodes := file.commands.map fun command =>
      validateImportCommand command (bulkDelivery? db command.deliveryId)
    let applies := !dryRun && rowCodes.all Option.isNone
    let moved <- applyCommands db applies file.commands actorUserId
    let record : DeliveryStatusImport := {
      importKey
      dryRun
      payloadHash := file.content
      rowCodes
      appliedCount := if applies then file.commands.length else 0 }
    return ({ moved with imports := db.imports ++ [record] }, record)

-- A bulk operation repeats single transitions: it keeps what each of them keeps.
section Bulk

variable {keeps : Db -> Prop} {db next : Db} {actorUserId : Id}

theorem moveManifest_keeps {deliveries : List BulkDelivery} {target : ManifestStatus}
    (each : forall state bulk after target reasonCode, keeps state ->
      applyDeliveryTransition state bulk target reasonCode actorUserId = .ok after -> keeps after)
    (start : keeps db) (ran : moveManifest db deliveries target actorUserId = .ok next) :
    keeps next := by
  unfold moveManifest at ran
  split at ran
  next =>
    exact foldlM_keeps keeps (handOver actorUserId) deliveries
      (fun state bulk after _ => each state bulk after _ _) db next start ran
  next => exact Except.ok.inj ran ▸ start

theorem applyCommands_keeps {applies : Bool} {commands : List DeliveryStatusCsvCommand}
    (each : forall state bulk after target reasonCode, keeps state ->
      applyDeliveryTransition state bulk target reasonCode actorUserId = .ok after -> keeps after)
    (start : keeps db) (ran : applyCommands db applies commands actorUserId = .ok next) :
    keeps next := by
  unfold applyCommands at ran
  split at ran
  next =>
    refine foldlM_keeps keeps (applyCommand db actorUserId) commands
      (fun state command after _ kept round => ?_) db next start ran
    simp only [applyCommand, bind_ok] at round
    obtain ⟨bulk, -, moved⟩ := round
    exact each state bulk after _ _ kept moved
  next => exact Except.ok.inj ran ▸ start

theorem importStatusCsv_keeps {importKey : Text} {dryRun : Bool} {file : DeliveryStatusCsv}
    {record : DeliveryStatusImport}
    (each : forall state bulk after target reasonCode, keeps state ->
      applyDeliveryTransition state bulk target reasonCode actorUserId = .ok after -> keeps after)
    (recorded : forall state imports, keeps state -> keeps { state with imports }) (start : keeps db)
    (ran : importStatusCsv db importKey dryRun file actorUserId = .ok (next, record)) :
    keeps next := by
  unfold importStatusCsv at ran
  split at ran
  next =>
    simp only [bind_ok, pure_ok, Prod.mk.injEq] at ran
    obtain ⟨_, -, rfl, -⟩ := ran
    exact start
  next =>
    simp only [bind_ok, pure_ok, Prod.mk.injEq] at ran
    obtain ⟨moved, applied, rfl, -⟩ := ran
    exact recorded moved _ (applyCommands_keeps each start applied)

end Bulk

end VapeCommerce.Delivery.Operations
