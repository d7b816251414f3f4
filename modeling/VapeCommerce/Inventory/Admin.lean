import VapeCommerce.Checkout.Catalogue

set_option autoImplicit false

-- admin-inventory.service.ts
namespace VapeCommerce.Inventory.Admin

open VapeCommerce.Lib VapeCommerce.Lib.Outcome VapeCommerce.Schema VapeCommerce.Config
open VapeCommerce.Database VapeCommerce.Checkout.Catalogue

def databaseIntMax : Int := 2147483647

def adjustmentApprovalTtl : Int := 24 * 60 * 60 * 1000

def millisecondsPerDay : Int := 24 * 60 * 60 * 1000

def versionConflict : Failure := conflict "VERSION_CONFLICT"

def invalidResultingStock : Failure := conflict "INVALID_RESULTING_STOCK"

structure StockQuantity where
  value : Int
  bounds : 1 <= value /\ value <= databaseIntMax
deriving DecidableEq

-- `onHandQuantity` and `version` of one row, set together.
def restocked (onHandQuantity : Int) (item : InventoryItem) : InventoryItem :=
  { item with onHandQuantity, version := item.version + 1 }

@[simp]
theorem restocked_id (onHandQuantity : Int) (item : InventoryItem) :
    (restocked onHandQuantity item).id = item.id := rfl

-- A row of a new bucket is unique in its variant, location and lot.
def createBucket (items : Table InventoryItem.id) (item : InventoryItem) :
    Except Failure (Table InventoryItem.id) := do
  throwIf (items.rows.any fun other =>
      other.variantId == item.variantId && other.locationId == item.locationId &&
        other.lotKey == item.lotKey)
    (conflict "INVENTORY_BUCKET_CONFLICT")
  create items item

def findBucket (db : Db) (variantId locationId : Id) (lotKey : Option Id) : Option InventoryItem :=
  db.items.rows.find? fun item =>
    item.variantId == variantId && item.locationId == locationId && item.lotKey == lotKey

def openVariant (config : Configuration) (variantId : Id) : Bool :=
  config.variants.any fun variant =>
    variant.id == variantId && variant.deletedAt.isNone && variant.archivedAt.isNone

def activeLocation (config : Configuration) (locationId : Id) : Bool :=
  config.inventoryLocations.any fun location => location.id == locationId && location.active

structure CreateInventoryItem where
  id : Id
  variantId : Id
  locationId : Id
  batchId : Option Id
  initialQuantity : Int

def movementOf (item : InventoryItem) (type : StockMovementType) (quantityDelta onHandAfter : Int)
    (referenceType : StockReferenceType) (referenceId actorUserId : Id) : StockMovement where
  inventoryItemId := item.id
  locationId := item.locationId
  batchId := item.batchId
  type := type
  quantityDelta := quantityDelta
  onHandAfter := onHandAfter
  referenceType := some referenceType
  referenceId := some referenceId
  actorUserId := some actorUserId
  idempotencyKeyHash := none
  requestFingerprint := none

def createItem (db : Db) (input : CreateInventoryItem) (actorUserId : Id) : Except Failure Db := do
  throwIf (input.initialQuantity ≠ 0) (badRequest "INITIAL_STOCK_RECEIPT_REQUIRED")
  let openBatch := input.batchId.all fun batchId =>
    (db.batches.find? batchId).any fun batch =>
      batch.variantId == input.variantId && batch.archivedAt.isNone
  throwIf (Not (openVariant db.config input.variantId && activeLocation db.config input.locationId &&
      openBatch))
    (badRequest "INVALID_INVENTORY_BUCKET_REFERENCE")
  let item : InventoryItem := {
    id := input.id
    variantId := input.variantId
    locationId := input.locationId
    batchId := input.batchId
    lotKey := input.batchId
    onHandQuantity := input.initialQuantity
    version := 1 }
  let items <- createBucket db.items item
  return { db with
    items
    movements := db.movements ++ [movementOf item .initialStock input.initialQuantity
      input.initialQuantity .inventoryItem item.id actorUserId] }

structure CreateBatchReceipt where
  batchId : Id
  itemId : Id
  variantId : Id
  locationId : Id
  batchNumber : Text
  supplierId : Option Id
  supplierReference : Option Text
  manufacturedAt : Option Int
  expiryDate : Int
  quantity : StockQuantity
  note : Option Text

def batchFingerprint (input : CreateBatchReceipt) : InventoryFingerprint :=
  .batchReceipt input.variantId input.locationId (trim input.batchNumber) input.supplierId
    (trimmedOrNull input.supplierReference) input.manufacturedAt input.expiryDate
    input.quantity.value (trimmedOrNull input.note)

def scopedKey (scope : String) (actorUserId : Id) (key : Text) : ScopedKey where
  scope := scope
  actorUserId := actorUserId
  resourceId := none
  key := key

def idempotencyConflict : Failure := conflict "IDEMPOTENCY_KEY_REUSED"

def sameMetadata (batch : ProductBatch) (input : CreateBatchReceipt) : Bool :=
  batch.archivedAt.isNone && batch.supplierId == input.supplierId &&
    batch.supplierReference == trimmedOrNull input.supplierReference &&
    batch.manufacturedAt == input.manufacturedAt && batch.expiryDate == some input.expiryDate

-- The batch the receipt books on, found by variant and number or created.
def receiptBatch (db : Db) (input : CreateBatchReceipt) (now : Int) :
    Except Failure (Table ProductBatch.id × Id) := do
  let known := db.batches.rows.find? fun batch =>
    batch.variantId == input.variantId && batch.batchNumber == trim input.batchNumber
  match known with
  | some batch =>
    throwIf (Not (sameMetadata batch input)) (conflict "BATCH_METADATA_CONFLICT")
    let batches := db.batches.update (fun row => row.id == batch.id && row.receivedAt.isNone)
      (fun row => { row with receivedAt := some now }) fun _ => rfl
    return (batches, batch.id)
  | none =>
    let batches <- create db.batches {
      id := input.batchId
      variantId := input.variantId
      supplierId := input.supplierId
      batchNumber := trim input.batchNumber
      supplierReference := trimmedOrNull input.supplierReference
      manufacturedAt := input.manufacturedAt
      expiryDate := some input.expiryDate
      receivedAt := some now
      archivedAt := none }
    return (batches, input.batchId)

-- The bucket after the receipt, and the item as it now stands.
def receiptItem (db : Db) (input : CreateBatchReceipt) (batchId : Id) :
    Except Failure (Table InventoryItem.id × InventoryItem) := do
  match findBucket db input.variantId input.locationId (some batchId) with
  | some item =>
    throwIf (item.onHandQuantity > databaseIntMax - input.quantity.value) invalidResultingStock
    let items := db.items.update (fun row => row.id == item.id)
      (restocked (item.onHandQuantity + input.quantity.value)) (restocked_id _)
    return (items, restocked (item.onHandQuantity + input.quantity.value) item)
  | none =>
    let item : InventoryItem := {
      id := input.itemId
      variantId := input.variantId
      locationId := input.locationId
      batchId := some batchId
      lotKey := some batchId
      onHandQuantity := input.quantity.value
      version := 1 }
    let items <- create db.items item
    return (items, item)

-- A replay answers from the stored movement; `none` is a first use of the key.
def replayBatchReceipt (db : Db) (keyHash : ScopedKey) (fingerprint : InventoryFingerprint) :
    Except Failure (Option StockMovement) :=
  match db.movements.find? fun movement => movement.idempotencyKeyHash == some keyHash with
  | none => .ok none
  | some movement => do
    throwIf (movement.requestFingerprint ≠ some fingerprint) idempotencyConflict
    throwIf (movement.type ≠ .purchaseReceipt) (conflict "INVENTORY_IDEMPOTENCY_RECORD_INVALID")
    return some movement

def receiveBatch (db : Db) (input : CreateBatchReceipt) (key : Text) (actorUserId : Id) (now : Int) :
    Except Failure Db := do
  let keyHash := scopedKey "batch-receipt" actorUserId key
  let fingerprint := batchFingerprint input
  let replay <- replayBatchReceipt db keyHash fingerprint
  if replay.isSome then return db
  let receivedDay := now - now % millisecondsPerDay
  throwIf (input.expiryDate <= receivedDay \/
      input.manufacturedAt.any (fun manufactured => manufactured >= input.expiryDate))
    (badRequest "INVALID_BATCH_DATES")
  let supplied := input.supplierId.all fun supplierId =>
    db.config.suppliers.any fun supplier => supplier.id == supplierId && supplier.active
  throwIf (Not (openVariant db.config input.variantId && activeLocation db.config input.locationId &&
      supplied))
    (badRequest "INVALID_BATCH_RECEIPT_REFERENCE")
  let (batches, batchId) <- receiptBatch db input now
  let (items, item) <- receiptItem db input batchId
  return { db with
    batches
    items
    movements := db.movements ++ [{
      movementOf item .purchaseReceipt input.quantity.value item.onHandQuantity
        .productBatchReceipt batchId actorUserId with
      batchId := some batchId
      idempotencyKeyHash := some keyHash
      requestFingerprint := some fingerprint }] }

inductive InventoryAdjustmentOperation where
  | add
  | remove
  | set
deriving DecidableEq, Repr

-- Each operation with the input its validation lets through.
structure ApplyInventoryAdjustment where
  adjustmentId : Id
  operation : InventoryAdjustmentOperation
  quantity : Option Int
  targetOnHandQuantity : Option Int
  reasonCode : InventoryAdjustmentReason
  note : Option Text
  expectedVersion : Nat

def allowedReasons : InventoryAdjustmentOperation -> List InventoryAdjustmentReason
  | .add => [.stockCountCorrection, .other]
  | .remove => [.stockCountCorrection, .damage, .expiry, .other]
  | .set => [.stockCountCorrection, .other]

def assertReasonAllowed (input : ApplyInventoryAdjustment) : Except Failure Unit := do
  throwIf (input.reasonCode = .purchaseReceipt) (badRequest "BATCH_RECEIPT_REQUIRED")
  throwIf (Not (input.reasonCode ∈ allowedReasons input.operation))
    (badRequest "INVALID_INVENTORY_ADJUSTMENT_REASON")
  throwIf (input.reasonCode = .other /\ (trimmedOrNull input.note).isNone)
    (badRequest "INVENTORY_ADJUSTMENT_NOTE_REQUIRED")

structure CalculatedInventoryAdjustment where
  quantityDelta : Int
  onHandAfter : Int

def invalidAdjustmentInput : Failure := badRequest "INVALID_INVENTORY_ADJUSTMENT_INPUT"

def calculateInventoryAdjustment (currentOnHand : Int) (input : ApplyInventoryAdjustment) :
    Except Failure CalculatedInventoryAdjustment :=
  match input.operation, input.quantity, input.targetOnHandQuantity with
  | .set, none, some target => do
    throwIf (target = currentOnHand) (badRequest "ZERO_INVENTORY_ADJUSTMENT")
    return { quantityDelta := target - currentOnHand, onHandAfter := target }
  | .set, _, _ => .error invalidAdjustmentInput
  | operation, some quantity, none => do
    let quantityDelta := if operation = .add then quantity else -quantity
    let onHandAfter := currentOnHand + quantityDelta
    throwIf (onHandAfter < 0 \/ onHandAfter > databaseIntMax) invalidResultingStock
    return { quantityDelta, onHandAfter }
  | _, _, _ => .error invalidAdjustmentInput

def reservedConflict : Failure := conflict "INVENTORY_RESERVED_QUANTITY_CONFLICT"

def adjust (db : Db) (id : Id) (input : ApplyInventoryAdjustment) (actorUserId : Id) (now : Int) :
    Except Failure Db := do
  assertReasonAllowed input
  let current <- orThrow (db.items.find? id) (notFound "INVENTORY_ITEM_NOT_FOUND")
  throwIf (current.version ≠ input.expectedVersion) versionConflict
  let adjustment <- calculateInventoryAdjustment current.onHandQuantity input
  throwIf (adjustment.onHandAfter < reservedQuantity db now id) reservedConflict
  let adjustments <- create db.adjustments {
    id := input.adjustmentId
    inventoryItemId := id
    quantityDelta := adjustment.quantityDelta
    reasonCode := input.reasonCode
    status := .pendingApproval
    requestedBy := actorUserId
    approvedBy := none
    expectedVersion := current.version
    onHandBefore := current.onHandQuantity
    expiresAt := some (now + adjustmentApprovalTtl) }
  return { db with adjustments }

inductive AdjustmentDecision where
  | approve
  | reject
deriving DecidableEq, Repr

-- A decision that ends in an error after its row was written still commits that row.
inductive Decided where
  | result
  | expired
  | stale
deriving DecidableEq, Repr

def decide? (adjustments : Table InventoryAdjustment.id) (id : Id)
    (status : InventoryAdjustmentStatus) (actorUserId : Id) : Table InventoryAdjustment.id :=
  adjustments.update (fun row => row.id == id)
    (fun row => { row with status, approvedBy := some actorUserId }) fun _ => rfl

def adjustmentMovementType (reason : InventoryAdjustmentReason) (quantityDelta : Int) :
    StockMovementType :=
  if quantityDelta > 0 /\ reason = .purchaseReceipt then .purchaseReceipt
  else match reason with
    | .damage => .damage
    | .expiry => .expiry
    | _ => .manualAdjustment

def applyAdjustment (db : Db) (pending : InventoryAdjustment) (current : InventoryItem)
    (actorUserId : Id) (now : Int) : Except Failure Db := do
  let onHandAfter := current.onHandQuantity + pending.quantityDelta
  throwIf (onHandAfter < 0 \/ onHandAfter > databaseIntMax) invalidResultingStock
  throwIf (onHandAfter < reservedQuantity db now current.id) reservedConflict
  let items <- updateOne db.items
    (fun row => row.id == current.id && row.version == pending.expectedVersion)
    (restocked onHandAfter) (restocked_id _) versionConflict
  return { db with
    items
    adjustments := decide? db.adjustments pending.id .applied actorUserId
    movements := db.movements ++ [movementOf current
      (adjustmentMovementType pending.reasonCode pending.quantityDelta) pending.quantityDelta
      onHandAfter .inventoryAdjustment pending.id actorUserId] }

def decideAdjustment (db : Db) (id : Id) (decision : AdjustmentDecision) (reason : Option Text)
    (actorUserId : Id) (now : Int) : Except Failure (Db × Decided) := do
  throwIf (decision = .reject /\ (trimmedOrNull reason).isNone)
    (badRequest "INVENTORY_ADJUSTMENT_REJECTION_REASON_REQUIRED")
  let pending <- orThrow (db.adjustments.find? id) (notFound "INVENTORY_ADJUSTMENT_NOT_FOUND")
  throwIf (pending.requestedBy = actorUserId) (forbidden "INVENTORY_DUAL_CONTROL_REQUIRED")
  if (pending.status = .applied /\ decision = .approve) \/
      (pending.status = .rejected /\ decision = .reject) then return (db, .result)
  throwIf (pending.status ≠ .pendingApproval) (conflict "INVENTORY_ADJUSTMENT_ALREADY_DECIDED")
  if pending.expiresAt.any (fun expiry => expiry <= now) then
    return ({ db with adjustments := decide? db.adjustments id .expired actorUserId }, .expired)
  if decision = .reject then
    return ({ db with adjustments := decide? db.adjustments id .rejected actorUserId }, .result)
  let current <- orThrow (db.items.find? pending.inventoryItemId) (notFound "INVENTORY_ITEM_NOT_FOUND")
  if current.version ≠ pending.expectedVersion \/ current.onHandQuantity ≠ pending.onHandBefore then
    return ({ db with adjustments := decide? db.adjustments id .rejected actorUserId }, .stale)
  let applied <- applyAdjustment db pending current actorUserId now
  return (applied, .result)

structure TransferInventory where
  transferId : Id
  destinationItemId : Id
  destinationLocationId : Id
  quantity : StockQuantity
  expectedSourceVersion : Nat
  note : Option Text

def calculateInventoryTransfer (sourceOnHand sourceReserved destinationOnHand quantity : Int) :
    Except Failure (Int × Int) := do
  throwIf (sourceOnHand - sourceReserved < quantity)
    (conflict "INVENTORY_TRANSFER_AVAILABLE_QUANTITY_CONFLICT")
  throwIf (destinationOnHand > databaseIntMax - quantity) invalidResultingStock
  return (sourceOnHand - quantity, destinationOnHand + quantity)

def replayTransfer (db : Db) (keyHash : ScopedKey) (fingerprint : InventoryFingerprint) :
    Except Failure (Option InventoryTransfer) :=
  match db.transfers.rows.find? fun transfer => transfer.idempotencyKeyHash == keyHash with
  | none => .ok none
  | some transfer => do
    throwIf (transfer.requestFingerprint ≠ fingerprint) idempotencyConflict
    return some transfer

-- The destination bucket after the transfer, and its row.
def transferDestination (items : Table InventoryItem.id) (destination : Option InventoryItem)
    (source : InventoryItem) (input : TransferInventory) :
    Except Failure (Table InventoryItem.id × InventoryItem) :=
  match destination with
  | some destination =>
    let arrived := restocked (destination.onHandQuantity + input.quantity.value) destination
    .ok (items.update (fun row => row.id == destination.id)
      (restocked (destination.onHandQuantity + input.quantity.value)) (restocked_id _),
      arrived)
  | none => do
    let item : InventoryItem := {
      id := input.destinationItemId
      variantId := source.variantId
      locationId := input.destinationLocationId
      batchId := source.batchId
      lotKey := source.lotKey
      onHandQuantity := input.quantity.value
      version := 1 }
    let items <- create items item
    return (items, item)

def transfer (db : Db) (sourceInventoryItemId : Id) (input : TransferInventory) (key : Text)
    (actorUserId : Id) (now : Int) : Except Failure Db := do
  let keyHash := scopedKey "transfer" actorUserId key
  let fingerprint := InventoryFingerprint.transfer sourceInventoryItemId input.destinationLocationId
    input.quantity.value input.expectedSourceVersion (trimmedOrNull input.note)
  let replay <- replayTransfer db keyHash fingerprint
  if replay.isSome then return db
  let source <- orThrow (db.items.find? sourceInventoryItemId) (notFound "INVENTORY_ITEM_NOT_FOUND")
  throwIf (source.locationId = input.destinationLocationId)
    (badRequest "INVENTORY_TRANSFER_SAME_LOCATION")
  throwIf (Not (activeLocation db.config source.locationId &&
      activeLocation db.config input.destinationLocationId))
    (badRequest "INVENTORY_TRANSFER_LOCATION_UNAVAILABLE")
  let destination := findBucket db source.variantId input.destinationLocationId source.lotKey
  throwIf (source.version ≠ input.expectedSourceVersion) versionConflict
  let (sourceOnHandAfter, _) <- calculateInventoryTransfer source.onHandQuantity
    (reservedQuantity db now source.id) ((destination.map (·.onHandQuantity)).getD 0)
    input.quantity.value
  let withdrawn <- updateOne db.items
    (fun row => row.id == source.id && row.version == input.expectedSourceVersion)
    (restocked sourceOnHandAfter) (restocked_id _) versionConflict
  let (items, destinationItem) <- transferDestination withdrawn destination source input
  let transfers <- create db.transfers {
    id := input.transferId
    sourceInventoryItemId := source.id
    destinationInventoryItemId := destinationItem.id
    quantity := input.quantity.value
    idempotencyKeyHash := keyHash
    requestFingerprint := fingerprint
    requestedBy := actorUserId }
  let keyed (scope : String) (movement : StockMovement) : StockMovement :=
    { movement with
      idempotencyKeyHash := some (scopedKey scope actorUserId key)
      requestFingerprint := some fingerprint }
  return { db with
    items
    transfers
    movements := db.movements ++ [
      keyed "transfer-out" (movementOf source .transferOut (-input.quantity.value) sourceOnHandAfter
        .inventoryTransfer input.transferId actorUserId),
      keyed "transfer-in" (movementOf destinationItem .transferIn input.quantity.value
        destinationItem.onHandQuantity .inventoryTransfer input.transferId actorUserId)] }

end VapeCommerce.Inventory.Admin
