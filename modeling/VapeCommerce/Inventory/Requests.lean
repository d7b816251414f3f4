import VapeCommerce.Inventory.Ledger

set_option autoImplicit false

-- `receiveBatch` and `transfer` as their callers see them: a lookup of the idempotency key, one
-- transaction, and a second lookup when the transaction loses the race for the key.
namespace VapeCommerce.Inventory.Requests

open VapeCommerce.Lib VapeCommerce.Lib.Outcome VapeCommerce.Schema VapeCommerce.Database
open VapeCommerce.Inventory.Admin VapeCommerce.Checkout.Catalogue VapeCommerce.System

inductive Request where
  | receipt (input : CreateBatchReceipt) (key : Text) (actorUserId : Id)
  | transfer (sourceId : Id) (input : TransferInventory) (key : Text) (actorUserId : Id)

-- The actor and key that requests of one kind share when one repeats the other.
inductive Slot where
  | receipt (actorUserId : Id) (key : Text)
  | transfer (actorUserId : Id) (key : Text)
deriving DecidableEq

def Request.slot : Request -> Slot
  | .receipt _ key actorUserId => .receipt actorUserId key
  | .transfer _ _ key actorUserId => .transfer actorUserId key

def transferFingerprint (sourceId : Id) (input : TransferInventory) : InventoryFingerprint :=
  .transfer sourceId input.destinationLocationId input.quantity.value input.expectedSourceVersion
    (trimmedOrNull input.note)

def Request.fingerprint : Request -> InventoryFingerprint
  | .receipt input _ _ => batchFingerprint input
  | .transfer sourceId input _ _ => transferFingerprint sourceId input

structure BatchReceiptResponse where
  batch : Option ProductBatch
  movement : StockMovement
  version : Option Nat
  replayed : Bool

structure TransferResponse where
  transfer : InventoryTransfer
  sourceMovement : Option StockMovement
  destinationMovement : Option StockMovement
  replayed : Bool

inductive Response where
  | receipt (response : BatchReceiptResponse)
  | transfer (response : TransferResponse)

-- What was booked, without the bucket's version of the day and the mark of a replay.
inductive Booked where
  | receipt (batch : Option ProductBatch) (movement : StockMovement)
  | transfer (transfer : InventoryTransfer) (sourceMovement destinationMovement : Option StockMovement)
deriving DecidableEq

def Response.booked : Response -> Booked
  | .receipt response => .receipt response.batch response.movement
  | .transfer response => .transfer response.transfer response.sourceMovement response.destinationMovement

def batchOf (db : Db) (movement : StockMovement) : Option ProductBatch :=
  movement.batchId.bind db.batches.find?

def batchReceiptResponse (db : Db) (movement : StockMovement) (replayed : Bool) :
    BatchReceiptResponse where
  batch := batchOf db movement
  movement := movement
  version := (db.items.find? movement.inventoryItemId).map (·.version)
  replayed := replayed

-- `sourceMovementId` and `destinationMovementId`, read back through the movements' reference.
def transferMovement (db : Db) (type : StockMovementType) (transferId : Id) : Option StockMovement :=
  db.movements.find? fun movement => movement.type == type &&
    movement.referenceType == some .inventoryTransfer && movement.referenceId == some transferId

def transferResponse (db : Db) (transfer : InventoryTransfer) (replayed : Bool) : TransferResponse where
  transfer := transfer
  sourceMovement := transferMovement db .transferOut transfer.id
  destinationMovement := transferMovement db .transferIn transfer.id
  replayed := replayed

def recordInvalid : Failure := conflict "INVENTORY_IDEMPOTENCY_RECORD_INVALID"

def answerReceipt (db : Db) : Option StockMovement -> Except Failure (Option Response)
  | none => .ok none
  | some movement => do
    throwIf (batchOf db movement).isNone recordInvalid
    return some (.receipt (batchReceiptResponse db movement true))

def Request.replay (db : Db) : Request -> Except Failure (Option Response)
  | .receipt input key actorUserId => do
    let movement <- replayBatchReceipt db (scopedKey "batch-receipt" actorUserId key)
      (batchFingerprint input)
    answerReceipt db movement
  | .transfer sourceId input key actorUserId => do
    let transfer <- replayTransfer db (scopedKey "transfer" actorUserId key)
      (transferFingerprint sourceId input)
    return transfer.map fun transfer => .transfer (transferResponse db transfer true)

def assertBatchDates (input : CreateBatchReceipt) (now : Int) : Except Failure Unit :=
  throwIf (input.expiryDate <= now - now % millisecondsPerDay \/
      input.manufacturedAt.any (fun manufactured => manufactured >= input.expiryDate))
    (badRequest "INVALID_BATCH_DATES")

-- `idempotencyKeyHash` is a unique column of movements.
def keyTaken (db : Db) (keyHash : ScopedKey) : Bool :=
  db.movements.any fun movement => movement.idempotencyKeyHash == some keyHash

-- The transaction of `receiveBatch`; `now` is when the call looked its key up.
def receiptTransaction (db : Db) (input : CreateBatchReceipt) (key : Text) (actorUserId : Id)
    (now : Int) : Except Failure (Db × Response) := do
  let supplied := input.supplierId.all fun supplierId =>
    db.config.suppliers.any fun supplier => supplier.id == supplierId && supplier.active
  throwIf (Not (openVariant db.config input.variantId && activeLocation db.config input.locationId &&
      supplied))
    (badRequest "INVALID_BATCH_RECEIPT_REFERENCE")
  let (batches, batchId) <- receiptBatch db input now
  let (items, item) <- receiptItem db input batchId
  let keyHash := scopedKey "batch-receipt" actorUserId key
  throwIf (keyTaken db keyHash) uniqueViolation
  let movement := {
    movementOf item .purchaseReceipt input.quantity.value item.onHandQuantity
      .productBatchReceipt batchId actorUserId with
    batchId := some batchId
    idempotencyKeyHash := some keyHash
    requestFingerprint := some (batchFingerprint input) }
  let booked := { db with batches, items, movements := db.movements ++ [movement] }
  return (booked, .receipt (batchReceiptResponse booked movement false))

-- The plain read of the source before the transaction of `transfer`.
def sourceLocation (db : Db) (sourceId : Id) (input : TransferInventory) : Except Failure Id := do
  let source <- orThrow (db.items.find? sourceId) (notFound "INVENTORY_ITEM_NOT_FOUND")
  throwIf (source.locationId = input.destinationLocationId)
    (badRequest "INVENTORY_TRANSFER_SAME_LOCATION")
  return source.locationId

def transferTransaction (db : Db) (locationId sourceId : Id) (input : TransferInventory) (key : Text)
    (actorUserId : Id) (now : Int) : Except Failure (Db × Response) := do
  throwIf (Not (activeLocation db.config locationId &&
      activeLocation db.config input.destinationLocationId))
    (badRequest "INVENTORY_TRANSFER_LOCATION_UNAVAILABLE")
  let source <- orThrow (db.items.find? sourceId) (notFound "INVENTORY_ITEM_NOT_FOUND")
  let destination := findBucket db source.variantId input.destinationLocationId source.lotKey
  throwIf (source.version ≠ input.expectedSourceVersion) Inventory.Admin.versionConflict
  let (sourceOnHandAfter, _) <- calculateInventoryTransfer source.onHandQuantity
    (reservedQuantity db now source.id) ((destination.map (·.onHandQuantity)).getD 0)
    input.quantity.value
  let withdrawn <- updateOne db.items
    (fun row => row.id == source.id && row.version == input.expectedSourceVersion)
    (restocked sourceOnHandAfter) (restocked_id _) Inventory.Admin.versionConflict
  let (items, destinationItem) <- transferDestination withdrawn destination source input
  let outKey := scopedKey "transfer-out" actorUserId key
  let inKey := scopedKey "transfer-in" actorUserId key
  let keyHash := scopedKey "transfer" actorUserId key
  throwIf (keyTaken db outKey \/ keyTaken db inKey) uniqueViolation
  throwIf (db.transfers.rows.any fun other => other.idempotencyKeyHash == keyHash) uniqueViolation
  let transfer : InventoryTransfer := {
    id := input.transferId
    sourceInventoryItemId := source.id
    destinationInventoryItemId := destinationItem.id
    quantity := input.quantity.value
    idempotencyKeyHash := keyHash
    requestFingerprint := transferFingerprint sourceId input
    requestedBy := actorUserId }
  let transfers <- create db.transfers transfer
  let keyed (keyHash : ScopedKey) (movement : StockMovement) : StockMovement :=
    { movement with
      idempotencyKeyHash := some keyHash
      requestFingerprint := some (transferFingerprint sourceId input) }
  let booked := { db with
    items
    transfers
    movements := db.movements ++ [
      keyed outKey (movementOf source .transferOut (-input.quantity.value) sourceOnHandAfter
        .inventoryTransfer input.transferId actorUserId),
      keyed inKey (movementOf destinationItem .transferIn input.quantity.value
        destinationItem.onHandQuantity .inventoryTransfer input.transferId actorUserId)] }
  return (booked, .transfer (transferResponse booked transfer false))

-- A call in progress: before its transaction, or after it lost the race for its key.
inductive Call where
  | receiving (input : CreateBatchReceipt) (key : Text) (actorUserId : Id) (now : Int)
  | transferring (sourceId : Id) (input : TransferInventory) (key : Text) (actorUserId : Id)
  | located (locationId sourceId : Id) (input : TransferInventory) (key : Text) (actorUserId : Id)
  | raced (request : Request)

def Call.request : Call -> Request
  | .receiving input key actorUserId _ => .receipt input key actorUserId
  | .transferring sourceId input key actorUserId | .located _ sourceId input key actorUserId =>
    .transfer sourceId input key actorUserId
  | .raced request => request

inductive Turn where
  | waits (call : Call)
  | commits (response : Response)
  | ends (outcome : Except Failure Response)

def Turn.outcome : Turn -> Option (Except Failure Response)
  | .waits _ => none
  | .commits response => some (.ok response)
  | .ends outcome => some outcome

def Request.starts (db : Db) (now : Int) (request : Request) : Turn :=
  match request.replay db, request with
  | .error failure, _ => .ends (.error failure)
  | .ok (some response), _ => .ends (.ok response)
  | .ok none, .receipt input key actorUserId =>
    match assertBatchDates input now with
    | .error failure => .ends (.error failure)
    | .ok () => .waits (.receiving input key actorUserId now)
  | .ok none, .transfer sourceId input key actorUserId =>
    .waits (.transferring sourceId input key actorUserId)

-- A failed transaction rolls back; only a unique violation has the call look its key up again.
def settled (db : Db) (request : Request) : Except Failure (Db × Response) -> Db × Turn
  | .ok (booked, response) => (booked, .commits response)
  | .error failure =>
    (db, if failure = uniqueViolation then .waits (.raced request) else .ends (.error failure))

def Request.retries (db : Db) (request : Request) : Except Failure Response := do
  let replay <- request.replay db
  orThrow replay uniqueViolation

def Call.proceeds (db : Db) (now : Int) : Call -> Db × Turn
  | .receiving input key actorUserId started =>
    settled db (.receipt input key actorUserId)
      (receiptTransaction db input key actorUserId started)
  | .transferring sourceId input key actorUserId =>
    match sourceLocation db sourceId input with
    | .error failure => (db, .ends (.error failure))
    | .ok locationId => (db, .waits (.located locationId sourceId input key actorUserId))
  | .located locationId sourceId input key actorUserId =>
    settled db (.transfer sourceId input key actorUserId)
      (transferTransaction db locationId sourceId input key actorUserId now)
  | .raced request => (db, .ends (request.retries db))

structure Desk where
  clocked : Clocked
  calls : List Call

def requests : Op -> Bool
  | .receiveBatch .. | .transfer .. => true
  | _ => false

inductive Label where
  | elsewhere (timed : Timed) (plain : requests timed.op = false)
  | starts (elapsed : Nat) (request : Request)
  | proceeds (elapsed index : Nat)

def step (desk : Desk) : Label -> Desk
  | .elsewhere timed _ => { desk with clocked := System.step desk.clocked timed }
  | .starts elapsed request =>
    let now := desk.clocked.now + elapsed
    { clocked := { desk.clocked with now }
      calls := match request.starts desk.clocked.db now with
        | .waits call => desk.calls ++ [call]
        | _ => desk.calls }
  | .proceeds elapsed index =>
    match desk.calls[index]? with
    | none => desk
    | some call =>
      let now := desk.clocked.now + elapsed
      let (db, turn) := call.proceeds desk.clocked.db now
      { clocked := { now, db }
        calls := match turn with
          | .waits call => desk.calls.set index call
          | _ => desk.calls.eraseIdx index }

def opening (config : Config.Configuration) (orderSequence : Option Int) (now : Int) : Desk where
  clocked := System.opening config orderSequence now
  calls := []

-- The call that a step takes further, and the turn it takes.
def turn (desk : Desk) : Label -> Option (Request × Turn)
  | .elsewhere _ _ => none
  | .starts elapsed request =>
    some (request, request.starts desk.clocked.db (desk.clocked.now + elapsed))
  | .proceeds elapsed index => desk.calls[index]?.map fun call =>
    (call.request, (call.proceeds desk.clocked.db (desk.clocked.now + elapsed)).2)

-- The request whose transaction a step commits.
def books (desk : Desk) (label : Label) : Option Request :=
  match turn desk label with
  | some (request, .commits _) => some request
  | _ => none

-- The answer with which a step ends a call.
def answers (desk : Desk) (label : Label) : Option (Request × Except Failure Response) := do
  let (request, taken) <- turn desk label
  let outcome <- taken.outcome
  return (request, outcome)

variable {db next : Db}

theorem taken_iff {keyHash : ScopedKey} : keyTaken db keyHash = true <->
    exists movement, movement ∈ db.movements /\ movement.idempotencyKeyHash = some keyHash := by
  simp [keyTaken]

theorem replay_absent {keyHash : ScopedKey} {fingerprint : InventoryFingerprint}
    (absent : replayBatchReceipt db keyHash fingerprint = .ok none) : keyTaken db keyHash = false := by
  unfold replayBatchReceipt at absent
  split at absent
  next none_found =>
    refine Bool.eq_false_iff.2 fun taken => ?_
    obtain ⟨movement, member, keyed⟩ := taken_iff.1 taken
    have miss := List.find?_eq_none.1 none_found movement member
    simp [keyed] at miss
  next =>
    simp only [bind_ok, pure_ok] at absent
    obtain ⟨_, -, _, -, absent⟩ := absent
    simp at absent

/-- A receipt that nothing interrupts is the operation of the system. -/
theorem receiveBatch_alone {input : CreateBatchReceipt} {key : Text} {actorUserId : Id} {now : Int} :
    let found := replayBatchReceipt db (scopedKey "batch-receipt" actorUserId key)
      (batchFingerprint input)
    receiveBatch db input key actorUserId now = .ok next <->
      (exists movement, found = .ok (some movement) /\ next = db) \/
        (found = .ok none /\ assertBatchDates input now = .ok () /\
          exists response, receiptTransaction db input key actorUserId now = .ok (next, response)) := by
  intro found
  simp only [receiveBatch, bind_ok]
  constructor
  next =>
    rintro ⟨replay, looked, ran⟩
    split at ran
    next present =>
      obtain ⟨movement, rfl⟩ := Option.isSome_iff_exists.1 present
      exact .inl ⟨movement, looked, ((pure_ok _ _).1 ran).symm⟩
    next missing =>
      obtain rfl := Option.not_isSome_iff_eq_none.1 missing
      simp only [bind_ok, pure_ok] at ran
      obtain ⟨⟨⟩, dates, ⟨⟩, references, ⟨batches, batchId⟩, batch, ⟨items, item⟩, bucket, rfl⟩ := ran
      have free : throwIf (keyTaken db (scopedKey "batch-receipt" actorUserId key) = true)
          uniqueViolation = .ok () :=
        throwIf_passes (by simp [replay_absent looked]) _
      simp only [receiptTransaction, bind_ok, pure_ok, Prod.mk.injEq]
      exact .inr ⟨looked, dates, _, (), references, (batches, batchId), batch, (items, item), bucket, (),
        free, rfl, rfl⟩
  next =>
    rintro (⟨movement, looked, rfl⟩ | ⟨looked, dates, response, ran⟩)
    next => exact ⟨_, looked, rfl⟩
    next =>
      refine ⟨none, looked, ?_⟩
      unfold assertBatchDates at dates
      simp only [receiptTransaction, bind_ok, pure_ok, Prod.mk.injEq] at ran
      obtain ⟨⟨⟩, references, ⟨batches, batchId⟩, batch, ⟨items, item⟩, bucket, -, -, rfl, -⟩ := ran
      rw [Option.isSome_none, if_neg (by decide), ok_of_bind dates, ok_of_bind references,
        ok_of_bind batch, ok_of_bind bucket]
      rfl

end VapeCommerce.Inventory.Requests
