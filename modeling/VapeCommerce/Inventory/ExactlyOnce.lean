import VapeCommerce.Inventory.Requests

set_option autoImplicit false

-- Receipts and transfers are booked once, however their calls are retried and interleaved.
namespace VapeCommerce.Inventory.ExactlyOnce

open VapeCommerce.Lib VapeCommerce.Lib.Outcome VapeCommerce.Schema VapeCommerce.Database
open VapeCommerce.Inventory.Admin VapeCommerce.Inventory.Ledger VapeCommerce.Inventory.Requests
open VapeCommerce.System hiding step step_keeps run_keeps opening

-- What is booked under an actor's key: the request's fingerprint and the result.
def Slot.stored (db : Db) : Slot -> Option (Option InventoryFingerprint × Booked)
  | .receipt actorUserId key =>
    (db.movements.find? fun movement =>
      movement.idempotencyKeyHash == some (scopedKey "batch-receipt" actorUserId key)).map
      fun movement => (movement.requestFingerprint, .receipt (batchOf db movement) movement)
  | .transfer actorUserId key =>
    (db.transfers.rows.find? fun transfer =>
      transfer.idempotencyKeyHash == scopedKey "transfer" actorUserId key).map
      fun transfer => (some transfer.requestFingerprint, .transfer transfer
        (transferMovement db .transferOut transfer.id) (transferMovement db .transferIn transfer.id))

-- A receipt has its received batch, and the entries of a transfer have the transfer.
structure Entered (db : Db) (movement : StockMovement) : Prop where
  receipt : forall actorUserId key,
    movement.idempotencyKeyHash = some (scopedKey "batch-receipt" actorUserId key) ->
      movement.type = .purchaseReceipt /\
        exists batch, batchOf db movement = some batch /\ batch.receivedAt.isSome = true
  reference : movement.referenceType = some .inventoryTransfer ->
    exists transfer, transfer ∈ db.transfers.rows /\ movement.referenceId = some transfer.id
  keyed : forall actorUserId key,
    movement.idempotencyKeyHash = some (scopedKey "transfer-out" actorUserId key) \/
        movement.idempotencyKeyHash = some (scopedKey "transfer-in" actorUserId key) ->
      exists transfer, transfer ∈ db.transfers.rows /\
        transfer.idempotencyKeyHash = scopedKey "transfer" actorUserId key

structure Ledgered (db : Db) : Prop where
  entered : forall movement, movement ∈ db.movements -> Entered db movement
  moved : forall transfer, transfer ∈ db.transfers.rows ->
    (transferMovement db .transferOut transfer.id).isSome = true /\
      (transferMovement db .transferIn transfer.id).isSome = true

-- Entries and transfers are only added, and a received batch stays as it is.
structure Onward (db next : Db) : Prop where
  movements : exists added, next.movements = db.movements ++ added
  transfers : exists added, next.transfers.rows = db.transfers.rows ++ added
  batches : forall batch, batch ∈ db.batches.rows -> batch.receivedAt.isSome = true ->
    batch ∈ next.batches.rows

variable {db next : Db}

theorem find?_prefix {A : Type} {chosen : A -> Bool} {old new added : List A} {found : A}
    (extended : new = old ++ added) (here : old.find? chosen = some found) :
    new.find? chosen = some found := by
  rw [extended, List.find?_append, here]
  rfl

theorem Onward.refl (db : Db) : Onward db db :=
  ⟨⟨[], by simp⟩, ⟨[], by simp⟩, fun _ member _ => member⟩

theorem Onward.batch (onward : Onward db next) {movement : StockMovement} {batch : ProductBatch}
    (found : batchOf db movement = some batch) (received : batch.receivedAt.isSome = true) :
    batchOf next movement = some batch := by
  obtain ⟨id, here, there⟩ := Option.bind_eq_some_iff.1 found
  refine Option.bind_eq_some_iff.2 ⟨id, here, ?_⟩
  rw [<- Table.find?_key there]
  exact Table.find?_of_mem (onward.batches batch (Table.find?_mem there) received)

theorem Onward.movement (onward : Onward db next) {type : StockMovementType} {id : Id}
    (found : (transferMovement db type id).isSome = true) :
    transferMovement next type id = transferMovement db type id := by
  obtain ⟨movement, here⟩ := Option.isSome_iff_exists.1 found
  obtain ⟨added, extended⟩ := onward.movements
  rw [here]
  exact find?_prefix extended here

-- What is stored stays, with its fingerprint and its result.
theorem stored_onward {slot : Slot} {stored : Option InventoryFingerprint × Booked}
    (ledgered : Ledgered db) (onward : Onward db next) (here : Slot.stored db slot = some stored) :
    Slot.stored next slot = some stored := by
  cases slot with
  | receipt actorUserId key =>
    obtain ⟨movement, found, rfl⟩ := Option.map_eq_some_iff.1 here
    obtain ⟨added, extended⟩ := onward.movements
    have keyed := List.find?_some found
    have entered := ledgered.entered movement (List.mem_of_find?_eq_some found)
    obtain ⟨-, batch, was, received⟩ := entered.receipt actorUserId key (by simpa using keyed)
    refine Option.map_eq_some_iff.2 ⟨movement, find?_prefix extended found, ?_⟩
    rw [was, onward.batch was received]
  | transfer actorUserId key =>
    obtain ⟨transfer, found, rfl⟩ := Option.map_eq_some_iff.1 here
    obtain ⟨added, extended⟩ := onward.transfers
    obtain ⟨source, destination⟩ := ledgered.moved transfer (List.mem_of_find?_eq_some found)
    refine Option.map_eq_some_iff.2 ⟨transfer, find?_prefix extended found, ?_⟩
    rw [onward.movement source, onward.movement destination]

theorem Entered.onward {movement : StockMovement} (entered : Entered db movement)
    (onward : Onward db next) : Entered next movement := by
  obtain ⟨added, extended⟩ := onward.transfers
  have stays : forall transfer, transfer ∈ db.transfers.rows -> transfer ∈ next.transfers.rows :=
    fun transfer member => extended ▸ List.mem_append_left _ member
  refine ⟨fun actorUserId key is => ?_, fun refers => ?_, fun actorUserId key is => ?_⟩
  next =>
    obtain ⟨type, batch, found, received⟩ := entered.receipt actorUserId key is
    exact ⟨type, batch, onward.batch found received, received⟩
  next => exact (entered.reference refers).imp fun transfer known => ⟨stays transfer known.1, known.2⟩
  next => exact (entered.keyed actorUserId key is).imp fun transfer known => ⟨stays transfer known.1, known.2⟩

theorem Onward.ledgered (onward : Onward db next) (ledgered : Ledgered db)
    (posted : forall movement, movement ∈ next.movements -> movement ∈ db.movements \/ Entered next movement)
    (sent : forall transfer, transfer ∈ next.transfers.rows -> transfer ∈ db.transfers.rows \/
      ((transferMovement next .transferOut transfer.id).isSome = true /\
        (transferMovement next .transferIn transfer.id).isSome = true)) : Ledgered next where
  entered movement member :=
    (posted movement member).elim (fun known => (ledgered.entered movement known).onward onward) id
  moved transfer member := by
    rcases sent transfer member with known | both
    next =>
      obtain ⟨source, destination⟩ := ledgered.moved transfer known
      rw [onward.movement source, onward.movement destination]
      exact ⟨source, destination⟩
    next => exact both

-- An entry that is neither a receipt's nor a transfer's.
def Plain (movement : StockMovement) : Prop :=
  movement.idempotencyKeyHash = none /\ movement.referenceType ≠ some .inventoryTransfer

theorem Plain.entered {movement : StockMovement} (plain : Plain movement) (db : Db) :
    Entered db movement :=
  ⟨fun _ _ is => by simp [plain.1] at is, fun refers => absurd refers plain.2,
    fun _ _ is => by simp [plain.1] at is⟩

theorem plain_extends (ledgered : Ledgered db) (posted : Extends Plain db.movements next.movements)
    (batches : next.batches = db.batches) (transfers : next.transfers = db.transfers) :
    Ledgered next /\ Onward db next := by
  have onward : Onward db next := by
    obtain ⟨added, extended, -⟩ := posted
    exact ⟨⟨added, extended⟩, ⟨[], by rw [transfers, List.append_nil]⟩, fun _ member _ => batches ▸ member⟩
  refine ⟨onward.ledgered ledgered (fun movement member => ?_) fun _ member => .inl (transfers ▸ member),
    onward⟩
  exact (posted.cases member).imp_right fun plain => plain.entered next

theorem exec_onward {now : Int} {op : Op} (ledgered : Ledgered db) (other : requests op = false)
    (ran : exec db now op = .ok next) : Ledgered next /\ Onward db next := by
  have own := exec_ownTables ran
  obtain ⟨added, extended, fits⟩ := exec_extends ran
  have posted : Extends Plain db.movements next.movements := by
    refine ⟨added, extended, fun movement member => ?_⟩
    have posts := fits movement member
    cases op with
    | receiveBatch => simp [requests] at other
    | transfer => simp [requests] at other
    | createItem => exact ⟨posts.2.1, by simp [posts.1]⟩
    | decideAdjustment => exact ⟨posts.2.1, by simp [posts.1]⟩
    | createOrder => exact ⟨posts.2, by simp [posts.1]⟩
    | confirm => exact ⟨posts.2, by simp [posts.1]⟩
    | terminate => exact ⟨posts.2, by simp [posts.1]⟩
    | cancelOrder => exact ⟨posts.2, by simp [posts.1]⟩
    | expireReservations => exact ⟨posts.2, by simp [posts.1]⟩
    | _ => exact posts.elim
  refine plain_extends ledgered posted (own.batches ?_) (own.transfers ?_)
  all_goals cases op <;> simp_all [requests, writesBatches, writesTransfers]

-- What committing a request stores.
structure Commits (db : Db) (request : Request) (next : Db) (response : Response) : Prop where
  ledgered : Ledgered next
  onward : Onward db next
  absent : Slot.stored db request.slot = none
  stored : Slot.stored next request.slot = some (some request.fingerprint, response.booked)

theorem receiptBatch_received {input : CreateBatchReceipt} {now : Int} {batches : Table ProductBatch.id}
    {batchId : Id} (ran : receiptBatch db input now = .ok (batches, batchId)) :
    (forall batch, batch ∈ db.batches.rows -> batch.receivedAt.isSome = true -> batch ∈ batches.rows) /\
      exists batch, batches.find? batchId = some batch /\ batch.receivedAt.isSome = true := by
  simp only [receiptBatch] at ran
  split at ran
  next batch known =>
    simp only [bind_ok, pure_ok, Prod.mk.injEq] at ran
    obtain ⟨⟨⟩, -, rfl, rfl⟩ := ran
    have member := List.mem_of_find?_eq_some known
    refine ⟨fun other there received => ?_, ?_⟩
    next =>
      refine List.mem_map.2 ⟨other, there, Table.rewrite_other ?_⟩
      obtain ⟨at_, is⟩ := Option.isSome_iff_exists.1 received
      simp [is]
    next =>
      refine ⟨_, (Table.find?_iff _ _ _).2 ⟨List.mem_map_of_mem member,
        Table.rewrite_field (fun _ => by rfl) batch⟩, ?_⟩
      cases was : batch.receivedAt with
      | none =>
        rw [Table.rewrite_chosen (by simp [was])]
        rfl
      | some received =>
        rw [Table.rewrite_other (by simp [was])]
        simp [was]
  next =>
    simp only [bind_ok, create_ok, pure_ok, Prod.mk.injEq] at ran
    obtain ⟨created, inserted, rfl, rfl⟩ := ran
    have rows := (Table.insert?_rows inserted).1
    have found := Table.find?_insert? inserted input.batchId
    rw [if_pos rfl] at found
    exact ⟨fun other there _ => by simp [rows, there], _, found, rfl⟩

theorem scopes_differ {scope other : String} {actorUserId otherActor : Id} {key otherKey : Text}
    (apart : scope ≠ other) : scopedKey scope actorUserId key ≠ scopedKey other otherActor otherKey :=
  fun same => apart (congrArg ScopedKey.scope same)

-- What a committed receipt has written.
structure Receives (db : Db) (input : CreateBatchReceipt) (key : Text) (actorUserId : Id) (next : Db)
    (movement : StockMovement) : Prop where
  movements : next.movements = db.movements ++ [movement]
  transfers : next.transfers = db.transfers
  batches : forall batch, batch ∈ db.batches.rows -> batch.receivedAt.isSome = true ->
    batch ∈ next.batches.rows
  type : movement.type = .purchaseReceipt
  reference : movement.referenceType = some .productBatchReceipt
  hash : movement.idempotencyKeyHash = some (scopedKey "batch-receipt" actorUserId key)
  fingerprint : movement.requestFingerprint = some (batchFingerprint input)
  batch : exists batch, batchOf next movement = some batch /\ batch.receivedAt.isSome = true
  free : keyTaken db (scopedKey "batch-receipt" actorUserId key) = false

theorem receiptTransaction_receives {input : CreateBatchReceipt} {key : Text} {actorUserId : Id}
    {now : Int} {response : Response}
    (ran : receiptTransaction db input key actorUserId now = .ok (next, response)) :
    exists movement, Receives db input key actorUserId next movement /\
      response = .receipt (batchReceiptResponse next movement false) := by
  simp only [receiptTransaction, bind_ok, throwIf_ok, pure_ok, Prod.mk.injEq] at ran
  obtain ⟨⟨⟩, -, ⟨batches, batchId⟩, batch, ⟨items, item⟩, -, ⟨⟩, free, rfl, rfl⟩ := ran
  obtain ⟨kept, received, found, marked⟩ := receiptBatch_received batch
  exact ⟨_, {
    movements := rfl
    transfers := rfl
    batches := kept
    type := rfl
    reference := rfl
    hash := rfl
    fingerprint := rfl
    batch := ⟨received, found, marked⟩
    free := Bool.eq_false_iff.2 free }, rfl⟩

theorem Receives.commits {input : CreateBatchReceipt} {key : Text} {actorUserId : Id}
    {movement : StockMovement} (ledgered : Ledgered db)
    (receives : Receives db input key actorUserId next movement) :
    Commits db (.receipt input key actorUserId) next
      (.receipt (batchReceiptResponse next movement false)) := by
  have absent : db.movements.find? (fun movement =>
      movement.idempotencyKeyHash == some (scopedKey "batch-receipt" actorUserId key)) = none := by
    refine List.find?_eq_none.2 fun movement member keyed => Bool.eq_false_iff.1 receives.free ?_
    exact taken_iff.2 ⟨movement, member, beq_iff_eq.1 keyed⟩
  have onward : Onward db next :=
    ⟨⟨_, receives.movements⟩, ⟨[], by simp [receives.transfers]⟩, receives.batches⟩
  refine {
    onward := onward
    absent := by simp only [Request.slot, Slot.stored, absent, Option.map_none]
    stored := ?_
    ledgered := onward.ledgered ledgered (fun other member => ?_) fun _ member =>
      .inl (receives.transfers ▸ member) }
  next =>
    rw [receives.movements, List.mem_append, List.mem_singleton] at member
    rcases member with known | rfl
    next => exact .inl known
    next =>
      refine .inr ⟨fun _ _ _ => ⟨receives.type, receives.batch⟩, fun refers => ?_, fun _ _ is => ?_⟩
      next => simp [receives.reference] at refers
      next =>
        rw [receives.hash] at is
        rcases is with is | is
        all_goals exact absurd (Option.some.inj is) (scopes_differ (by decide))
  next =>
    simp [Request.slot, Slot.stored, receives.movements, List.find?_append, absent, receives.hash,
      receives.fingerprint, Request.fingerprint, Response.booked, batchReceiptResponse]

-- What a committed transfer has written.
structure Transfers (db : Db) (sourceId : Id) (input : TransferInventory) (key : Text)
    (actorUserId : Id) (next : Db) (transfer : InventoryTransfer) (source destination : StockMovement) :
    Prop where
  movements : next.movements = db.movements ++ [source, destination]
  transfers : next.transfers.rows = db.transfers.rows ++ [transfer]
  fresh : forall other, other ∈ db.transfers.rows -> other.id ≠ transfer.id
  batches : next.batches = db.batches
  hash : transfer.idempotencyKeyHash = scopedKey "transfer" actorUserId key
  fingerprint : transfer.requestFingerprint = transferFingerprint sourceId input
  types : source.type = .transferOut /\ destination.type = .transferIn
  references : forall movement, movement ∈ [source, destination] ->
    movement.referenceType = some .inventoryTransfer /\ movement.referenceId = some transfer.id
  keys : source.idempotencyKeyHash = some (scopedKey "transfer-out" actorUserId key) /\
    destination.idempotencyKeyHash = some (scopedKey "transfer-in" actorUserId key)
  free : forall other, other ∈ db.transfers.rows ->
    other.idempotencyKeyHash ≠ scopedKey "transfer" actorUserId key

theorem transferTransaction_transfers {locationId sourceId actorUserId : Id} {input : TransferInventory}
    {key : Text} {now : Int} {response : Response}
    (ran : transferTransaction db locationId sourceId input key actorUserId now = .ok (next, response)) :
    exists transfer source destination,
      Transfers db sourceId input key actorUserId next transfer source destination /\
        response = .transfer (transferResponse next transfer false) := by
  simp only [transferTransaction, bind_ok, throwIf_ok, create_ok, pure_ok, Prod.mk.injEq] at ran
  obtain ⟨⟨⟩, -, source, -, ⟨⟩, -, _, -, withdrawn, -, ⟨items, destinationItem⟩, -, ⟨⟩, -, ⟨⟩, free,
    transfers, inserted, rfl, rfl⟩ := ran
  obtain ⟨rows, fresh⟩ := Table.insert?_rows inserted
  exact ⟨_, _, _, {
    movements := rfl
    transfers := rows
    fresh := fresh
    batches := rfl
    hash := rfl
    fingerprint := rfl
    types := ⟨rfl, rfl⟩
    references := fun movement member => by
      simp only [List.mem_cons, List.not_mem_nil, or_false] at member
      rcases member with rfl | rfl <;> exact ⟨rfl, rfl⟩
    keys := ⟨rfl, rfl⟩
    free := fun other member same => free (List.any_eq_true.2 ⟨other, member, beq_iff_eq.2 same⟩) }, rfl⟩

section Transfers

variable {sourceId actorUserId : Id} {input : TransferInventory} {key : Text}
  {transfer : InventoryTransfer} {source destination : StockMovement} (ledgered : Ledgered db)
  (moves : Transfers db sourceId input key actorUserId next transfer source destination)

include ledgered moves

-- No earlier entry refers to the new transfer, so its own two are the ones that are found.
theorem Transfers.found : transferMovement next .transferOut transfer.id = some source /\
    transferMovement next .transferIn transfer.id = some destination := by
  have unposted : forall type, transferMovement db type transfer.id = none := by
    intro type
    refine List.find?_eq_none.2 fun movement member refers => ?_
    simp only [Bool.and_eq_true, beq_iff_eq] at refers
    obtain ⟨other, known, same⟩ := (ledgered.entered movement member).reference refers.1.2
    exact moves.fresh other known (Option.some.inj (same.symm.trans refers.2))
  have out := moves.references source (by simp)
  have arrived := moves.references destination (by simp)
  simp only [transferMovement] at unposted ⊢
  simp [moves.movements, List.find?_append, unposted, moves.types, out, arrived]

theorem Transfers.commits : Commits db (.transfer sourceId input key actorUserId) next
    (.transfer (transferResponse next transfer false)) := by
  have absent : db.transfers.rows.find? (fun transfer =>
      transfer.idempotencyKeyHash == scopedKey "transfer" actorUserId key) = none :=
    List.find?_eq_none.2 fun other member keyed => moves.free other member (beq_iff_eq.1 keyed)
  have onward : Onward db next :=
    ⟨⟨_, moves.movements⟩, ⟨_, moves.transfers⟩, fun _ member _ => moves.batches ▸ member⟩
  obtain ⟨out, arrived⟩ := moves.found ledgered
  have there : transfer ∈ next.transfers.rows := by simp [moves.transfers]
  refine {
    onward := onward
    absent := by simp only [Request.slot, Slot.stored, absent, Option.map_none]
    stored := ?_
    ledgered := onward.ledgered ledgered (fun movement member => ?_) fun other member => ?_ }
  next =>
    rw [moves.movements, List.mem_append] at member
    refine member.imp_right fun posted => ⟨fun _ _ is => ?_, fun _ => ?_, fun actor other is => ?_⟩
    next =>
      simp only [List.mem_cons, List.not_mem_nil, or_false] at posted
      rcases posted with rfl | rfl
      next => exact absurd (Option.some.inj (moves.keys.1.symm.trans is)) (scopes_differ (by decide))
      next => exact absurd (Option.some.inj (moves.keys.2.symm.trans is)) (scopes_differ (by decide))
    next => exact ⟨transfer, there, (moves.references movement posted).2⟩
    next =>
      refine ⟨transfer, there, moves.hash.trans ?_⟩
      simp only [List.mem_cons, List.not_mem_nil, or_false] at posted
      rcases posted with rfl | rfl <;> simp_all [moves.keys, scopedKey]
  next =>
    rw [moves.transfers, List.mem_append, List.mem_singleton] at member
    refine member.imp_right fun is => ?_
    rw [is, out, arrived]
    exact ⟨rfl, rfl⟩
  next =>
    simp [Request.slot, Slot.stored, moves.transfers, List.find?_append, absent, moves.hash,
      moves.fingerprint, Request.fingerprint, Response.booked, transferResponse]

end Transfers

-- A lookup finds nothing, or what is stored, or refuses a request that differs from it.
structure Replays (db : Db) (request : Request) : Prop where
  absent : Slot.stored db request.slot = none -> request.replay db = .ok none
  same : forall booked, Slot.stored db request.slot = some (some request.fingerprint, booked) ->
    exists response, request.replay db = .ok (some response) /\ response.booked = booked
  differing : forall fingerprint booked, Slot.stored db request.slot = some (fingerprint, booked) ->
    fingerprint ≠ some request.fingerprint -> request.replay db = .error idempotencyConflict

theorem replayBatchReceipt_none {keyHash : ScopedKey} (fingerprint : InventoryFingerprint)
    (absent : db.movements.find? (fun movement => movement.idempotencyKeyHash == some keyHash) = none) :
    replayBatchReceipt db keyHash fingerprint = .ok none := by
  simp only [replayBatchReceipt, absent]

theorem replayBatchReceipt_some {keyHash : ScopedKey} (fingerprint : InventoryFingerprint)
    {movement : StockMovement}
    (found : db.movements.find? (fun movement => movement.idempotencyKeyHash == some keyHash) =
      some movement) :
    replayBatchReceipt db keyHash fingerprint = (do
      throwIf (movement.requestFingerprint ≠ some fingerprint) idempotencyConflict
      throwIf (movement.type ≠ .purchaseReceipt) recordInvalid
      return some movement) := by
  simp only [replayBatchReceipt, found, recordInvalid]

theorem replayTransfer_none {keyHash : ScopedKey} (fingerprint : InventoryFingerprint)
    (absent : db.transfers.rows.find? (fun transfer => transfer.idempotencyKeyHash == keyHash) = none) :
    replayTransfer db keyHash fingerprint = .ok none := by
  simp only [replayTransfer, absent]

theorem replayTransfer_some {keyHash : ScopedKey} (fingerprint : InventoryFingerprint)
    {transfer : InventoryTransfer}
    (found : db.transfers.rows.find? (fun transfer => transfer.idempotencyKeyHash == keyHash) =
      some transfer) :
    replayTransfer db keyHash fingerprint = (do
      throwIf (transfer.requestFingerprint ≠ fingerprint) idempotencyConflict
      return some transfer) := by
  simp only [replayTransfer, found]

theorem receipt_replays (ledgered : Ledgered db) (input : CreateBatchReceipt) (key : Text)
    (actorUserId : Id) : Replays db (.receipt input key actorUserId) := by
  let chosen := fun movement : StockMovement =>
    movement.idempotencyKeyHash == some (scopedKey "batch-receipt" actorUserId key)
  have stored : Slot.stored db (.receipt actorUserId key) = (db.movements.find? chosen).map
      fun movement => (movement.requestFingerprint, .receipt (batchOf db movement) movement) := rfl
  cases found : db.movements.find? chosen with
  | none =>
    have looks := replayBatchReceipt_none (batchFingerprint input) found
    rw [found] at stored
    refine ⟨fun _ => ?_, fun _ is => by simp [Request.slot, stored] at is,
      fun _ _ is => by simp [Request.slot, stored] at is⟩
    exact ok_of_bind looks _
  | some movement =>
    have looks := replayBatchReceipt_some (batchFingerprint input) found
    rw [found] at stored
    have keyed := List.find?_some found
    obtain ⟨type, batch, has, -⟩ := (ledgered.entered movement (List.mem_of_find?_eq_some found)).receipt
      actorUserId key (by simpa [chosen] using keyed)
    refine ⟨fun is => by simp [Request.slot, stored] at is, fun booked is => ?_,
      fun fingerprint booked is apart => ?_⟩
    next =>
      simp only [Request.slot, stored, Option.map_some, Option.some.injEq, Prod.mk.injEq,
        Request.fingerprint] at is
      obtain ⟨same, rfl⟩ := is
      refine ⟨.receipt (batchReceiptResponse db movement true), ?_, rfl⟩
      simp only [Request.replay, looks, same, type, ne_eq, not_true, throwIf]
      simp [answerReceipt, has, throwIf, bind, Except.bind, pure, Except.pure]
    next =>
      simp only [Request.slot, stored, Option.map_some, Option.some.injEq, Prod.mk.injEq] at is
      obtain ⟨rfl, -⟩ := is
      simp only [Request.replay, looks, throwIf, if_pos (show movement.requestFingerprint ≠
        some (batchFingerprint input) from apart)]
      rfl

theorem transfer_replays (sourceId : Id) (input : TransferInventory) (key : Text) (actorUserId : Id) :
    Replays db (.transfer sourceId input key actorUserId) := by
  let chosen := fun transfer : InventoryTransfer =>
    transfer.idempotencyKeyHash == scopedKey "transfer" actorUserId key
  have stored : Slot.stored db (.transfer actorUserId key) = (db.transfers.rows.find? chosen).map
      fun transfer => (some transfer.requestFingerprint, .transfer transfer
        (transferMovement db .transferOut transfer.id) (transferMovement db .transferIn transfer.id)) := rfl
  cases found : db.transfers.rows.find? chosen with
  | none =>
    have looks := replayTransfer_none (transferFingerprint sourceId input) found
    rw [found] at stored
    refine ⟨fun _ => ?_, fun _ is => by simp [Request.slot, stored] at is,
      fun _ _ is => by simp [Request.slot, stored] at is⟩
    exact ok_of_bind looks _
  | some transfer =>
    have looks := replayTransfer_some (transferFingerprint sourceId input) found
    rw [found] at stored
    refine ⟨fun is => by simp [Request.slot, stored] at is, fun booked is => ?_,
      fun fingerprint booked is apart => ?_⟩
    next =>
      simp only [Request.slot, stored, Option.map_some, Option.some.injEq, Prod.mk.injEq,
        Request.fingerprint] at is
      obtain ⟨same, rfl⟩ := is
      refine ⟨.transfer (transferResponse db transfer true), ?_, rfl⟩
      simp [Request.replay, looks, same, throwIf, bind, Except.bind, pure, Except.pure]
    next =>
      simp only [Request.slot, stored, Option.map_some, Option.some.injEq, Prod.mk.injEq,
        Request.fingerprint] at is apart
      obtain ⟨rfl, -⟩ := is
      have differs : transfer.requestFingerprint ≠ transferFingerprint sourceId input := fun same =>
        apart (congrArg some same)
      simp [Request.replay, looks, differs, throwIf, bind, Except.bind]

theorem request_replays (ledgered : Ledgered db) (request : Request) : Replays db request := by
  cases request with
  | receipt input key actorUserId => exact receipt_replays ledgered input key actorUserId
  | transfer sourceId input key actorUserId => exact transfer_replays sourceId input key actorUserId

theorem Replays.found {request : Request} {response : Response} (replays : Replays db request)
    (found : request.replay db = .ok (some response)) :
    Slot.stored db request.slot = some (some request.fingerprint, response.booked) := by
  cases stored : Slot.stored db request.slot with
  | none => simp [replays.absent stored] at found
  | some both =>
    obtain ⟨fingerprint, booked⟩ := both
    by_cases same : fingerprint = some request.fingerprint
    next =>
      subst same
      obtain ⟨response', ran, rfl⟩ := replays.same booked stored
      obtain rfl := Option.some.inj (Except.ok.inj (found.symm.trans ran))
      rfl
    next => simp [replays.differing fingerprint booked stored same] at found

-- What a turn of a call does: it commits the request, or leaves the database as it is.
inductive Took (db : Db) (request : Request) (taken : Turn) (next : Db) : Prop
  | committed (response : Response) (commits : taken = .commits response)
      (stores : Commits db request next response)
  | unchanged (same : next = db) (uncommitted : forall response, taken ≠ .commits response)
      (replayed : forall response, taken = .ends (.ok response) ->
        Slot.stored db request.slot = some (some request.fingerprint, response.booked))

theorem took_none {request : Request} {taken : Turn}
    (uncommitted : forall response, taken ≠ .commits response)
    (unanswered : forall response, taken ≠ .ends (.ok response)) : Took db request taken db :=
  .unchanged rfl uncommitted fun response ends => absurd ends (unanswered response)

theorem settled_took {request : Request} {ran : Except Failure (Db × Response)}
    (commits : forall booked response, ran = .ok (booked, response) -> Commits db request booked response) :
    Took db request (settled db request ran).2 (settled db request ran).1 := by
  cases ran with
  | ok both =>
    obtain ⟨booked, response⟩ := both
    exact .committed response rfl (commits booked response rfl)
  | error failure =>
    simp only [settled]
    split
    next => exact took_none (by simp) (by simp)
    next => exact took_none (by simp) (by simp)

theorem starts_took (ledgered : Ledgered db) (request : Request) (now : Int) :
    Took db request (request.starts db now) db := by
  have replays := request_replays ledgered request
  unfold Request.starts
  split
  next => exact took_none (by simp) (by simp)
  next response found =>
    refine .unchanged rfl (by simp) fun other ends => ?_
    obtain rfl : response = other := by simpa using ends
    exact replays.found found
  next => split <;> exact took_none (by simp) (by simp)
  next => exact took_none (by simp) (by simp)

theorem proceeds_took (ledgered : Ledgered db) (call : Call) (now : Int) :
    Took db call.request (call.proceeds db now).2 (call.proceeds db now).1 := by
  cases call with
  | receiving input key actorUserId started =>
    simp only [Call.proceeds, Call.request]
    refine settled_took fun booked response ran => ?_
    obtain ⟨movement, receives, rfl⟩ := receiptTransaction_receives ran
    exact receives.commits ledgered
  | transferring sourceId input key actorUserId =>
    simp only [Call.proceeds]
    cases sourceLocation db sourceId input with
    | error failure => exact took_none (by simp) (by simp)
    | ok locationId => exact took_none (by simp) (by simp)
  | located locationId sourceId input key actorUserId =>
    simp only [Call.proceeds, Call.request]
    refine settled_took fun booked response ran => ?_
    obtain ⟨transfer, source, destination, moves, rfl⟩ := transferTransaction_transfers ran
    exact moves.commits ledgered
  | raced request =>
    refine .unchanged rfl (by simp [Call.proceeds]) fun response ends =>
      (request_replays ledgered request).found ?_
    simp only [Call.proceeds, Request.retries, Turn.ends.injEq, bind_ok, orThrow_ok] at ends
    obtain ⟨replay, found, rfl⟩ := ends
    exact found

theorem turn_took {desk : Desk} {label : Label} {request : Request} {taken : Turn}
    (ledgered : Ledgered desk.clocked.db) (turns : turn desk label = some (request, taken)) :
    Took desk.clocked.db request taken (step desk label).clocked.db := by
  cases label with
  | elsewhere timed plain => simp [turn] at turns
  | starts elapsed asked =>
    obtain ⟨rfl, rfl⟩ := Prod.mk.inj (Option.some.inj turns)
    exact starts_took ledgered asked _
  | proceeds elapsed index =>
    obtain ⟨call, found, is⟩ := Option.map_eq_some_iff.1 turns
    obtain ⟨rfl, rfl⟩ := Prod.mk.inj is
    simp only [step, found]
    exact proceeds_took ledgered call _

-- A step that takes no call further leaves the database, or is an operation of another kind.
theorem unturned {desk : Desk} {label : Label} (none : turn desk label = none) :
    (step desk label).clocked.db = desk.clocked.db \/
      exists timed : Timed, requests timed.op = false /\
        exec desk.clocked.db (desk.clocked.now + timed.elapsed) timed.op =
          .ok (step desk label).clocked.db := by
  cases label with
  | elsewhere timed plain => exact (step_db desk.clocked timed).imp_right fun ran => ⟨timed, plain, ran⟩
  | starts elapsed asked => simp [turn] at none
  | proceeds elapsed index =>
    have absent : desk.calls[index]? = Option.none := by simpa [turn] using none
    simp [step, absent]

theorem step_onward (desk : Desk) (label : Label) (ledgered : Ledgered desk.clocked.db) :
    Ledgered (step desk label).clocked.db /\ Onward desk.clocked.db (step desk label).clocked.db := by
  cases turns : turn desk label with
  | none =>
    rcases unturned turns with same | ⟨timed, plain, ran⟩
    next =>
      rw [same]
      exact ⟨ledgered, Onward.refl _⟩
    next => exact exec_onward ledgered plain ran
  | some both =>
    cases turn_took ledgered turns with
    | committed response _ stores => exact ⟨stores.ledgered, stores.onward⟩
    | unchanged same =>
      rw [same]
      exact ⟨ledgered, Onward.refl _⟩

theorem books_commits {desk : Desk} {label : Label} {request : Request}
    (ledgered : Ledgered desk.clocked.db) (booked : books desk label = some request) :
    exists response, Commits desk.clocked.db request (step desk label).clocked.db response := by
  unfold books at booked
  split at booked
  next asked response turns =>
    obtain rfl := Option.some.inj booked
    cases turn_took ledgered turns with
    | committed other _ stores => exact ⟨other, stores⟩
    | unchanged _ uncommitted => exact absurd rfl (uncommitted response)
  next => simp at booked

-- A successful answer is what is stored for its request once it is given.
theorem answers_stored {desk : Desk} {label : Label} {request : Request} {response : Response}
    (ledgered : Ledgered desk.clocked.db) (answered : answers desk label = some (request, .ok response)) :
    Slot.stored (step desk label).clocked.db request.slot =
      some (some request.fingerprint, response.booked) := by
  simp only [answers, Option.bind_eq_bind, Option.bind_eq_some_iff, Prod.exists, Option.pure_def,
    Option.some.injEq, Prod.mk.injEq] at answered
  obtain ⟨asked, taken, turns, outcome, ends, rfl, rfl⟩ := answered
  cases turn_took ledgered turns with
  | committed other commits stores =>
    obtain rfl : other = response := by simpa [commits, Turn.outcome] using ends
    exact stores.stored
  | unchanged same uncommitted replayed =>
    rw [same]
    cases taken with
    | waits call => simp [Turn.outcome] at ends
    | commits other => exact absurd rfl (uncommitted other)
    | ends outcome =>
      obtain rfl : outcome = .ok response := by simpa [Turn.outcome] using ends
      exact replayed response rfl

-- The requests that a run books, and the answers it gives, in their order.
def bookings (desk : Desk) : List Label -> List Request
  | [] => []
  | label :: rest => (books desk label).toList ++ bookings (step desk label) rest

def answersOf (desk : Desk) : List Label -> List (Request × Except Failure Response)
  | [] => []
  | label :: rest => (answers desk label).toList ++ answersOf (step desk label) rest

-- Every booking and every successful answer so far is still stored.
structure Accounted (booked : List Request) (given : List (Request × Except Failure Response))
    (desk : Desk) : Prop where
  ledgered : Ledgered desk.clocked.db
  single : (booked.map Request.slot).Nodup
  stored : forall request, request ∈ booked -> Slot.stored desk.clocked.db request.slot ≠ none
  answered : forall request response, (request, .ok response) ∈ given ->
    Slot.stored desk.clocked.db request.slot = some (some request.fingerprint, response.booked)

theorem step_accounted {booked : List Request} {given : List (Request × Except Failure Response)}
    {desk : Desk} (label : Label) (accounted : Accounted booked given desk) :
    Accounted (booked ++ (books desk label).toList) (given ++ (answers desk label).toList)
      (step desk label) := by
  obtain ⟨ledgered, onward⟩ := step_onward desk label accounted.ledgered
  have stays : forall slot, Slot.stored desk.clocked.db slot ≠ none ->
      Slot.stored (step desk label).clocked.db slot ≠ none := by
    intro slot some
    obtain ⟨stored, here⟩ := Option.ne_none_iff_exists'.1 some
    simp [stored_onward accounted.ledgered onward here]
  refine ⟨ledgered, ?_, fun request member => ?_, fun request response member => ?_⟩
  next =>
    cases here : books desk label with
    | none => simpa using accounted.single
    | some request =>
      rw [Option.toList_some, List.map_append, List.nodup_append]
      refine ⟨accounted.single, List.nodup_singleton _, fun slot known other added => ?_⟩
      rintro rfl
      obtain ⟨earlier, listed, rfl⟩ := List.mem_map.1 known
      obtain ⟨response, commits⟩ := books_commits accounted.ledgered here
      have same : earlier.slot = request.slot := by simpa using added
      exact accounted.stored earlier listed (same ▸ commits.absent)
  next =>
    rcases List.mem_append.1 member with known | added
    next => exact stays _ (accounted.stored request known)
    next =>
      obtain ⟨response, commits⟩ := books_commits accounted.ledgered (Option.mem_toList.1 added)
      simp [commits.stored]
  next =>
    rcases List.mem_append.1 member with known | added
    next => exact stored_onward accounted.ledgered onward (accounted.answered request response known)
    next => exact answers_stored accounted.ledgered (Option.mem_toList.1 added)

theorem run_accounted {booked : List Request} {given : List (Request × Except Failure Response)}
    {start : Desk} (labels : List Label) (accounted : Accounted booked given start) :
    Accounted (booked ++ bookings start labels) (given ++ answersOf start labels)
      (Runs.run step start labels) := by
  induction labels generalizing start booked given with
  | nil => simpa [bookings, answersOf] using accounted
  | cons label rest ih =>
    rw [bookings, answersOf, <- List.append_assoc, <- List.append_assoc]
    exact ih (step_accounted label accounted)

theorem opening_accounted (config : Config.Configuration) (orderSequence : Option Int) (now : Int) :
    Accounted [] [] (opening config orderSequence now) where
  ledgered := ⟨by simp [opening, System.opening, Db.empty], by simp [opening, System.opening, Db.empty]⟩
  single := List.nodup_nil
  stored := by simp
  answered := by simp

-- The stock and the ledger change at most once under a key, and all who succeed are told the same.
structure BookedOnce (start : Desk) (labels : List Label) : Prop where
  once : ((bookings start labels).map Request.slot).Nodup
  unchanged : forall before label after request taken, labels = before ++ label :: after ->
    turn (Runs.run step start before) label = some (request, taken) ->
    books (Runs.run step start before) label = none ->
      (step (Runs.run step start before) label).clocked.db = (Runs.run step start before).clocked.db
  same : forall first second told other, (first, .ok told) ∈ answersOf start labels ->
    (second, .ok other) ∈ answersOf start labels -> first.slot = second.slot ->
      first.fingerprint = second.fingerprint /\ told.booked = other.booked

-- A call that ends with a different payload stored under its key.
structure EndsDiffering (start : Desk) (labels before : List Label) (label : Label) (request : Request)
    (outcome : Except Failure Response) : Prop where
  split : exists after, labels = before ++ label :: after
  answers : Requests.answers (Runs.run step start before) label = some (request, outcome)
  stored : exists fingerprint booked,
    Slot.stored (Runs.run step start before).clocked.db request.slot = some (fingerprint, booked) /\
      fingerprint ≠ some request.fingerprint

-- The step is a lookup of the key.
def looks (desk : Desk) : Label -> Bool
  | .elsewhere _ _ => false
  | .starts _ _ => true
  | .proceeds _ index => (desk.calls[index]?).any fun call =>
    match call with
    | .raced _ => true
    | _ => false

def ConflictsAlways (start : Desk) (labels : List Label) : Prop :=
  forall before label request outcome, EndsDiffering start labels before label request outcome ->
    exists failure, outcome = .error failure /\ failure.kind = .conflict

def RefusesDiffering (start : Desk) (labels : List Label) : Prop :=
  forall before label request outcome, EndsDiffering start labels before label request outcome ->
    (step (Runs.run step start before) label).clocked.db = (Runs.run step start before).clocked.db /\
      exists failure, outcome = .error failure /\
        (looks (Runs.run step start before) label = true -> failure = idempotencyConflict)

theorem looks_conflict {desk : Desk} {label : Label} {request : Request} {taken : Turn}
    {fingerprint : Option InventoryFingerprint} {booked : Booked} (ledgered : Ledgered desk.clocked.db)
    (turns : turn desk label = some (request, taken)) (lookup : looks desk label = true)
    (stored : Slot.stored desk.clocked.db request.slot = some (fingerprint, booked))
    (apart : fingerprint ≠ some request.fingerprint) : taken = .ends (.error idempotencyConflict) := by
  have refuses := (request_replays ledgered request).differing fingerprint booked stored apart
  cases label with
  | elsewhere timed plain => simp [turn] at turns
  | starts elapsed asked =>
    obtain ⟨rfl, rfl⟩ := Prod.mk.inj (Option.some.inj turns)
    simp [Request.starts, refuses]
  | proceeds elapsed index =>
    obtain ⟨call, found, is⟩ := Option.map_eq_some_iff.1 turns
    obtain ⟨rfl, rfl⟩ := Prod.mk.inj is
    cases call with
    | raced asked =>
      simp only [Call.request] at refuses
      simp [Call.proceeds, Request.retries, refuses, bind, Except.bind]
    | _ => simp [looks, found] at lookup

theorem refuses_differing {start : Desk} {labels : List Label} (accounted : Accounted [] [] start) :
    RefusesDiffering start labels := by
  intro before label request outcome differing
  have ledgered := (run_accounted before accounted).ledgered
  obtain ⟨fingerprint, booked, stored, apart⟩ := differing.stored
  have answered := differing.answers
  simp only [answers, Option.bind_eq_bind, Option.bind_eq_some_iff, Prod.exists, Option.pure_def,
    Option.some.injEq, Prod.mk.injEq] at answered
  obtain ⟨asked, taken, turns, result, ends, rfl, rfl⟩ := answered
  cases turn_took ledgered turns with
  | committed response _ stores => simp [stores.absent] at stored
  | unchanged same uncommitted replayed =>
    refine ⟨same, ?_⟩
    cases result with
    | ok response =>
      have is : taken = .ends (.ok response) := by
        cases taken with
        | waits call => simp [Turn.outcome] at ends
        | commits other => exact absurd rfl (uncommitted other)
        | ends outcome => simpa [Turn.outcome] using ends
      have found := stored.symm.trans (replayed response is)
      exact absurd (congrArg Prod.fst (Option.some.inj found)) apart
    | error failure =>
      refine ⟨failure, rfl, fun lookup => ?_⟩
      rw [looks_conflict ledgered turns lookup stored apart] at ends
      simpa [Turn.outcome] using ends.symm

theorem booked_once {start : Desk} {labels : List Label} (accounted : Accounted [] [] start) :
    BookedOnce start labels where
  once := by simpa using (run_accounted labels accounted).single
  unchanged before label after request taken split turns unbooked := by
    cases turn_took (run_accounted before accounted).ledgered turns with
    | committed response commits _ => simp [books, turns, commits] at unbooked
    | unchanged same => exact same
  same first second told other one two slots := by
    have answered := (run_accounted labels accounted).answered
    have stored := answered first told (by simpa using one)
    rw [slots, answered second other (by simpa using two)] at stored
    simp only [Option.some.injEq, Prod.mk.injEq] at stored
    exact ⟨stored.1.symm, stored.2.symm⟩

/-- In every run of calls and other operations, a request is booked once, everyone who succeeds is told
what was booked, and a call that differs from it is refused: as a reuse of the key by every lookup. -/
theorem booked_exactly_once (config : Config.Configuration) (orderSequence : Option Int) (now : Int)
    (labels : List Label) :
    BookedOnce (opening config orderSequence now) labels /\
      RefusesDiffering (opening config orderSequence now) labels :=
  ⟨booked_once (opening_accounted config orderSequence now),
    refuses_differing (opening_accounted config orderSequence now)⟩

-- Two receipts under one key: the first to look up is refused by its own check, after the second
-- has booked.
def unavailable : Request :=
  .receipt { Sample.receipt with variantId := 2 } ['k'] 9

def overtaken : List Label :=
  [.starts 1 unavailable, .starts 1 (.receipt Sample.receipt ['k'] 9), .proceeds 1 1]

def refusedOtherwise (answer : Request × Except Failure Response) : Bool :=
  match answer with
  | (request, .error failure) => request.slot == .receipt 9 ['k'] &&
      request.fingerprint == unavailable.fingerprint && failure.kind != .conflict
  | _ => false

theorem overtaken_receipt_refused : Not (forall config orderSequence now labels,
    ConflictsAlways (opening config orderSequence now) labels) := by
  intro claimed
  let start := opening Sample.shop (some 0) 0
  have refused : (answers (Runs.run step start overtaken) (.proceeds 1 0)).any refusedOtherwise = true := by
    decide +kernel
  have stored : (Slot.stored (Runs.run step start overtaken).clocked.db (.receipt 9 ['k'])).any
      (fun both => both.1 != some unavailable.fingerprint) = true := by decide +kernel
  obtain ⟨⟨request, outcome⟩, answered, is⟩ := (Option.any_eq_true _ _).1 refused
  obtain ⟨⟨fingerprint, booked⟩, here, apart⟩ := (Option.any_eq_true _ _).1 stored
  cases outcome with
  | ok response => simp [refusedOtherwise] at is
  | error failure =>
    simp only [refusedOtherwise, Bool.and_eq_true, beq_iff_eq, bne_iff_ne] at is
    obtain ⟨⟨slot, payload⟩, kind⟩ := is
    obtain ⟨_, same, conflict⟩ := claimed Sample.shop (some 0) 0 (overtaken ++ [.proceeds 1 0]) overtaken
      (.proceeds 1 0) request (.error failure) {
        split := ⟨[], rfl⟩
        answers := answered
        stored := ⟨fingerprint, booked, slot ▸ here, payload ▸ bne_iff_ne.1 apart⟩ }
    obtain rfl := Except.error.inj same
    exact kind conflict

-- An unused key is free in every column it would be written to.
theorem absent_free {actorUserId : Id} {key : Text} {fingerprint : InventoryFingerprint}
    (ledgered : Ledgered db)
    (looked : replayTransfer db (scopedKey "transfer" actorUserId key) fingerprint = .ok none) :
    Not (keyTaken db (scopedKey "transfer-out" actorUserId key) = true \/
        keyTaken db (scopedKey "transfer-in" actorUserId key) = true) /\
      Not (db.transfers.rows.any (fun other =>
        other.idempotencyKeyHash == scopedKey "transfer" actorUserId key) = true) := by
  have absent : forall transfer, transfer ∈ db.transfers.rows ->
      transfer.idempotencyKeyHash ≠ scopedKey "transfer" actorUserId key := by
    intro transfer member same
    unfold replayTransfer at looked
    split at looked
    next none_found =>
      have miss := List.find?_eq_none.1 none_found transfer member
      simp [same] at miss
    next =>
      simp only [bind_ok, pure_ok] at looked
      obtain ⟨_, -, looked⟩ := looked
      simp at looked
  refine ⟨fun taken => ?_, fun taken => ?_⟩
  next =>
    simp only [taken_iff] at taken
    have entered : exists transfer, transfer ∈ db.transfers.rows /\
        transfer.idempotencyKeyHash = scopedKey "transfer" actorUserId key := by
      rcases taken with ⟨movement, member, is⟩ | ⟨movement, member, is⟩
      next => exact (ledgered.entered movement member).keyed actorUserId key (.inl is)
      next => exact (ledgered.entered movement member).keyed actorUserId key (.inr is)
    obtain ⟨transfer, known, same⟩ := entered
    exact absent transfer known same
  next =>
    obtain ⟨transfer, known, same⟩ := List.any_eq_true.1 taken
    exact absent transfer known (beq_iff_eq.1 same)

/-- A transfer that nothing interrupts is the operation of the system. -/
theorem transfer_alone {sourceId actorUserId : Id} {input : TransferInventory} {key : Text} {now : Int}
    (ledgered : Ledgered db) :
    let found := replayTransfer db (scopedKey "transfer" actorUserId key) (transferFingerprint sourceId input)
    Admin.transfer db sourceId input key actorUserId now = .ok next <->
      (exists transfer, found = .ok (some transfer) /\ next = db) \/
        (found = .ok none /\ exists locationId response, sourceLocation db sourceId input = .ok locationId /\
          transferTransaction db locationId sourceId input key actorUserId now = .ok (next, response)) := by
  intro found
  simp only [Admin.transfer, bind_ok]
  constructor
  next =>
    rintro ⟨replay, looked, ran⟩
    split at ran
    next present =>
      obtain ⟨transfer, rfl⟩ := Option.isSome_iff_exists.1 present
      exact .inl ⟨transfer, looked, ((pure_ok _ _).1 ran).symm⟩
    next missing =>
      obtain rfl := Option.not_isSome_iff_eq_none.1 missing
      have free := absent_free ledgered looked
      simp only [bind_ok, pure_ok] at ran
      obtain ⟨source, is, ⟨⟩, apart, ⟨⟩, locations, ⟨⟩, version, moved, calculated, withdrawn, withdraws,
        arrival, arrives, transfers, created, rfl⟩ := ran
      have located : sourceLocation db sourceId input = .ok source.locationId := by
        unfold sourceLocation
        rw [ok_of_bind is, ok_of_bind apart]
        rfl
      simp only [transferTransaction, bind_ok, pure_ok, Prod.mk.injEq]
      exact .inr ⟨looked, source.locationId, _, located, (), locations, source, is, (), version, moved,
        calculated, withdrawn, withdraws, arrival, arrives, (), throwIf_passes free.1 _, (),
        throwIf_passes free.2 _, transfers, created, rfl, rfl⟩
  next =>
    rintro (⟨transfer, looked, rfl⟩ | ⟨looked, locationId, response, located, ran⟩)
    next => exact ⟨_, looked, rfl⟩
    next =>
      refine ⟨none, looked, ?_⟩
      simp only [sourceLocation, bind_ok, pure_ok] at located
      obtain ⟨source, is, ⟨⟩, apart, rfl⟩ := located
      simp only [transferTransaction, bind_ok, pure_ok, Prod.mk.injEq] at ran
      obtain ⟨⟨⟩, locations, other, again, ⟨⟩, version, moved, calculated, withdrawn, withdraws, arrival,
        arrives, ⟨⟩, -, ⟨⟩, -, transfers, created, rfl, -⟩ := ran
      obtain rfl := Except.ok.inj (is.symm.trans again)
      rw [Option.isSome_none, if_neg (by decide), ok_of_bind is, ok_of_bind apart, ok_of_bind locations,
        ok_of_bind version, ok_of_bind calculated, ok_of_bind withdraws, ok_of_bind arrives]
      exact ok_of_bind created _

end VapeCommerce.Inventory.ExactlyOnce
