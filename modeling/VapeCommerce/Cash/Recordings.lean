import VapeCommerce.Cash.Outside
import VapeCommerce.Cash.Sessions

set_option autoImplicit false

-- Every call of `recordCollection` in an interleaving, and what a repeated one finds.
namespace VapeCommerce.Cash.Recordings

open VapeCommerce.Lib VapeCommerce.Lib.Outcome VapeCommerce.Schema VapeCommerce.Database
open VapeCommerce.Cash.Calculations VapeCommerce.Cash.Admin VapeCommerce.Cash.Steps
open VapeCommerce.Cash.Remittances VapeCommerce.Cash.Settlement VapeCommerce.Cash.Operations
open VapeCommerce.Cash.Outside VapeCommerce.Cash.Sessions VapeCommerce.Orders.Case
open VapeCommerce.Orders.Progress VapeCommerce.Orders.Onward
open VapeCommerce.System hiding step step_keeps run_keeps opening

structure RecordCall where
  id : Id
  input : RecordRequest
  idempotencyKey : Option Text
  discrepancyId : Id
  actorUserId : Id
deriving DecidableEq

def RecordCall.op (call : RecordCall) : CashOp :=
  .recordCollection call.id call.input call.idempotencyKey call.discrepancyId call.actorUserId

-- What the collection stores of the key; it names the actor and the collection too.
def RecordCall.keyHash (call : RecordCall) : Option ScopedKey :=
  (succeeded (requireIdempotencyKey call.idempotencyKey)).map
    (collectionKeyHash call.actorUserId call.id)

-- The same actor, key and payload for the same collection.
structure Identical (first second : RecordCall) : Prop where
  collection : second.id = first.id
  key : second.keyHash = first.keyHash
  payload : hashed second.input = hashed first.input

def Calls (session : Session) (label : Label) (view : View) (call : RecordCall) : Prop :=
  performed session label = some (view, call.op)

-- The collection as recorded by this call.
def Shows (db : Db) (call : RecordCall) : Prop :=
  exists row, db.collections.find? call.id = some row /\
    row.recordIdempotencyKeyHash.isSome = true /\ row.recordIdempotencyKeyHash = call.keyHash /\
    row.recordRequestHash = some (hashed call.input) /\
    row.collectedMillimes = call.input.collectedMillimes

def recordCall? : CashOp -> Option RecordCall
  | .recordCollection id input idempotencyKey discrepancyId actorUserId =>
    some { id, input, idempotencyKey, discrepancyId, actorUserId }
  | _ => none

-- The call that a step records an amount for: it leaves the collection other than it was.
def records (session : Session) (label : Label) : Option RecordCall :=
  ((performed session label).bind fun performs => recordCall? performs.2).filter fun call =>
    decide ((step session label).clocked.db.collections.find? call.id ≠
      session.clocked.db.collections.find? call.id)

def recordings (start : Session) : List Label -> List RecordCall
  | [] => []
  | label :: rest => (records start label).toList ++ recordings (step start label) rest

-- `requireCollectionDetail` ends the transaction with a plain read, which sees its own writes.
def returned (view : View) (next : Db) (id : Id) : Option CashCollection :=
  if next.collections.find? id = view.current.collections.find? id then
    view.snapshot.collections.find? id
  else next.collections.find? id

-- A call that succeeds and returns the collection as `one` recorded it.
def Answered (view : View) (call one : RecordCall) : Prop :=
  exists next row, call.op.exec view = .ok next /\ returned view next call.id = some row /\
    row.recordIdempotencyKeyHash = one.keyHash /\
    row.recordRequestHash = some (hashed one.input) /\
    row.collectedMillimes = one.input.collectedMillimes

/-- What exactly-once recording asks of a run. -/
structure ExactlyOnce (start : Session) (labels : List Label) : Prop where
  once : ((recordings start labels).map RecordCall.id).Nodup
  retried : forall before label after view call one, labels = before ++ label :: after ->
    Calls (Runs.run step start before) label view call -> one ∈ recordings start before ->
    Identical one call -> Answered view call one
  failing : forall before label after view call next, labels = before ++ label :: after ->
    Calls (Runs.run step start before) label view call -> call.op.exec view = .ok next ->
    records (Runs.run step start before) label = some call \/
      exists one, one ∈ recordings start before /\ Identical one call
  unchanged : forall before label after view call, labels = before ++ label :: after ->
    Calls (Runs.run step start before) label view call ->
    records (Runs.run step start before) label ≠ some call ->
    (step (Runs.run step start before) label).clocked.db = (Runs.run step start before).clocked.db

theorem recordCall?_op {op : CashOp} {call : RecordCall} (is : recordCall? op = some call) :
    op = call.op := by
  cases op with
  | recordCollection =>
    obtain rfl := Option.some.inj is
    rfl
  | _ => simp [recordCall?] at is

theorem records_iff {session : Session} {label : Label} {call : RecordCall} :
    records session label = some call <-> (exists view, Calls session label view call) /\
      (step session label).clocked.db.collections.find? call.id ≠
        session.clocked.db.collections.find? call.id := by
  simp only [records, Option.filter_eq_some_iff, Option.bind_eq_some_iff, decide_eq_true_eq]
  refine and_congr_left fun _ => ⟨?_, ?_⟩
  next =>
    rintro ⟨⟨view, op⟩, performs, is⟩
    obtain rfl := recordCall?_op is
    exact ⟨view, performs⟩
  next =>
    rintro ⟨view, performs⟩
    exact ⟨_, performs, rfl⟩

-- The stored key and request of every collection come from the collection before.
def KeepsKeys (db next : Db) : Prop :=
  forall row, row ∈ next.collections.rows -> exists was, was ∈ db.collections.rows /\
    row.id = was.id /\ row.recordIdempotencyKeyHash = was.recordIdempotencyKeyHash /\
    row.recordRequestHash = was.recordRequestHash

variable {db next : Db} {view : View}

theorem keepsKeys_same (same : next.collections = db.collections) : KeepsKeys db next :=
  fun row member => ⟨row, same ▸ member, rfl, rfl, rfl⟩

theorem keepsKeys_update {guard : CashCollection -> Bool} {change : CashCollection -> CashCollection}
    (rows : next.collections.rows = db.collections.rows.map (Table.rewrite guard change))
    (id : forall row, (change row).id = row.id)
    (key : forall row, (change row).recordIdempotencyKeyHash = row.recordIdempotencyKeyHash)
    (request : forall row, (change row).recordRequestHash = row.recordRequestHash) :
    KeepsKeys db next := by
  intro row member
  rw [rows] at member
  obtain ⟨was, there, rfl⟩ := List.mem_map.1 member
  exact ⟨was, there, Table.rewrite_field id was, Table.rewrite_field key was,
    Table.rewrite_field request was⟩

theorem leavesCash_keys (leaves : LeavesCash db next) : KeepsKeys db next := by
  intro row member
  obtain ⟨was, there, same | ⟨-, same⟩⟩ := leaves.collections row member
  all_goals exact ⟨was, there, by rw [same], by rw [same], by rw [same]⟩

theorem verifies_keys {source : CashRemittanceStatus} {id : Id} {operation : RemittanceOperation}
    (verifies : Verifies view source id operation next) : KeepsKeys view.current next := by
  obtain ⟨events, rows⟩ := verifies.rows
  rw [rows]
  exact keepsKeys_update rfl remitted_id (fun _ => rfl) (fun _ => rfl)

theorem resolveCollectionDiscrepancy_keys {cashCollectionId id actorUserId : Id}
    {input : ResolveCashDiscrepancy}
    (ran : resolveCollectionDiscrepancy view cashCollectionId id input actorUserId = .ok next) :
    KeepsKeys view.current next := by
  simp only [resolveCollectionDiscrepancy, bind_ok, pure_ok] at ran
  obtain ⟨_, -, _, -, _, -, _, -, _, -, _, -, _, -, _, -, _, -, _, -, corrected, corrects, _, -, rfl⟩ := ran
  unfold correctWhenResolved at corrects
  split at corrects
  next =>
    simp only [correctCollection, bind_ok, updateOne_ok] at corrects
    obtain ⟨clear, -, _, ⟨-, rfl⟩, corrects⟩ := corrects
    split at corrects
    next =>
      simp only [bind_ok, pure_ok] at corrects
      obtain ⟨_, -, _, -, rfl⟩ := corrects
      exact keepsKeys_update rfl (fun _ => rfl) (fun _ => rfl) (fun _ => rfl)
    next =>
      obtain rfl := (pure_ok _ _).1 corrects
      exact keepsKeys_update rfl (fun _ => rfl) (fun _ => rfl) (fun _ => rfl)
  next =>
    obtain rfl := Except.ok.inj corrects
    exact keepsKeys_same rfl

-- A recording stores the key and request of its call where none was.
def Stores (call : RecordCall) (db next : Db) : Prop :=
  forall row, row ∈ next.collections.rows -> exists was, was ∈ db.collections.rows /\ row.id = was.id /\
    ((row.recordIdempotencyKeyHash = was.recordIdempotencyKeyHash /\
        row.recordRequestHash = was.recordRequestHash) \/
      (row.id = call.id /\ was.recordIdempotencyKeyHash = none /\
        row.recordIdempotencyKeyHash.isSome = true /\ row.recordIdempotencyKeyHash = call.keyHash /\
        row.recordRequestHash = some (hashed call.input)))

theorem KeepsKeys.stores (keeps : KeepsKeys db next) (call : RecordCall) : Stores call db next := by
  intro row member
  obtain ⟨was, there, id, key, request⟩ := keeps row member
  exact ⟨was, there, id, .inl ⟨key, request⟩⟩

theorem recordCollection_stores {call : RecordCall} (ran : call.op.exec view = .ok next) :
    Stores call view.current next := by
  simp only [RecordCall.op, CashOp.exec, recordCollection, bind_ok] at ran
  obtain ⟨key, valid, operation, locks, ran⟩ := ran
  have hash : call.keyHash = some (collectionKeyHash call.actorUserId call.id key) := by
    simp [RecordCall.keyHash, valid, succeeded]
  split at ran
  next =>
    obtain rfl := (pure_ok _ _).1 ran
    exact KeepsKeys.stores (keepsKeys_same rfl) call
  next =>
    simp only [bind_ok, pure_ok, updateOne_ok] at ran
    obtain ⟨_, -, _, -, _, -, _, -, _, -, _, -, _, -, _, -, _, -, _, -, _, ⟨-, rfl⟩, _, -, _, -, _, -,
      rfl⟩ := ran
    intro row member
    have locked : operation.collection.id = call.id := by
      simp only [lockCollection, bind_ok, orThrow_ok, pure_ok] at locks
      obtain ⟨collection, found, _, -, order, -, rfl⟩ := locks
      exact Table.find?_key found
    obtain ⟨was, there, ⟨hit, rfl⟩ | ⟨-, rfl⟩⟩ := Table.rewrite_mem member
    next =>
      simp only [Bool.and_eq_true, beq_iff_eq, Option.isNone_iff_eq_none] at hit
      exact ⟨was, there, rfl, .inr ⟨hit.1.1.trans locked, hit.2, rfl, hash.symm, rfl⟩⟩
    next => exact ⟨row, there, rfl, .inl ⟨rfl, rfl⟩⟩

theorem cash_keys {op : CashOp} (old : Sums view.snapshot) (sums : Sums view.current)
    (behind : Behind view.snapshot view.current) (ran : op.exec view = .ok next) :
    KeepsKeys view.current next \/ exists call, recordCall? op = some call := by
  cases op with
  | recordCollection => exact .inr ⟨_, rfl⟩
  | createRemittance =>
    obtain ⟨_, _, -, -, -, -, rfl⟩ := (createRemittance_ok old behind ran).rows
    exact .inl (keepsKeys_same rfl)
  | submitRemittance =>
    simp only [CashOp.exec, submitRemittance, bind_ok, pure_ok] at ran
    obtain ⟨_, -, _, -, _, -, _, -, rfl⟩ := ran
    exact .inl (keepsKeys_same rfl)
  | reconcileRemittance =>
    obtain ⟨operation, verifies | disputes⟩ := reconcileRemittance_ok old sums ran
    next => exact .inl (verifies_keys verifies)
    next =>
      obtain ⟨events, rows⟩ := disputes.rows
      exact .inl (keepsKeys_same (by rw [rows]))
  | resolveDiscrepancy id input actorUserId =>
    rcases resolveDiscrepancy_cases ran with ⟨_, collection⟩ | ⟨_, remittance⟩
    next => exact .inl (resolveCollectionDiscrepancy_keys collection)
    next =>
      obtain ⟨row, settles⟩ := resolveRemittanceDiscrepancy_ok old sums behind remittance
      have outcome := settles.outcome
      split at outcome
      next =>
        obtain ⟨operation, verifies⟩ := outcome
        exact .inl (verifies_keys verifies)
      next =>
        obtain ⟨events, rows⟩ := outcome
        exact .inl (keepsKeys_same (by rw [rows]))

-- Every stored key is that of a call in `recorded`, and each of these calls is still stored.
structure Witnessed (recorded : List RecordCall) (session : Session) : Prop where
  steady : Steady session
  shown : forall one, one ∈ recorded -> Shows session.clocked.db one
  stored : forall db, db = session.clocked.db \/ db ∈ session.opened -> forall row,
    row ∈ db.collections.rows -> row.recordIdempotencyKeyHash.isSome = true ->
      exists one, one ∈ recorded /\ one.id = row.id /\ row.recordIdempotencyKeyHash = one.keyHash /\
        row.recordRequestHash = some (hashed one.input)
  single : (recorded.map RecordCall.id).Nodup

theorem shows_case {call : RecordCall} (settled : Settled db) (shows : Shows db call) :
    exists orderId case, IsCase db orderId case /\ case.collection.id = call.id /\
      Not (case.collection.status ∈ unrecordedStatuses) /\
      case.collection.recordIdempotencyKeyHash = call.keyHash /\
      case.collection.recordRequestHash = some (hashed call.input) /\
      case.collection.collectedMillimes = call.input.collectedMillimes := by
  obtain ⟨row, found, some, key, request, amount⟩ := shows
  obtain ⟨case, is, rfl⟩ := settled.linked.case_of_collection (Table.find?_mem found)
  refine ⟨_, case, is, Table.find?_key found, fun fresh => ?_, key, request, amount⟩
  simp [((settled.sound _ case is).unrecorded fresh).key] at some

theorem shows_of_case {call : RecordCall} {orderId : Id} {case : OrderCase} (is : IsCase db orderId case)
    (here : case.collection.id = call.id) (keyed : call.keyHash.isSome = true)
    (key : case.collection.recordIdempotencyKeyHash = call.keyHash)
    (request : case.collection.recordRequestHash = some (hashed call.input))
    (amount : case.collection.collectedMillimes = call.input.collectedMillimes) : Shows db call :=
  ⟨case.collection, here ▸ Table.find?_of_mem is.collection_mem, key ▸ keyed, key, request, amount⟩

-- What a collection shows of its recording stays.
theorem Shows.onward {old new : Db} {call : RecordCall} (sums : Sums old) (behind : Behind old new)
    (shows : Shows old call) : Shows new call := by
  obtain ⟨row, found, some, key', -⟩ := id shows
  obtain ⟨orderId, case, is, here, recorded, key, request, amount⟩ := shows_case sums.settled shows
  obtain ⟨after, there, later⟩ := behind.ahead orderId case is
  have count := later.counted recorded
  exact shows_of_case there (later.collectionId.trans here) (key' ▸ some) (count.key.trans key)
    (count.request.trans request) (count.collected.trans amount)

-- A call that succeeds replays what its snapshot shows, or records where nothing was recorded.
theorem call_cases {call : RecordCall} (old : Sums view.snapshot) (sums : Sums view.current)
    (behind : Behind view.snapshot view.current) (ran : call.op.exec view = .ok next) :
    (next = view.current /\ exists row, view.snapshot.collections.find? call.id = some row /\
        row.recordIdempotencyKeyHash.isSome = true /\ row.recordIdempotencyKeyHash = call.keyHash /\
        row.recordRequestHash = some (hashed call.input)) \/
      (Shows next call /\ forall row, view.current.collections.find? call.id = some row ->
        row.recordIdempotencyKeyHash = none) := by
  obtain ⟨key, orderId, valid, replayed | ⟨case, recording⟩⟩ :=
    recordCollection_ok old.settled sums.settled behind.ahead ran
  all_goals
    have hash : call.keyHash = some (collectionKeyHash call.actorUserId call.id key) := by
      simp [RecordCall.keyHash, valid, succeeded]
  next =>
    obtain ⟨was, replaying, same⟩ := replayed
    have found := Table.find?_of_mem replaying.is.collection_mem
    rw [replaying.collection] at found
    exact .inl ⟨same, was.collection, found, by simp [replaying.key], replaying.key.trans hash.symm,
      replaying.request⟩
  next =>
    right
    obtain ⟨after, there, stored, request, amount⟩ := recording.stored
    obtain ⟨last, writes⟩ := recording.takes.imp fun _ taken => taken.2
    obtain rfl := (writes.here recording.is).unique there
    refine ⟨shows_of_case there (writes.sameCollection.trans recording.collection) (by simp [hash])
      (stored.trans hash.symm) request amount, fun row found => ?_⟩
    have here := Table.find?_of_mem recording.is.collection_mem
    rw [recording.collection] at here
    obtain rfl := Option.some.inj (here.symm.trans found)
    exact ((sums.settled.sound orderId case recording.is).unrecorded (by
      simp [recording.expected, unrecordedStatuses])).key

theorem records_shows {session : Session} {label : Label} {call : RecordCall} (steady : Steady session)
    (here : records session label = some call) : Shows (step session label).clocked.db call /\
      forall row, session.clocked.db.collections.find? call.id = some row ->
        row.recordIdempotencyKeyHash = none := by
  obtain ⟨⟨view, performs⟩, differs⟩ := records_iff.1 here
  obtain ⟨same, old, behind, after⟩ := performed_view steady performs
  rw [<- same] at differs ⊢
  rw [after] at differs ⊢
  have sums : Sums view.current := same ▸ steady.sums
  cases ran : call.op.exec view with
  | error failure => simp [ran, succeeded] at differs
  | ok next =>
    rw [ran] at differs
    rcases call_cases old sums behind ran with ⟨rfl, -⟩ | recorded
    next => exact absurd rfl differs
    next => exact recorded

-- A step stores no key but that of the call it records.
theorem step_stores {session : Session} (label : Label) (steady : Steady session)
    (row : CashCollection) (member : row ∈ (step session label).clocked.db.collections.rows)
    (keyed : row.recordIdempotencyKeyHash.isSome = true) :
    (exists was, was ∈ session.clocked.db.collections.rows /\ was.id = row.id /\
        was.recordIdempotencyKeyHash = row.recordIdempotencyKeyHash /\
        was.recordRequestHash = row.recordRequestHash) \/
      exists call, records session label = some call /\ call.id = row.id /\
        row.recordIdempotencyKeyHash = call.keyHash /\
        row.recordRequestHash = some (hashed call.input) := by
  have kept {db next : Db} (keeps : KeepsKeys db next) (member : row ∈ next.collections.rows) :
      exists was, was ∈ db.collections.rows /\ was.id = row.id /\
        was.recordIdempotencyKeyHash = row.recordIdempotencyKeyHash /\
        was.recordRequestHash = row.recordRequestHash := by
    obtain ⟨was, there, id, key, request⟩ := keeps row member
    exact ⟨was, there, id.symm, key.symm, request.symm⟩
  cases performs : performed session label with
  | none =>
    left
    rcases unperformed performs with same | ⟨timed, -, other, ran⟩
    next => exact kept (keepsKeys_same (by rw [same])) member
    next =>
      rcases exec_outside ran other with leaves | ⟨order, collection, enters⟩
      next => exact kept (leavesCash_keys leaves) member
      next =>
        rw [(Table.insert?_rows enters.collections).1, List.mem_append, List.mem_singleton] at member
        rcases member with known | rfl
        next => exact ⟨row, known, rfl, rfl, rfl⟩
        next => simp [enters.key] at keyed
  | some both =>
    obtain ⟨view, op⟩ := both
    obtain ⟨same, old, behind, after⟩ := performed_view steady performs
    rw [<- same]
    rw [after] at member
    have sums : Sums view.current := same ▸ steady.sums
    cases ran : op.exec view with
    | error failure =>
      rw [ran] at member
      exact .inl ⟨row, member, rfl, rfl, rfl⟩
    | ok next =>
      have reached : (step session label).clocked.db = next := by rw [after, ran]; rfl
      rw [ran] at member
      rcases cash_keys old sums behind ran with keeps | ⟨call, is⟩
      next => exact .inl (kept keeps member)
      next =>
        obtain rfl := recordCall?_op is
        obtain ⟨was, there, id, ⟨key, request⟩ | ⟨here, fresh, -, key, request⟩⟩ :=
          recordCollection_stores ran row member
        next => exact .inl ⟨was, there, id.symm, key.symm, request.symm⟩
        next =>
          refine .inr ⟨call, records_iff.2 ⟨⟨view, performs⟩, fun equal => ?_⟩, here.symm, key, request⟩
          have present : next.collections.find? row.id = some row := Table.find?_of_mem member
          rw [reached, <- same, <- here, present, id, Table.find?_of_mem there] at equal
          obtain rfl := Option.some.inj equal
          simp [fresh] at keyed

theorem step_witnessed {recorded : List RecordCall} {session : Session} (label : Label)
    (witnessed : Witnessed recorded session) :
    Witnessed (recorded ++ (records session label).toList) (step session label) where
  steady := step_steady session label witnessed.steady
  shown one member := by
    rcases List.mem_append.1 member with known | added
    next =>
      exact (witnessed.shown one known).onward witnessed.steady.sums (step_behind label witnessed.steady)
    next => exact (records_shows witnessed.steady (Option.mem_toList.1 added)).1
  stored db among row member keyed := by
    have earlier {db : Db} (before : db = session.clocked.db \/ db ∈ session.opened)
        {row : CashCollection} (member : row ∈ db.collections.rows)
        (keyed : row.recordIdempotencyKeyHash.isSome = true) :
        exists one, one ∈ recorded ++ (records session label).toList /\ one.id = row.id /\
          row.recordIdempotencyKeyHash = one.keyHash /\
          row.recordRequestHash = some (hashed one.input) := by
      obtain ⟨one, known, rest⟩ := witnessed.stored db before row member keyed
      exact ⟨one, List.mem_append_left _ known, rest⟩
    rcases among with rfl | opened
    next =>
      rcases step_stores label witnessed.steady row member keyed with
        ⟨was, there, id, key, request⟩ | ⟨call, here, rest⟩
      next =>
        obtain ⟨one, known, same, stored, asked⟩ := earlier (.inl rfl) there (key ▸ keyed)
        exact ⟨one, known, same.trans id, key ▸ stored, request ▸ asked⟩
      next => exact ⟨call, List.mem_append_right _ (Option.mem_toList.2 here), rest⟩
    next =>
      rcases step_opened opened with known | rfl
      next => exact earlier (.inr known) member keyed
      next => exact earlier (.inl rfl) member keyed
  single := by
    cases here : records session label with
    | none => simpa using witnessed.single
    | some call =>
      rw [Option.toList_some, List.map_append, List.nodup_append]
      refine ⟨witnessed.single, List.nodup_singleton _, fun id known other added => ?_⟩
      rintro rfl
      obtain ⟨one, listed, rfl⟩ := List.mem_map.1 known
      obtain ⟨row, found, some, -⟩ := witnessed.shown one listed
      have same : one.id = call.id := by simpa using added
      have none := (records_shows witnessed.steady here).2 row (same ▸ found)
      simp [none] at some

theorem run_witnessed {recorded : List RecordCall} {start : Session} (labels : List Label)
    (witnessed : Witnessed recorded start) :
    Witnessed (recorded ++ recordings start labels) (Runs.run step start labels) := by
  induction labels generalizing start recorded with
  | nil => simpa [recordings] using witnessed
  | cons label rest ih =>
    rw [recordings, <- List.append_assoc]
    exact ih (step_witnessed label witnessed)

theorem opening_witnessed (config : Config.Configuration) (orderSequence : Option Int) (now : Int) :
    Witnessed [] (opening config orderSequence now) where
  steady := opening_steady config orderSequence now
  shown := by simp
  stored := by simp [opening, System.opening, Db.empty]
  single := by simp

theorem lockCollection_case {orderId : Id} {case : OrderCase} (linked : Linked db)
    (is : IsCase db orderId case) : lockCollection db case.collection.id = .ok (lockedCollection case) := by
  have delivered := is.collection_delivery linked
  simp only [lockCollection, bind_ok, orThrow_ok, throwIf_ok, pure_ok]
  refine ⟨case.collection, Table.find?_of_mem is.collection_mem, (), by simp [delivered], case.order,
    is.collection_order ▸ is.order, ?_⟩
  simp only [lockedCollection, delivered, Option.bind_some, Table.find?_of_mem is.delivery_mem]

theorem keyHash_some {call : RecordCall} {hash : ScopedKey} (same : call.keyHash = some hash) :
    exists key, requireIdempotencyKey call.idempotencyKey = .ok key /\
      collectionKeyHash call.actorUserId call.id key = hash := by
  unfold RecordCall.keyHash at same
  cases valid : requireIdempotencyKey call.idempotencyKey with
  | error failure => simp [valid, succeeded] at same
  | ok key => exact ⟨key, rfl, by simpa [valid, succeeded] using same⟩

-- A snapshot that shows the recording replays it.
theorem retry_replays {one call : RecordCall} (old : Sums view.snapshot) (identical : Identical one call)
    (shows : Shows view.snapshot one) : call.op.exec view = .ok view.current := by
  obtain ⟨row, found, keyed, key, request, -⟩ := shows
  obtain ⟨case, is, rfl⟩ := old.settled.linked.case_of_collection (Table.find?_mem found)
  obtain ⟨hash, stored⟩ := Option.isSome_iff_exists.1 keyed
  obtain ⟨valid, parsed, rfl⟩ := keyHash_some (identical.key.trans (key.symm.trans stored))
  have locks := lockCollection_case old.settled.linked is
  rw [Table.find?_key found, <- identical.collection] at locks
  have replay : case.collection.recordIdempotencyKeyHash =
        some (collectionKeyHash call.actorUserId call.id valid) /\
      case.collection.recordRequestHash = some (hashed call.input) :=
    ⟨stored, identical.payload ▸ request⟩
  simp only [RecordCall.op, CashOp.exec, recordCollection]
  rw [ok_of_bind parsed, ok_of_bind locks]
  exact if_pos replay

theorem retry_answered {one call : RecordCall} (old : Sums view.snapshot) (identical : Identical one call)
    (shows : Shows view.snapshot one) : Answered view call one := by
  have ran := retry_replays old identical shows
  obtain ⟨row, found, -, key, request, amount⟩ := shows
  refine ⟨view.current, row, ran, ?_, key, request, amount⟩
  rw [returned, if_pos rfl, identical.collection, found]

-- A retry that its snapshot does not recognise fails.
theorem retry_shows {one call : RecordCall} (old : Sums view.snapshot) (sums : Sums view.current)
    (behind : Behind view.snapshot view.current) (identical : Identical one call)
    (shown : Shows view.current one) (ran : call.op.exec view = .ok next) : Shows view.snapshot one := by
  obtain ⟨row, present, keyed, -, -, amount⟩ := id shown
  rcases call_cases old sums behind ran with ⟨-, was, found, some, key, request⟩ | ⟨-, fresh⟩
  next =>
    rw [identical.collection] at found
    obtain ⟨case, is, rfl⟩ := old.settled.linked.case_of_collection (Table.find?_mem found)
    have here := Table.find?_key found
    have recorded : Not (case.collection.status ∈ unrecordedStatuses) := fun unrecorded => by
      simp [((old.settled.sound _ case is).unrecorded unrecorded).key] at some
    obtain ⟨after, there, later⟩ := behind.ahead _ case is
    have same := Table.find?_of_mem there.collection_mem
    rw [later.collectionId, here, present] at same
    obtain rfl := Option.some.inj same
    exact ⟨case.collection, found, some, key.trans identical.key, identical.payload ▸ request,
      (later.counted recorded).collected.symm.trans amount⟩
  next => simp [fresh row (identical.collection ▸ present)] at keyed

section Run

variable {start : Session} (witnessed : Witnessed [] start)

include witnessed

theorem reached_witnessed (before : List Label) :
    Witnessed (recordings start before) (Runs.run step start before) :=
  run_witnessed before witnessed

-- A call that succeeds recorded the collection, or repeats the call that did.
theorem success_known {before : List Label} {label : Label} {call : RecordCall}
    (calls : Calls (Runs.run step start before) label view call)
    (ran : call.op.exec view = .ok next) :
    records (Runs.run step start before) label = some call \/
      next = view.current /\ exists one, one ∈ recordings start before /\ Identical one call := by
  have reached := reached_witnessed witnessed before
  obtain ⟨same, old, behind, after⟩ := performed_view reached.steady calls
  have sums : Sums view.current := same ▸ reached.steady.sums
  rcases call_cases old sums behind ran with ⟨unchanged, row, found, keyed, key, request⟩ | ⟨shows, fresh⟩
  next =>
    right
    obtain ⟨case, is, rfl⟩ := old.settled.linked.case_of_collection (Table.find?_mem found)
    have recorded : Not (case.collection.status ∈ unrecordedStatuses) := fun unrecorded => by
      simp [((old.settled.sound _ case is).unrecorded unrecorded).key] at keyed
    obtain ⟨last, there, later⟩ := behind.ahead _ case is
    have count := later.counted recorded
    obtain ⟨one, known, id, stored, asked⟩ := reached.stored _ (.inl rfl) last.collection
      (same ▸ there.collection_mem) (by rw [count.key, keyed])
    refine ⟨unchanged, one, known, ?_, ?_, ?_⟩
    next => rw [id, later.collectionId, Table.find?_key found]
    next => rw [<- stored, count.key, key]
    next => exact Option.some.inj (request.symm.trans (count.request.symm.trans asked))
  next =>
    left
    refine records_iff.2 ⟨⟨view, calls⟩, ?_⟩
    obtain ⟨row, found, keyed, -⟩ := shows
    rw [after, ran, <- same]
    intro equal
    have here : next.collections.find? call.id = view.current.collections.find? call.id := equal
    simp [fresh row (here ▸ found)] at keyed

theorem unrecorded_same {before : List Label} {label : Label} {call : RecordCall}
    (calls : Calls (Runs.run step start before) label view call)
    (other : records (Runs.run step start before) label ≠ some call) :
    (step (Runs.run step start before) label).clocked.db = (Runs.run step start before).clocked.db := by
  have reached := reached_witnessed witnessed before
  obtain ⟨same, -, -, after⟩ := performed_view reached.steady calls
  rw [after]
  cases ran : call.op.exec view with
  | error failure => exact same
  | ok next =>
    rcases success_known witnessed calls ran with recorded | ⟨unchanged, -⟩
    next => exact absurd recorded other
    next =>
      rw [<- same, <- unchanged]
      rfl

end Run

/-- Recording is exactly-once in a run exactly when every repeated call of it has a snapshot that
shows the recording. -/
theorem recording_exactly_once_iff (config : Config.Configuration) (orderSequence : Option Int)
    (now : Int) (labels : List Label) :
    let start := opening config orderSequence now
    ExactlyOnce start labels <->
      forall before label after view call one, labels = before ++ label :: after ->
        Calls (Runs.run step start before) label view call -> one ∈ recordings start before ->
        Identical one call -> Shows view.snapshot one := by
  intro start
  have witnessed : Witnessed [] start := opening_witnessed config orderSequence now
  constructor
  next =>
    intro exact before label after view call one split calls recorded identical
    have reached := reached_witnessed witnessed before
    obtain ⟨same, old, behind, -⟩ := performed_view reached.steady calls
    obtain ⟨next, -, ran, -⟩ :=
      exact.retried before label after view call one split calls recorded identical
    exact retry_shows old (same ▸ reached.steady.sums) behind identical
      (same ▸ reached.shown one recorded) ran
  next =>
    intro shown
    refine { once := ?_, retried := ?_, failing := ?_, unchanged := ?_ }
    next => simpa using (reached_witnessed witnessed labels).single
    next =>
      intro before label after view call one split calls recorded identical
      have shows := shown before label after view call one split calls recorded identical
      obtain ⟨-, old, -⟩ := performed_view (reached_witnessed witnessed before).steady calls
      exact retry_answered old identical shows
    next =>
      intro before label after view call next _ calls ran
      exact (success_known witnessed calls ran).imp_right And.right
    next =>
      intro before label after view call _ calls other
      exact unrecorded_same witnessed calls other

-- Two identical calls both start before the first of them commits.
def collectCall : RecordCall where
  id := 1
  input := { collectedMillimes := 49840, expectedOrderVersion := 7, expectedDeliveryVersion := 8
             reasonCode := none, reasonDetail := none }
  idempotencyKey := some (List.replicate 16 'c')
  discrepancyId := 1
  actorUserId := 9

def twoCalls : List Label :=
  (Sample.timed Sample.dispatched).map .atomic ++ [.begins, .begins, .commits 0 1 collectCall.op]

theorem overtaken_retry_fails : Not (forall config orderSequence now labels,
    ExactlyOnce (opening config orderSequence now) labels) := by
  intro claimed
  have retried := (claimed Sample.shop (some 0) 0 (twoCalls ++ [.commits 0 1 collectCall.op])).retried
  let reached := Runs.run step (opening Sample.shop (some 0) 0) twoCalls
  have recorded : collectCall ∈ recordings (opening Sample.shop (some 0) 0) twoCalls := by
    decide +kernel
  have fails : (reached.opened[0]?).any (fun snapshot =>
      (succeeded (collectCall.op.exec { snapshot, current := reached.clocked.db })).isNone) = true := by
    decide +kernel
  obtain ⟨snapshot, found, failed⟩ := (Option.any_eq_true _ _).1 fails
  have calls : Calls reached (.commits 0 1 collectCall.op)
      { snapshot, current := reached.clocked.db } collectCall := by
    simp [Calls, performed, found]
  obtain ⟨next, -, ran, -⟩ := retried twoCalls _ [] _ collectCall collectCall rfl calls recorded
    ⟨rfl, rfl, rfl⟩
  simp [ran, succeeded] at failed

end VapeCommerce.Cash.Recordings
