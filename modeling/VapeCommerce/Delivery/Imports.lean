import VapeCommerce.Delivery.Csv
import VapeCommerce.Delivery.Outcomes

set_option autoImplicit false

-- The status import as it is called, against its dry run and the transition of one delivery.
namespace VapeCommerce.Delivery.Imports

open VapeCommerce.Lib VapeCommerce.Lib.Outcome VapeCommerce.Schema VapeCommerce.Database
open VapeCommerce.Orders.StateMachine VapeCommerce.Orders.Admin VapeCommerce.Orders.Steps
open VapeCommerce.Delivery.Admin VapeCommerce.Delivery.Operations VapeCommerce.Delivery.Csv
open VapeCommerce.Delivery.Steps VapeCommerce.Orders.Runs VapeCommerce.System

def storedImport (db : Db) (importKey : Text) (dryRun : Bool) : Option DeliveryStatusImport :=
  db.imports.find? fun record => record.importKey == importKey && record.dryRun == dryRun

def readFile (csv : Text) : Except Failure DeliveryStatusCsv :=
  (parseDeliveryStatusCsv csv).mapError fun error => badRequest error.code

-- `importStatusCsv` with the text of the file, which is read only under a new key.
def uploadStatusCsv (db : Db) (importKey : Text) (dryRun : Bool) (csv : Text) (actorUserId : Id) :
    Except Failure (Db × DeliveryStatusImport) :=
  match storedImport db importKey dryRun with
  | some record => do
    throwIf (record.payloadHash ≠ csv) (conflict "DELIVERY_IMPORT_KEY_REUSED")
    return (db, record)
  | none => do
    let file <- readFile csv
    importStatusCsv db importKey dryRun file actorUserId

def reportsNoErrors (record : DeliveryStatusImport) : Bool :=
  record.rowCodes.all Option.isNone

def reportsApplied (record : DeliveryStatusImport) : Bool :=
  !record.dryRun && reportsNoErrors record

-- Every command is carried out on its delivery and its order as they were read, and on nothing else.
structure Commits (read db next : Db) (commands : List DeliveryStatusCsvCommand) : Prop where
  moved : forall command, command ∈ commands -> exists bulk,
    bulkDelivery? read command.deliveryId = some bulk /\
      next.deliveries.find? command.deliveryId =
        some (deliveryMoved command.targetStatus bulk.delivery) /\
      next.orders.find? bulk.order.id = some (orderMoved command.targetStatus bulk.order)
  deliveries : forall id, Not (id ∈ commands.map (·.deliveryId)) ->
    next.deliveries.find? id = db.deliveries.find? id
  orders : forall id, (forall command bulk, command ∈ commands ->
      bulkDelivery? read command.deliveryId = some bulk -> bulk.order.id ≠ id) ->
    next.orders.find? id = db.orders.find? id
  rest : next = { db with
    deliveries := next.deliveries, orders := next.orders, history := next.history
    imports := next.imports }

section Apply

variable {read db next : Db} {bulk other : BulkDelivery} {id otherId : Id}

theorem bulk_reads (found : bulkDelivery? read id = some bulk) :
    read.deliveries.find? id = some bulk.delivery /\ bulk.delivery.id = id /\
      read.orders.find? bulk.delivery.orderId = some bulk.order /\
      bulk.order.id = bulk.delivery.orderId := by
  simp only [bulkDelivery?, Option.bind_eq_bind, Option.bind_eq_some_iff, Option.pure_def,
    Option.some.injEq] at found
  obtain ⟨delivery, there, order, owner, rfl⟩ := found
  exact ⟨there, Table.find?_key there, owner, Table.find?_key owner⟩

-- An order has one delivery, so the rows of different deliveries are different orders.
theorem bulk_apart (unique : read.deliveries.Unique Schema.Delivery.orderId)
    (found : bulkDelivery? read id = some bulk) (also : bulkDelivery? read otherId = some other)
    (apart : id ≠ otherId) : bulk.order.id ≠ other.order.id := by
  obtain ⟨here, named, -, owner⟩ := bulk_reads found
  obtain ⟨there, called, -, owned⟩ := bulk_reads also
  intro same
  rw [owner, owned] at same
  have first := (Table.lookup_iff unique bulk.delivery.orderId bulk.delivery).2 ⟨Table.find?_mem here, rfl⟩
  have second := (Table.lookup_iff unique bulk.delivery.orderId other.delivery).2
    ⟨Table.find?_mem there, same.symm⟩
  have row := Option.some.inj (first.symm.trans second)
  exact apart (named.symm.trans ((congrArg Schema.Delivery.id row).trans called))

-- The rows of a command are still as they were read.
def Untouched (db : Db) (bulk : BulkDelivery) : Prop :=
  db.deliveries.find? bulk.delivery.id = some bulk.delivery /\
    db.orders.find? bulk.order.id = some bulk.order

theorem bulk_untouched (found : bulkDelivery? read id = some bulk) : Untouched read bulk := by
  obtain ⟨here, named, owned, owner⟩ := bulk_reads found
  exact ⟨named ▸ here, owner ▸ owned⟩

-- What one command writes.
structure Moves (db next : Db) (bulk : BulkDelivery) (target : DeliveryStatus) : Prop where
  deliveries : forall id, next.deliveries.find? id =
    if id = bulk.delivery.id then some (deliveryMoved target bulk.delivery) else db.deliveries.find? id
  orders : forall id, next.orders.find? id =
    if id = bulk.order.id then some (orderMoved target bulk.order) else db.orders.find? id
  rest : next = { db with
    deliveries := next.deliveries, orders := next.orders, history := next.history }

theorem updateMirroredStatus_moves (untouched : Untouched db bulk) (target : DeliveryStatus)
    (deliveryData : Schema.Delivery -> Schema.Delivery)
    (keeps : forall row, (deliveryData row).id = row.id) (reasonCode : Text) (actorUserId : Id) :
    exists next, updateMirroredStatus db bulk.order bulk.delivery target deliveryData keeps reasonCode
      actorUserId = .ok next := by
  simp only [updateMirroredStatus, bind_ok, pure_ok]
  exact ⟨_, _, updateOne_runs (Table.find?_mem untouched.1) (guardsDelivery_self _)
    (fun _ => guardsDelivery_only) _ _ _, _, updateOne_runs (Table.find?_mem untouched.2)
    (guardsOrder_self _) (fun _ => guardsOrder_only) _ _ _, rfl⟩

theorem applyDeliveryTransition_moves (untouched : Untouched db bulk) (target : DeliveryStatus)
    (reasonCode : Text) (actorUserId : Id) :
    exists next, applyDeliveryTransition db bulk target reasonCode actorUserId = .ok next /\
      Moves db next bulk target := by
  obtain ⟨next, ran⟩ := updateMirroredStatus_moves untouched target (fun row => row) (fun _ => rfl)
    reasonCode actorUserId
  refine ⟨next, ran, ?_⟩
  simp only [updateMirroredStatus, bind_ok, updateOne_ok, pure_ok] at ran
  obtain ⟨_, ⟨-, rfl⟩, _, ⟨-, rfl⟩, rfl⟩ := ran
  constructor
  next =>
    intro wanted
    exact @Table.find?_update_at _ _ Schema.Delivery.id _ _ _ (Table.find?_mem untouched.1) _ _
      (deliveryMoved_id target) (guardsDelivery_self _) (fun _ => guardsDelivery_only) wanted
  next =>
    intro wanted
    exact @Table.find?_update_at _ _ Order.id _ _ _ (Table.find?_mem untouched.2) _ _
      (orderMoved_id target) (guardsOrder_self _) (fun _ => guardsOrder_only) wanted
  next => rfl

theorem Moves.elsewhere {target : DeliveryStatus} (moves : Moves db next bulk target)
    (untouched : Untouched db other) (delivery : other.delivery.id ≠ bulk.delivery.id)
    (order : other.order.id ≠ bulk.order.id) : Untouched next other := by
  refine ⟨?_, ?_⟩
  next => rw [moves.deliveries, if_neg delivery]; exact untouched.1
  next => rw [moves.orders, if_neg order]; exact untouched.2

-- The loop of an accepted file: its rows meet no row of another, so each finds its own as read.
theorem applyCommands_commits (unique : read.deliveries.Unique Schema.Delivery.orderId)
    (actorUserId : Id) {commands : List DeliveryStatusCsvCommand}
    (distinct : (commands.map (·.deliveryId)).Nodup)
    (ready : forall command, command ∈ commands -> exists bulk,
      bulkDelivery? read command.deliveryId = some bulk /\ Untouched db bulk) :
    exists next, commands.foldlM (applyCommand read actorUserId) db = .ok next /\
      Commits read db next commands := by
  induction commands generalizing db with
  | nil => exact ⟨db, rfl, by simp, fun _ _ => rfl, fun _ _ => rfl, rfl⟩
  | cons command rest ih =>
    rw [List.map_cons, List.nodup_cons] at distinct
    obtain ⟨bulk, found, untouched⟩ := ready command (by simp)
    obtain ⟨-, named, -, -⟩ := bulk_reads found
    let reasonCode := command.reasonCode.getD "CSV_STATUS_IMPORT".toList
    obtain ⟨middle, applied, moves⟩ :=
      applyDeliveryTransition_moves untouched command.targetStatus reasonCode actorUserId
    have apart : forall other, other ∈ rest -> other.deliveryId ≠ command.deliveryId :=
      fun other member same => distinct.1 (same ▸ List.mem_map_of_mem member)
    have orders_apart : forall other beside, other ∈ rest ->
        bulkDelivery? read other.deliveryId = some beside -> beside.order.id ≠ bulk.order.id :=
      fun other beside member also => bulk_apart unique also found (apart other member)
    obtain ⟨next, ran, commits⟩ := ih distinct.2 (by
      intro other member
      obtain ⟨beside, also, there⟩ := ready other (by simp [member])
      obtain ⟨-, called, -, -⟩ := bulk_reads also
      refine ⟨beside, also, moves.elsewhere there ?_ (orders_apart other beside member also)⟩
      rw [named, called]
      exact apart other member)
    refine ⟨next, ?_, ?_⟩
    next =>
      rw [List.foldlM_cons]
      refine (bind_ok _ _ _).2 ⟨middle, ?_, ran⟩
      simp only [applyCommand, bind_ok, orThrow_ok]
      exact ⟨bulk, found, applied⟩
    constructor
    next =>
      refine List.forall_mem_cons.2 ⟨⟨bulk, found, ?_, ?_⟩, commits.moved⟩
      next => rw [commits.deliveries _ distinct.1, moves.deliveries, if_pos named.symm]
      next => rw [commits.orders _ orders_apart, moves.orders, if_pos rfl]
    next =>
      intro id unnamed
      rw [List.map_cons, List.mem_cons, not_or] at unnamed
      rw [commits.deliveries id unnamed.2, moves.deliveries, if_neg (named ▸ unnamed.1)]
    next =>
      intro id unowned
      rw [commits.orders id fun other beside member also => unowned other beside (by simp [member]) also,
        moves.orders, if_neg (unowned command bulk (by simp) found).symm]
    next => rw [commits.rest, moves.rest]

end Apply

variable {db next : Db} {importKey csv : Text} {dryRun : Bool} {actorUserId : Id}

def rowCodes (db : Db) (file : DeliveryStatusCsv) : List (Option String) :=
  file.commands.map fun command => validateImportCommand command (bulkDelivery? db command.deliveryId)

def Accepted (db : Db) (file : DeliveryStatusCsv) : Prop :=
  forall command, command ∈ file.commands ->
    validateImportCommand command (bulkDelivery? db command.deliveryId) = none

theorem rowCodes_accepted (db : Db) (file : DeliveryStatusCsv) :
    (rowCodes db file).all Option.isNone = true <-> Accepted db file := by
  simp [rowCodes, Accepted, List.all_eq_true]

-- The answer of an import under a new key, and what it leaves of the database.
structure Imported (db next : Db) (importKey : Text) (dryRun : Bool) (file : DeliveryStatusCsv)
    (record : DeliveryStatusImport) : Prop where
  key : record.importKey = importKey /\ record.dryRun = dryRun
  payload : record.payloadHash = file.content
  codes : record.rowCodes = rowCodes db file
  stored : next.imports = db.imports ++ [record]
  committed : dryRun = false -> Accepted db file -> Commits db db next file.commands
  refused : Not (dryRun = false /\ Accepted db file) -> next = { db with imports := next.imports }

theorem importStatusCsv_imported (unique : db.deliveries.Unique Schema.Delivery.orderId)
    (fresh : storedImport db importKey dryRun = none) (file : DeliveryStatusCsv) :
    exists next record, importStatusCsv db importKey dryRun file actorUserId = .ok (next, record) /\
      Imported db next importKey dryRun file record := by
  unfold importStatusCsv
  rw [storedImport] at fresh
  rw [fresh]
  by_cases applies : dryRun = false /\ Accepted db file
  next =>
    obtain ⟨rfl, accepted⟩ := applies
    obtain ⟨moved, ran, commits⟩ := applyCommands_commits unique actorUserId file.distinct
      (fun command member => by
        obtain ⟨bulk, found, -⟩ := validated_command (accepted command member)
        exact ⟨bulk, found, bulk_untouched found⟩)
    have all := (rowCodes_accepted db file).2 accepted
    rw [rowCodes] at all
    simp only [all, applyCommands, Bool.not_false, Bool.true_and, if_true, bind_ok, pure_ok,
      Prod.mk.injEq]
    refine ⟨_, _, ⟨moved, ran, rfl, rfl⟩, ⟨rfl, rfl⟩, rfl, rfl, rfl, fun _ _ => ?_, fun refused => ?_⟩
    next => exact ⟨commits.moved, commits.deliveries, commits.orders, by rw [commits.rest]⟩
    next => exact absurd ⟨rfl, accepted⟩ refused
  next =>
    have idle : (!dryRun && (rowCodes db file).all Option.isNone) = false := by
      rw [Bool.eq_false_iff]
      intro both
      rw [Bool.and_eq_true, rowCodes_accepted, Bool.not_eq_true'] at both
      exact applies both
    rw [rowCodes] at idle
    simp only [idle, applyCommands, Bool.false_eq_true, if_false, bind_ok, pure_ok, Prod.mk.injEq]
    refine ⟨_, _, ⟨db, rfl, rfl, rfl⟩, ⟨rfl, rfl⟩, rfl, rfl, rfl, fun real accepted => ?_, fun _ => rfl⟩
    exact absurd ⟨real, accepted⟩ applies

theorem parsed_content {file : DeliveryStatusCsv} (parsed : parseDeliveryStatusCsv csv = .ok file) :
    file.content = csv := by
  unfold parseDeliveryStatusCsv at parsed
  split at parsed
  next => simp at parsed
  next => exact Except.ok.inj parsed ▸ rfl

theorem readFile_ok (csv : Text) (file : DeliveryStatusCsv) :
    readFile csv = .ok file <-> parseDeliveryStatusCsv csv = .ok file := by
  unfold readFile Except.mapError
  split <;> simp_all

-- Under a new key an upload succeeds exactly when the file is read, whatever its rows.
theorem upload_fresh (fresh : storedImport db importKey dryRun = none) (next : Db) (record : DeliveryStatusImport) :
    uploadStatusCsv db importKey dryRun csv actorUserId = .ok (next, record) <->
      exists file, parseDeliveryStatusCsv csv = .ok file /\
        importStatusCsv db importKey dryRun file actorUserId = .ok (next, record) := by
  simp only [uploadStatusCsv, fresh, bind_ok, readFile_ok]

theorem upload_imported (unique : db.deliveries.Unique Schema.Delivery.orderId)
    (fresh : storedImport db importKey dryRun = none) {record : DeliveryStatusImport}
    (ran : uploadStatusCsv db importKey dryRun csv actorUserId = .ok (next, record)) :
    exists file, parseDeliveryStatusCsv csv = .ok file /\
      Imported db next importKey dryRun file record := by
  obtain ⟨file, parsed, imports⟩ := (upload_fresh fresh next record).1 ran
  obtain ⟨after, answer, same, imported⟩ :=
    @importStatusCsv_imported db importKey dryRun actorUserId unique fresh file
  simp only [imports, Except.ok.injEq, Prod.mk.injEq] at same
  obtain ⟨rfl, rfl⟩ := same
  exact ⟨file, parsed, imported⟩

theorem stored_replays {record : DeliveryStatusImport}
    (found : storedImport db importKey dryRun = some record) (payload : record.payloadHash = csv) :
    uploadStatusCsv db importKey dryRun csv actorUserId = .ok (db, record) := by
  simp [uploadStatusCsv, found, payload, throwIf]

-- A row as a call of the endpoint for its delivery.
def endpointInput (command : DeliveryStatusCsvCommand)
    (operational : command.targetStatus ∈ operationalDeliveryTargets) : TransitionDelivery where
  expectedVersion := command.expectedVersion
  target := ⟨command.targetStatus, operational⟩
  reasonCode := command.reasonCode
  explanation := command.note

theorem lockDelivery_bulk (id : Id) : (exists operation, lockDelivery db id = .ok operation) <->
    exists bulk, bulkDelivery? db id = some bulk := by
  simp only [lockDelivery, bulkDelivery?, bind_ok, orThrow_ok, pure_ok, Option.bind_eq_bind,
    Option.bind_eq_some_iff, Option.pure_def, Option.some.injEq]
  constructor
  next =>
    rintro ⟨-, delivery, there, order, owner, rfl⟩
    exact ⟨_, delivery, there, order, owner, rfl⟩
  next =>
    rintro ⟨-, delivery, there, order, owner, rfl⟩
    exact ⟨_, delivery, there, order, owner, rfl⟩

theorem requireExplanation_ok (value : Option Text) (code : String) :
    requireExplanation value code = .ok () <->
      (value.any fun text => decide ((trim text).length >= 4)) = true := by
  simp only [requireExplanation, throwIf_ok, not_not]

theorem transition_bulk {bulk : BulkDelivery} {id : Id} (found : bulkDelivery? db id = some bulk)
    (input : TransitionDelivery) (actorUserId : Id) :
    (exists next, transition db id input actorUserId = .ok next) <->
      bulk.delivery.version = input.expectedVersion /\
        canTransitionDelivery bulk.delivery.status input.target.status = true /\
        bulk.order.status = bulk.delivery.status /\
        (input.target.status ∈ courierRequiredTargets -> bulk.delivery.courierId.isSome = true) /\
        (input.target.status ∈ explanationRequiredTargets ->
          (input.explanation.any fun text => decide ((trim text).length >= 4)) = true) := by
  obtain ⟨here, named, owned, owner⟩ := bulk_reads found
  have locks : exists operation, lockDelivery db id = .ok operation /\
      operation.delivery = bulk.delivery /\ operation.order = bulk.order := by
    simp only [lockDelivery, bind_ok, orThrow_ok, pure_ok]
    exact ⟨_, ⟨bulk.delivery, here, bulk.order, owned, rfl⟩, rfl, rfl⟩
  obtain ⟨operation, locked, delivery, order⟩ := locks
  obtain ⟨after, moves⟩ := updateMirroredStatus_moves (bulk_untouched found) input.target.status
    (clearNextAttempt input.target.status) (clearNextAttempt_id _)
    ((trimmedOrNull input.reasonCode).getD "MANUAL_TRANSITION".toList) actorUserId
  simp only [transition, assertDeliveryVersion, ok_of_bind locked, bind_ok, throwIf_ok, requireWhen_ok,
    delivery, order, moves, requireExplanation_ok, not_not, not_or, not_and, Bool.not_eq_false,
    Option.isNone_iff_eq_none, <- ne_eq, <- Option.isSome_iff_ne_none]
  constructor
  next =>
    rintro ⟨_, ⟨⟩, version, ⟨⟩, ⟨edge, same⟩, ⟨⟩, courier, ⟨⟩, explained, -⟩
    exact ⟨version, edge, same, courier, explained⟩
  next =>
    rintro ⟨version, edge, same, courier, explained⟩
    exact ⟨after, (), version, (), ⟨edge, same⟩, (), courier, (), explained, rfl⟩

-- A row that names the status its delivery has is accepted exactly when the endpoint accepts it.
theorem row_agrees (command : DeliveryStatusCsvCommand)
    (operational : command.targetStatus ∈ operationalDeliveryTargets) (actorUserId : Id)
    (current : forall delivery, db.deliveries.find? command.deliveryId = some delivery ->
      delivery.status = command.currentStatus) :
    validateImportCommand command (bulkDelivery? db command.deliveryId) = none <->
      exists next, transition db command.deliveryId (endpointInput command operational) actorUserId =
        .ok next := by
  cases found : bulkDelivery? db command.deliveryId with
  | none =>
    refine iff_of_false (by simp [validateImportCommand]) ?_
    rintro ⟨next, ran⟩
    obtain ⟨operation, locked, -⟩ := (bind_ok _ _ _).1 ran
    obtain ⟨bulk, there⟩ := (lockDelivery_bulk command.deliveryId).1 ⟨operation, locked⟩
    simp [found] at there
  | some bulk =>
    have status := current bulk.delivery (bulk_reads found).1
    rw [validateImportCommand_none, transition_bulk found]
    constructor
    next =>
      rintro ⟨version, -, mirrored, edge, courier, explained⟩
      exact ⟨version, edge, mirrored, courier, explained⟩
    next =>
      rintro ⟨version, edge, mirrored, courier, explained⟩
      exact ⟨version, status, mirrored, edge, courier, explained⟩

/-- An import agrees with its dry run under a new key, is applied as a whole or not at all, replays,
and accepts the rows that the endpoint of one delivery accepts. -/
structure Agrees (db : Db) (importKey csv : Text) (actorUserId : Id) : Prop where
  dryRun : (forall dryRun, storedImport db importKey dryRun = none) ->
    ((exists next record, uploadStatusCsv db importKey true csv actorUserId = .ok (next, record) /\
        reportsNoErrors record = true) <->
      exists next record, uploadStatusCsv db importKey false csv actorUserId = .ok (next, record) /\
        reportsApplied record = true)
  tried : forall next record, uploadStatusCsv db importKey true csv actorUserId = .ok (next, record) ->
    next = { db with imports := next.imports }
  whole : forall next record, uploadStatusCsv db importKey false csv actorUserId = .ok (next, record) ->
    next = { db with imports := next.imports } \/ reportsApplied record = true /\
      exists file, parseDeliveryStatusCsv csv = .ok file /\ Commits db db next file.commands
  replays : forall next record, uploadStatusCsv db importKey false csv actorUserId = .ok (next, record) ->
    forall later more otherActorId, later.imports = next.imports ++ more ->
      uploadStatusCsv later importKey false csv otherActorId = .ok (later, record)
  rows : forall file, parseDeliveryStatusCsv csv = .ok file -> forall command, command ∈ file.commands ->
    forall operational : command.targetStatus ∈ operationalDeliveryTargets,
    (forall delivery, db.deliveries.find? command.deliveryId = some delivery ->
      delivery.status = command.currentStatus) ->
    (validateImportCommand command (bulkDelivery? db command.deliveryId) = none <->
      exists next, transition db command.deliveryId (endpointInput command operational) actorUserId =
        .ok next)

theorem stored_of_replay {record stored : DeliveryStatusImport}
    (found : storedImport db importKey dryRun = some stored)
    (ran : uploadStatusCsv db importKey dryRun csv actorUserId = .ok (next, record)) :
    next = db /\ record = stored /\ stored.payloadHash = csv := by
  simp only [uploadStatusCsv, found, bind_ok, throwIf_ok, not_not, pure_ok, Prod.mk.injEq] at ran
  obtain ⟨⟨⟩, payload, same, answer⟩ := ran
  exact ⟨same.symm, answer.symm, payload⟩

theorem imported_stored {file : DeliveryStatusCsv} {record : DeliveryStatusImport}
    (fresh : storedImport db importKey dryRun = none)
    (imported : Imported db next importKey dryRun file record) :
    storedImport next importKey dryRun = some record := by
  rw [storedImport] at fresh
  rw [storedImport, imported.stored, List.find?_append, fresh, Option.none_or]
  simp [imported.key.1, imported.key.2]

theorem upload_replays {record : DeliveryStatusImport}
    (unique : db.deliveries.Unique Schema.Delivery.orderId)
    (ran : uploadStatusCsv db importKey dryRun csv actorUserId = .ok (next, record)) {later : Db}
    {more : List DeliveryStatusImport} (grown : later.imports = next.imports ++ more)
    (otherActorId : Id) :
    uploadStatusCsv later importKey dryRun csv otherActorId = .ok (later, record) := by
  have still : forall found, storedImport next importKey dryRun = some found ->
      storedImport later importKey dryRun = some found := by
    intro found there
    rw [storedImport] at there
    rw [storedImport, grown, List.find?_append, there, Option.some_or]
  cases found : storedImport db importKey dryRun with
  | none =>
    obtain ⟨file, parsed, imported⟩ := upload_imported unique found ran
    exact stored_replays (still record (imported_stored found imported))
      (imported.payload.trans (parsed_content parsed))
  | some stored =>
    obtain ⟨rfl, rfl, payload⟩ := stored_of_replay found ran
    exact stored_replays (still record found) payload

theorem dry_run_agrees (unique : db.deliveries.Unique Schema.Delivery.orderId)
    (fresh : forall dryRun, storedImport db importKey dryRun = none) :
    (exists next record, uploadStatusCsv db importKey true csv actorUserId = .ok (next, record) /\
        reportsNoErrors record = true) <->
      exists next record, uploadStatusCsv db importKey false csv actorUserId = .ok (next, record) /\
        reportsApplied record = true := by
  have answers : forall dryRun, (exists next record,
      uploadStatusCsv db importKey dryRun csv actorUserId = .ok (next, record) /\
        reportsNoErrors record = true) <->
      exists file, parseDeliveryStatusCsv csv = .ok file /\ Accepted db file := by
    intro dryRun
    constructor
    next =>
      rintro ⟨next, record, ran, clean⟩
      obtain ⟨file, parsed, imported⟩ := upload_imported unique (fresh dryRun) ran
      rw [reportsNoErrors, imported.codes, rowCodes_accepted] at clean
      exact ⟨file, parsed, clean⟩
    next =>
      rintro ⟨file, parsed, accepted⟩
      obtain ⟨next, record, ran, imported⟩ :=
        @importStatusCsv_imported db importKey dryRun actorUserId unique (fresh dryRun) file
      refine ⟨next, record, (upload_fresh (fresh dryRun) next record).2 ⟨file, parsed, ran⟩, ?_⟩
      rw [reportsNoErrors, imported.codes, rowCodes_accepted]
      exact accepted
  rw [answers true, <- answers false]
  refine exists_congr fun next => exists_congr fun record => and_congr_right fun ran => ?_
  obtain ⟨file, -, imported⟩ := upload_imported unique (fresh false) ran
  simp [reportsApplied, imported.key.2]

/-- The status import agrees with its dry run, with itself and with the endpoint, in every database
whose orders have one delivery each. -/
theorem import_agrees (db : Db) (unique : db.deliveries.Unique Schema.Delivery.orderId)
    (importKey csv : Text) (actorUserId : Id) : Agrees db importKey csv actorUserId where
  dryRun := dry_run_agrees unique
  tried next record ran := by
    cases found : storedImport db importKey true with
    | none =>
      obtain ⟨file, -, imported⟩ := upload_imported unique found ran
      exact imported.refused (by simp)
    | some stored =>
      obtain ⟨rfl, -, -⟩ := stored_of_replay found ran
      rfl
  whole next record ran := by
    cases found : storedImport db importKey false with
    | none =>
      obtain ⟨file, parsed, imported⟩ := upload_imported unique found ran
      by_cases accepted : Accepted db file
      next =>
        refine .inr ⟨?_, file, parsed, imported.committed rfl accepted⟩
        simpa [reportsApplied, reportsNoErrors, imported.key.2, imported.codes] using
          (rowCodes_accepted db file).2 accepted
      next => exact .inl (imported.refused fun applies => accepted applies.2)
    | some stored =>
      obtain ⟨rfl, -, -⟩ := stored_of_replay found ran
      exact .inl rfl
  replays _ _ ran _ _ otherActorId grown := upload_replays unique ran grown otherActorId
  rows _ _ command _ operational current := row_agrees command operational actorUserId current

-- One order, confirmed, whose delivery a file can name.
def textCall : Checkout.Order.CheckoutCall :=
  { Sample.call with ids := { Sample.call.ids with deliveryId := identifier ['d'] } }

def confirms : List Op :=
  Sample.stocked ++ [.createOrder textCall, .confirm 1 1 9]

theorem reached_unique (ops : List Op) :
    (Sample.after ops).db.deliveries.Unique Schema.Delivery.orderId :=
  (run_sums Sample.shop (some 0) 0 (Sample.timed ops)).settled.linked.deliveries_unique

def fileOf (currentStatus : String) : Text :=
  [','].intercalate (deliveryStatusCsvHeaders.map String.toList) ++ ['\n'] ++
    [','].intercalate ((["DELIVERY_STATUS_V1", "d", "2", currentStatus, "PREPARING"] ++
      List.replicate 8 "").map String.toList)

theorem confirmed_import_agrees :
    Agrees (Sample.after confirms).db "first-import".toList (fileOf "CONFIRMED") 9 :=
  import_agrees (Sample.after confirms).db (reached_unique confirms) _ _ 9

theorem answered_iff (run : Except Failure (Db × DeliveryStatusImport))
    (reports : DeliveryStatusImport -> Bool) :
    (exists next record, run = .ok (next, record) /\ reports record = true) <->
      (succeeded run).any (fun answer => reports answer.2) = true := by
  cases run with
  | error failure => simp [succeeded]
  | ok answer =>
    obtain ⟨after, record⟩ := answer
    simp [succeeded]

theorem parsed_commands {commands : List DeliveryStatusCsvCommand}
    (parsed : parseCommands csv = .ok commands) :
    exists file, parseDeliveryStatusCsv csv = .ok file /\ file.commands = commands := by
  unfold parseDeliveryStatusCsv
  split
  next error failed => simp [parsed] at failed
  next again => exact ⟨_, rfl, Except.ok.inj (again.symm.trans parsed)⟩

-- The file is tried under its key, and then the order is prepared at the desk.
def tries (csv : Text) : List Op :=
  match parseDeliveryStatusCsv csv with
  | .ok file => [.importStatusCsv "first-import".toList true file 9]
  | .error _ => []

def triesAndPrepares : List Op :=
  confirms ++ tries (fileOf "CONFIRMED") ++ [.prepare 1 2 9]

/-- A dry run answers from its key although the delivery has moved on, and a row that is right but for
the status it expects is refused where the endpoint accepts. -/
theorem import_disagrees :
    Not (forall db importKey csv actorUserId, db.deliveries.Unique Schema.Delivery.orderId ->
      ((exists next record, uploadStatusCsv db importKey true csv actorUserId = .ok (next, record) /\
          reportsNoErrors record = true) <->
        exists next record, uploadStatusCsv db importKey false csv actorUserId = .ok (next, record) /\
          reportsApplied record = true)) /\
    Not (forall db csv file actorUserId, db.deliveries.Unique Schema.Delivery.orderId ->
      parseDeliveryStatusCsv csv = .ok file -> forall command, command ∈ file.commands ->
      forall operational : command.targetStatus ∈ operationalDeliveryTargets,
      (validateImportCommand command (bulkDelivery? db command.deliveryId) = none <->
        exists next, transition db command.deliveryId (endpointInput command operational) actorUserId =
          .ok next)) := by
  constructor
  next =>
    intro claimed
    have agrees := claimed (Sample.after triesAndPrepares).db "first-import".toList (fileOf "CONFIRMED") 9
      (reached_unique _)
    rw [answered_iff, answered_iff] at agrees
    exact absurd (agrees.1 (by decide +kernel)) (by decide +kernel)
  next =>
    intro claimed
    let command : DeliveryStatusCsvCommand := {
      deliveryId := identifier ['d'], expectedVersion := 2, currentStatus := .onHold
      targetStatus := .preparing, reasonCode := none, note := none }
    have parsed : parseCommands (fileOf "ON_HOLD") = .ok [command] := by decide +kernel
    obtain ⟨file, read, listed⟩ := parsed_commands parsed
    have agrees := claimed (Sample.after confirms).db _ file 9 (reached_unique _) read command
      (by simp [listed]) (by decide)
    have accepted : exists next, transition (Sample.after confirms).db command.deliveryId
        (endpointInput command (by decide)) 9 = .ok next := by
      have ran : (succeeded (transition (Sample.after confirms).db command.deliveryId
          (endpointInput command (by decide)) 9)).isSome = true := by
        decide +kernel
      cases result : transition (Sample.after confirms).db command.deliveryId
          (endpointInput command (by decide)) 9 with
      | ok next => exact ⟨next, rfl⟩
      | error failure => simp [result, succeeded] at ran
    exact absurd (agrees.2 accepted) (by decide +kernel)

end VapeCommerce.Delivery.Imports
