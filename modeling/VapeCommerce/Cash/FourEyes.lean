import VapeCommerce.Cash.Disputes
import VapeCommerce.Inventory.Approvals

set_option autoImplicit false

-- Whoever signs off cash is not whoever took or counted it.
namespace VapeCommerce.Cash.FourEyes

open VapeCommerce.Lib VapeCommerce.Lib.Outcome VapeCommerce.Schema VapeCommerce.Database
open VapeCommerce.Cash.Calculations VapeCommerce.Cash.Admin VapeCommerce.Cash.Accountable
open VapeCommerce.Cash.Steps VapeCommerce.Cash.Remittances VapeCommerce.Cash.Operations
open VapeCommerce.Cash.Sessions VapeCommerce.Cash.Disputes VapeCommerce.Orders.Case
open VapeCommerce.Orders.Progress VapeCommerce.Inventory.Approvals
open VapeCommerce.System hiding step step_keeps run_keeps opening

def Countersigned (row : CashRemittance) : Prop :=
  exists receiver verifier, row.receivedByUserId = some receiver /\
    row.verifiedByUserId = some verifier /\ verifier ≠ receiver

-- Whoever closed the discrepancy neither opened it nor recorded the cash it is about.
structure ClosedApart (db : Db) (row : CashDiscrepancy) (closer : Id) : Prop where
  closed : row.resolvedByUserId = some closer
  opener : row.openedByUserId ≠ closer
  collection : forall id, row.cashCollectionId = some id -> exists collection collector,
    collection ∈ db.collections.rows /\ collection.id = id /\
      Not (collection.status ∈ unrecordedStatuses) /\
      collection.collectedByUserId = some collector /\ collector ≠ closer
  receipt : forall id, row.remittanceId = some id -> exists remittance receiver,
    remittance ∈ db.remittances.rows /\ remittance.id = id /\ remittance.status ≠ .draft /\
      remittance.receivedByUserId = some receiver /\ receiver ≠ closer

structure Separated (db : Db) : Prop where
  verified : forall row, row ∈ db.remittances.rows -> row.status = .verified -> Countersigned row
  closed : forall row, row ∈ db.discrepancies.rows -> Not (row.status ∈ unsettledStatuses) ->
    exists closer, ClosedApart db row closer

-- Who opened a discrepancy is never rewritten, nor who received a remittance.
def Opened (old new : Table CashDiscrepancy.id) : Prop :=
  forall row, row ∈ old.rows -> exists now, now ∈ new.rows /\ now.id = row.id /\
    now.openedByUserId = row.openedByUserId

def Received (old new : Table CashRemittance.id) : Prop :=
  forall row, row ∈ old.rows -> row.status ≠ .draft -> exists now, now ∈ new.rows /\
    now.id = row.id /\ now.status ≠ .draft /\ now.receivedByUserId = row.receivedByUserId

structure Attests (old new : Db) : Prop where
  opened : Opened old.discrepancies new.discrepancies
  received : Received old.remittances new.remittances

variable {db next : Db} {view : View}

theorem Opened.refl (discrepancies : Table CashDiscrepancy.id) : Opened discrepancies discrepancies :=
  fun row member => ⟨row, member, rfl, rfl⟩

theorem Received.refl (remittances : Table CashRemittance.id) : Received remittances remittances :=
  fun row member status => ⟨row, member, rfl, status, rfl⟩

theorem Attests.refl (db : Db) : Attests db db :=
  ⟨Opened.refl _, Received.refl _⟩

theorem Attests.trans {first second third : Db} (one : Attests first second)
    (two : Attests second third) : Attests first third where
  opened row member := by
    obtain ⟨middle, there, id, opener⟩ := one.opened row member
    obtain ⟨last, here, id', opener'⟩ := two.opened middle there
    exact ⟨last, here, id'.trans id, opener'.trans opener⟩
  received row member status := by
    obtain ⟨middle, there, id, received, receiver⟩ := one.received row member status
    obtain ⟨last, here, id', received', receiver'⟩ := two.received middle there received
    exact ⟨last, here, id'.trans id, received', receiver'.trans receiver⟩

-- A recorded collection keeps its collector.
theorem collector_onward (linked : Linked db) (behind : Behind db next) {collection : CashCollection}
    (member : collection ∈ db.collections.rows)
    (recorded : Not (collection.status ∈ unrecordedStatuses)) :
    exists now, now ∈ next.collections.rows /\ now.id = collection.id /\
      Not (now.status ∈ unrecordedStatuses) /\ now.collectedByUserId = collection.collectedByUserId := by
  obtain ⟨case, is, rfl⟩ := linked.case_of_collection member
  obtain ⟨after, there, later⟩ := behind.ahead _ case is
  have count := later.counted recorded
  exact ⟨after.collection, there.collection_mem, later.collectionId, count.recorded, count.collector⟩

theorem ClosedApart.onward {row : CashDiscrepancy} {closer : Id} (apart : ClosedApart db row closer)
    (linked : Linked db) (behind : Behind db next) (attests : Attests db next) :
    ClosedApart next row closer where
  closed := apart.closed
  opener := apart.opener
  collection id about := by
    obtain ⟨collection, collector, member, here, recorded, by_collector, other⟩ :=
      apart.collection id about
    obtain ⟨now, there, same, still, kept⟩ := collector_onward linked behind member recorded
    exact ⟨now, collector, there, same.trans here, still, kept.trans by_collector, other⟩
  receipt id about := by
    obtain ⟨remittance, receiver, member, here, received, by_receiver, other⟩ := apart.receipt id about
    obtain ⟨now, there, same, still, kept⟩ := attests.received remittance member received
    exact ⟨now, receiver, there, same.trans here, still, kept.trans by_receiver, other⟩

-- What a successful operation signs off: nothing, or with a second person.
structure Judges (db next : Db) : Prop where
  attests : Attests db next
  verified : forall row, row ∈ next.remittances.rows -> row.status = .verified ->
    row ∈ db.remittances.rows \/ Countersigned row
  closed : forall row, row ∈ next.discrepancies.rows -> Not (row.status ∈ unsettledStatuses) ->
    row ∈ db.discrepancies.rows \/ exists closer, ClosedApart next row closer

theorem judges_same (remittances : next.remittances = db.remittances)
    (discrepancies : next.discrepancies = db.discrepancies) : Judges db next where
  attests := ⟨discrepancies ▸ Opened.refl _, remittances ▸ Received.refl _⟩
  verified _ member _ := .inl (remittances ▸ member)
  closed _ member _ := .inl (discrepancies ▸ member)

theorem judges_separated (separated : Separated db) (linked : Linked db) (behind : Behind db next)
    (judges : Judges db next) : Separated next where
  verified row member status :=
    (judges.verified row member status).elim (fun known => separated.verified row known status) id
  closed row member settled := by
    rcases judges.closed row member settled with known | apart
    next =>
      obtain ⟨closer, apart⟩ := separated.closed row known settled
      exact ⟨closer, apart.onward linked behind judges.attests⟩
    next => exact apart

theorem openDiscrepancy_opens {old new : Table CashDiscrepancy.id} {row : CashDiscrepancy}
    (status : row.status = .opened) (ran : openDiscrepancy old row = .ok new) :
    Opened old new /\ forall other, other ∈ new.rows -> Not (other.status ∈ unsettledStatuses) ->
      other ∈ old.rows := by
  have rows := (Table.insert?_rows (openDiscrepancy_ok.1 ran).2).1
  refine ⟨fun other member => ⟨other, by simp [rows, member], rfl, rfl⟩, fun other member settled => ?_⟩
  rw [rows, List.mem_append, List.mem_singleton] at member
  refine member.resolve_right fun new => settled ?_
  simp [new, status, unsettledStatuses]

-- Settling rewrites one row, with who settles it.
theorem settleDiscrepancy_settles {old new : Table CashDiscrepancy.id} {row : CashDiscrepancy}
    {resolution : Resolution} {actorUserId : Id}
    (ran : settleDiscrepancy old row resolution actorUserId = .ok new) :
    Opened old new /\ forall other, other ∈ new.rows -> other ∈ old.rows \/ exists was,
      was ∈ old.rows /\ was.id = row.id /\ other = settledBy resolution actorUserId was := by
  obtain ⟨-, rfl⟩ := (updateOne_ok _ _ _ _ _ _).1 ran
  refine ⟨fun other member => ⟨_, List.mem_map_of_mem member, Table.rewrite_field (fun _ => by rfl) other,
    Table.rewrite_field (fun _ => by rfl) other⟩, fun other member => ?_⟩
  obtain ⟨was, there, ⟨hit, rfl⟩ | ⟨-, rfl⟩⟩ := Table.rewrite_mem member
  next =>
    simp only [Bool.and_eq_true, beq_iff_eq] at hit
    exact .inr ⟨was, there, hit.1, rfl⟩
  next => exact .inl there

-- Judging a remittance keeps its receipt; whoever verifies it did not receive it.
theorem judged_judges {source target : CashRemittanceStatus} {id actorUserId : Id}
    {verifiedMillimes differenceMillimes : Int} {old : Table CashRemittance.id}
    (drafted : target ≠ .draft)
    (apart : forall row, row ∈ old.rows -> row.id = id ->
      exists receiver, row.receivedByUserId = some receiver /\ receiver ≠ actorUserId) :
    let new := old.update (fun row => row.id == id && row.status == source)
      (judged target verifiedMillimes differenceMillimes actorUserId) fun _ => rfl
    Received old new /\ forall row, row ∈ new.rows -> row.status = .verified ->
      row ∈ old.rows \/ Countersigned row := by
  refine ⟨fun row member status => ?_, fun row member status => ?_⟩
  next =>
    refine ⟨_, List.mem_map_of_mem member, Table.rewrite_field (fun _ => by rfl) row, ?_,
      Table.rewrite_field (fun _ => by rfl) row⟩
    unfold Table.rewrite
    split
    next => exact drafted
    next => exact status
  next =>
    obtain ⟨was, there, ⟨hit, rfl⟩ | ⟨-, rfl⟩⟩ := Table.rewrite_mem member
    next =>
      simp only [Bool.and_eq_true, beq_iff_eq] at hit
      obtain ⟨receiver, received, other⟩ := apart was there hit.1
      exact .inr ⟨receiver, actorUserId, received, rfl, Ne.symm other⟩
    next => exact .inl there

-- The receipt a transaction has checked is still the receipt when it commits.
theorem independent_receipt {remittance : CashRemittance} {id actorUserId : Id}
    (attests : Attests view.snapshot view.current)
    (found : view.snapshot.remittances.find? id = some remittance) (received : remittance.status ≠ .draft)
    (independent : assertIndependentActor remittance.receivedByUserId actorUserId = .ok ()) :
    exists now receiver, now ∈ view.current.remittances.rows /\ now.id = id /\ now.status ≠ .draft /\
      now.receivedByUserId = some receiver /\ receiver ≠ actorUserId := by
  obtain ⟨now, there, same, still, kept⟩ := attests.received remittance (Table.find?_mem found) received
  rw [assertIndependentActor, throwIf_ok] at independent
  cases received : remittance.receivedByUserId with
  | none => simp [received] at independent
  | some receiver =>
    refine ⟨now, receiver, there, same.trans (Table.find?_key found), still, kept.trans received, ?_⟩
    simpa [received] using independent

theorem receipt_row {remittances : Table CashRemittance.id} {id actorUserId : Id}
    (receipt : exists now receiver, now ∈ remittances.rows /\ now.id = id /\ now.status ≠ .draft /\
      now.receivedByUserId = some receiver /\ receiver ≠ actorUserId) :
    forall row, row ∈ remittances.rows -> row.id = id ->
      exists receiver, row.receivedByUserId = some receiver /\ receiver ≠ actorUserId := by
  obtain ⟨now, receiver, there, here, -, received, apart⟩ := receipt
  intro row member same
  obtain rfl := remittances.same_of_key member there (same.trans here.symm)
  exact ⟨receiver, received, apart⟩

section View

variable (old : Sums view.snapshot) (sums : Sums view.current)
  (behind : Behind view.snapshot view.current)

include old sums behind

theorem recordCollection_judges {id discrepancyId actorUserId : Id} {input : RecordRequest}
    {idempotencyKey : Option Text}
    (ran : recordCollection view id input idempotencyKey discrepancyId actorUserId = .ok next) :
    Judges view.current next := by
  obtain ⟨key, orderId, -, ⟨was, -, rfl⟩ | ⟨case, difference, counting⟩⟩ :=
    recordCollection_cases old.settled sums.settled behind.ahead ran
  next => exact judges_same rfl rfl
  next =>
    have opens := counting.opens
    unfold openRecorded at opens
    split at opens
    next =>
      obtain ⟨opened, closesNone⟩ := openDiscrepancy_opens (by rfl) opens
      exact {
        attests := ⟨opened, counting.same.remittances ▸ Received.refl _⟩
        verified := fun _ member _ => .inl (counting.same.remittances ▸ member)
        closed := fun row member settled => .inl (closesNone row member settled) }
    next => exact judges_same counting.same.remittances (Except.ok.inj opens).symm

omit sums in
theorem createRemittance_judges {input : CreateCashRemittance}
    (ran : createRemittance view input = .ok next) : Judges view.current next := by
  obtain ⟨row, remittances, -, -, status, inserted, rfl⟩ := (createRemittance_ok old behind ran).rows
  have rows := (Table.insert?_rows inserted).1
  exact {
    attests := ⟨Opened.refl _, fun other member received => ⟨other, by simp [rows, member], rfl, received, rfl⟩⟩
    verified := fun other member verified => by
      rw [rows, List.mem_append, List.mem_singleton] at member
      refine .inl (member.resolve_right fun new => ?_)
      simp [new, status] at verified
    closed := fun _ member _ => .inl member }

omit old sums behind in
theorem submitRemittance_judges {id actorUserId : Id}
    (ran : submitRemittance view id actorUserId = .ok next) : Judges view.current next := by
  simp only [submitRemittance, bind_ok, throwIf_ok, updateOne_ok, pure_ok] at ran
  obtain ⟨operation, -, ⟨⟩, -, ⟨⟩, -, remittances, ⟨-, rfl⟩, rfl⟩ := ran
  refine ⟨⟨Opened.refl _, fun row member received => ?_⟩, fun row member verified => ?_,
    fun _ member _ => .inl member⟩
  next =>
    refine ⟨row, List.mem_map.2 ⟨row, member, Table.rewrite_other ?_⟩, rfl, received, rfl⟩
    simp [received]
  next =>
    obtain ⟨was, there, ⟨-, rfl⟩ | ⟨-, rfl⟩⟩ := Table.rewrite_mem member
    next => simp at verified
    next => exact .inl there

omit behind sums in
theorem reconcileRemittance_judges {id discrepancyId actorUserId : Id} {input : ReconcileCashRemittance}
    (attests : Attests view.snapshot view.current)
    (ran : reconcileRemittance view id input discrepancyId actorUserId = .ok next) :
    Judges view.current next := by
  simp only [reconcileRemittance, bind_ok, throwIf_ok, updateOne_ok] at ran
  obtain ⟨operation, locks, ⟨⟩, allowed, ⟨⟩, independent, -, -, ⟨⟩, -, difference, -, -, -, ⟨⟩, -,
    remittances, ⟨-, rfl⟩, ran⟩ := ran
  have reads := lockRemittance_ok old.settled.linked locks
  have received : operation.remittance.status ≠ .draft := fun draft => by
    simp [draft, canTransitionRemittance, cashRemittanceTransitions] at allowed
  have apart := receipt_row (independent_receipt attests reads.found received independent)
  split at ran
  next =>
    simp only [bind_ok, pure_ok] at ran
    obtain ⟨applied, applying, rfl⟩ := ran
    obtain ⟨-, rfl⟩ := applies_of_run old reads applying
    obtain ⟨receipts, countersigned⟩ := @judged_judges .submitted .verified id actorUserId
      input.verifiedMillimes difference view.current.remittances (by decide) apart
    exact ⟨⟨Opened.refl _, receipts⟩, countersigned, fun _ member _ => .inl member⟩
  next =>
    simp only [bind_ok, pure_ok] at ran
    obtain ⟨discrepancies, opens, orders, -, rfl⟩ := ran
    obtain ⟨receipts, countersigned⟩ := @judged_judges .submitted .discrepancy id actorUserId
      input.verifiedMillimes difference view.current.remittances (by decide) apart
    obtain ⟨opened, closesNone⟩ := openDiscrepancy_opens (by rfl) opens
    exact ⟨⟨opened, receipts⟩, countersigned, fun row member settled => .inl (closesNone row member settled)⟩

-- The row that is settled has the opener and the scope its transaction has read.
omit old sums in
theorem settled_row {row was : CashDiscrepancy} (attests : Attests view.snapshot view.current)
    (read : row ∈ view.snapshot.discrepancies.rows) (member : was ∈ view.current.discrepancies.rows)
    (same : was.id = row.id) : was.openedByUserId = row.openedByUserId /\
      was.cashCollectionId = row.cashCollectionId /\ was.remittanceId = row.remittanceId := by
  obtain ⟨now, there, id, opener⟩ := attests.opened row read
  obtain ⟨other, here, id', collection, remittance, -⟩ := behind.retains.discrepancies row read
  obtain rfl := view.current.discrepancies.same_of_key member there (same.trans id.symm)
  obtain rfl := view.current.discrepancies.same_of_key member here (same.trans id'.symm)
  exact ⟨opener, collection, remittance⟩

theorem resolveCollectionDiscrepancy_judges {cashCollectionId id actorUserId : Id}
    {input : ResolveCashDiscrepancy} (attests : Attests view.snapshot view.current)
    (ran : resolveCollectionDiscrepancy view cashCollectionId id input actorUserId = .ok next) :
    Judges view.current next := by
  have commits := resolveCollectionDiscrepancy_commits old sums behind ran
  have onward := behind.trans (commits.sums sums).2
  simp only [resolveCollectionDiscrepancy, bind_ok, orThrow_ok, throwIf_ok, pure_ok,
    assertDiscrepancyLinkage] at ran
  obtain ⟨operation, locks, row, read, delivery, -, ⟨⟩, ⟨⟨⟩, linkage, _, -, -⟩, ⟨⟩, -, ⟨⟩, state, ⟨⟩, apart,
    ⟨⟩, -, ⟨⟩, -, ⟨⟩, -, corrected, corrects, discrepancies, settles, rfl⟩ := ran
  obtain ⟨orderId, was, before, here, rfl⟩ := lockCollection_ok old.settled.linked locks
  simp only [lockedCollection, not_or, not_not, ne_eq, Option.not_isSome_iff_eq_none,
    Option.isNone_iff_eq_none] at linkage state apart
  obtain ⟨sameDiscrepancies, sameRemittances⟩ := correctWhenResolved_same corrects
  rw [sameDiscrepancies] at settles
  obtain ⟨opened, settled⟩ := settleDiscrepancy_settles settles
  have recorded : Not (was.collection.status ∈ unrecordedStatuses) := fun unrecorded => by
    have counted := state.1
    simp only [unrecordedStatuses, remittableCollectionStatuses, List.mem_cons, List.not_mem_nil,
      or_false] at unrecorded counted
    rcases unrecorded with expected | voided <;> simp_all
  obtain ⟨now, there, sameId, still, kept⟩ :=
    collector_onward old.settled.linked onward before.collection_mem recorded
  obtain ⟨collector, collected⟩ := Option.ne_none_iff_exists'.1 apart.1
  refine ⟨⟨opened, sameRemittances ▸ Received.refl _⟩, fun _ member _ => .inl (sameRemittances ▸ member),
    fun other member _ => (settled other member).imp_right ?_⟩
  rintro ⟨before, known, same, rfl⟩
  obtain ⟨opener, about, receipt⟩ := settled_row behind attests (Table.find?_mem read) known same
  exact ⟨actorUserId, {
    closed := rfl
    opener := fun equal => apart.2.1 (opener.symm.trans equal)
    collection := fun id mentions => by
      obtain rfl := Option.some.inj (linkage.2.1.symm.trans (about.symm.trans mentions))
      exact ⟨now, collector, there, sameId, still, kept.trans collected,
        fun equal => apart.2.2 (equal ▸ collected)⟩
    receipt := fun id mentions => by
      have none : (settledBy input.resolution actorUserId before).remittanceId = none :=
        receipt.trans linkage.1
      simp [none] at mentions }⟩

omit sums in
theorem resolveRemittanceDiscrepancy_judges {remittanceId id actorUserId : Id}
    {input : ResolveCashDiscrepancy} (attests : Attests view.snapshot view.current)
    (ran : resolveRemittanceDiscrepancy view remittanceId id input actorUserId = .ok next) :
    Judges view.current next := by
  simp only [resolveRemittanceDiscrepancy, bind_ok, throwIf_ok, orThrow_ok, pure_ok] at ran
  obtain ⟨row, read, ⟨⟩, scope, ⟨⟩, -, ⟨⟩, apart, operation, locks, ⟨⟩, disputed, ⟨⟩, independent, ⟨⟩, -,
    ⟨⟩, -, verified, verifying, discrepancies, settles, rfl⟩ := ran
  have reads := lockRemittance_ok old.settled.linked locks
  simp only [not_or, not_not, ne_eq, Option.not_isSome_iff_eq_none] at scope disputed
  have received : operation.remittance.status ≠ .draft := by simp [disputed]
  have receipt := independent_receipt attests reads.found received independent
  -- The discrepancies are settled in the state that the verification leaves.
  have verifies : verified.discrepancies = view.current.discrepancies /\
      Received view.current.remittances verified.remittances /\
      forall row, row ∈ verified.remittances.rows -> row.status = .verified ->
        row ∈ view.current.remittances.rows \/ Countersigned row := by
    unfold verifyWhenResolved at verifying
    split at verifying
    next =>
      simp only [verifyDiscrepant, bind_ok, updateOne_ok, pure_ok] at verifying
      obtain ⟨applied, applying, remittances, ⟨-, rfl⟩, rfl⟩ := verifying
      obtain ⟨-, rfl⟩ := applies_of_run old reads applying
      obtain rfl := Table.find?_key reads.found
      exact ⟨rfl, @judged_judges .discrepancy .verified operation.remittance.id actorUserId
        operation.remittance.declaredMillimes 0 view.current.remittances (by decide)
        (receipt_row receipt)⟩
    next =>
      obtain rfl := Except.ok.inj verifying
      exact ⟨rfl, Received.refl _, fun _ member _ => .inl member⟩
  obtain ⟨sameDiscrepancies, receipts, countersigned⟩ := verifies
  rw [sameDiscrepancies] at settles
  obtain ⟨opened, settled⟩ := settleDiscrepancy_settles settles
  refine ⟨⟨opened, receipts⟩, countersigned, fun other member _ => (settled other member).imp_right ?_⟩
  rintro ⟨before, known, same, rfl⟩
  obtain ⟨opener, about, about_receipt⟩ := settled_row behind attests (Table.find?_mem read) known same
  obtain ⟨now, receiver, there, here, still, by_receiver, other⟩ := receipt
  obtain ⟨last, at_last, sameId, status, kept⟩ := receipts now there still
  exact ⟨actorUserId, {
    closed := rfl
    opener := fun equal => apart (opener.symm.trans equal)
    collection := fun id mentions => by
      have none : (settledBy input.resolution actorUserId before).cashCollectionId = none :=
        about.trans scope.2.1
      simp [none] at mentions
    receipt := fun id mentions => by
      obtain rfl := Option.some.inj (scope.1.symm.trans (about_receipt.symm.trans mentions))
      exact ⟨last, receiver, at_last, sameId.trans here, status, kept.trans by_receiver, other⟩ }⟩

theorem cash_judges {op : CashOp} (attests : Attests view.snapshot view.current)
    (ran : op.exec view = .ok next) : Judges view.current next := by
  cases op with
  | recordCollection => exact recordCollection_judges old sums behind ran
  | createRemittance => exact createRemittance_judges old behind ran
  | submitRemittance => exact submitRemittance_judges ran
  | reconcileRemittance => exact reconcileRemittance_judges old attests ran
  | resolveDiscrepancy =>
    rcases resolveDiscrepancy_cases ran with ⟨_, collection⟩ | ⟨_, remittance⟩
    next => exact resolveCollectionDiscrepancy_judges old sums behind attests collection
    next => exact resolveRemittanceDiscrepancy_judges old behind attests remittance

end View

structure Watched (session : Session) : Prop where
  steady : Steady session
  separated : Separated session.clocked.db
  dual : DualControl session.clocked.db
  attests : forall snapshot, snapshot ∈ session.opened -> Attests snapshot session.clocked.db

theorem step_judges {session : Session} (label : Label) (watched : Watched session) :
    Judges session.clocked.db (step session label).clocked.db := by
  cases performs : performed session label with
  | none =>
    rcases unperformed performs with same | ⟨timed, -, other, ran⟩
    next => exact judges_same (by rw [same]) (by rw [same])
    next =>
      have writes := Frames.exec_writes ran .remitting (by
        cases op : timed.op with
        | cash inner => exact absurd op (other inner)
        | _ => simp [Frames.areas])
      simp only [Frames.Area.Same, Prod.mk.injEq] at writes
      exact judges_same writes.1 writes.2.2.1
  | some both =>
    obtain ⟨view, op⟩ := both
    obtain ⟨same, old, behind, reached⟩ := performed_view watched.steady performs
    rw [reached, <- same]
    cases ran : op.exec view with
    | error failure => exact judges_same rfl rfl
    | ok next =>
      refine cash_judges old (same ▸ watched.steady.sums) behind ?_ ran
      cases label with
      | atomic timed =>
        obtain ⟨elapsed, run⟩ := timed
        cases run with
        | cash op' =>
          simp only [performed, Option.some.injEq, Prod.mk.injEq] at performs
          obtain ⟨rfl, -⟩ := performs
          exact Attests.refl _
        | _ => simp [performed] at performs
      | begins => simp [performed] at performs
      | commits index elapsed op' =>
        simp only [performed, Option.map_eq_some_iff, Prod.mk.injEq] at performs
        obtain ⟨snapshot, found, rfl, -⟩ := performs
        exact watched.attests snapshot (List.mem_of_getElem? found)

-- Transactions of cash write no adjustment and no entry of the ledger.
theorem step_dualControl {session : Session} (label : Label) (watched : Watched session) :
    DualControl (step session label).clocked.db := by
  cases performs : performed session label with
  | none =>
    rcases unperformed performs with same | ⟨timed, -, -, ran⟩
    next => exact same ▸ watched.dual
    next => exact exec_dualControl watched.dual ran
  | some both =>
    obtain ⟨view, op⟩ := both
    obtain ⟨same, old, behind, reached⟩ := performed_view watched.steady performs
    rw [reached]
    cases ran : op.exec view with
    | error failure => exact same ▸ watched.dual
    | ok next =>
      have writes := Frames.cash_writes ran .stock (by simp)
      simp only [Frames.Area.Same, Prod.mk.injEq] at writes
      refine dualControl_kept (same ▸ watched.dual) ?_ fun _ member _ => writes.2.2.1 ▸ member
      exact writes.2.2.2.2.1 ▸ fun _ _ => Iff.rfl

theorem step_watched (session : Session) (label : Label) (watched : Watched session) :
    Watched (step session label) where
  steady := step_steady session label watched.steady
  separated := judges_separated watched.separated watched.steady.sums.settled.linked
    (step_behind label watched.steady) (step_judges label watched)
  dual := step_dualControl label watched
  attests snapshot member := by
    have attests := (step_judges label watched).attests
    rcases step_opened member with known | rfl
    next => exact (watched.attests snapshot known).trans attests
    next => exact attests

theorem opening_watched (config : Config.Configuration) (orderSequence : Option Int) (now : Int) :
    Watched (opening config orderSequence now) where
  steady := opening_steady config orderSequence now
  separated := ⟨by simp [opening, System.opening, Db.empty], by simp [opening, System.opening, Db.empty]⟩
  dual := ⟨by simp [opening, System.opening, Db.empty], by simp [opening, System.opening, Db.empty]⟩
  attests := by simp [opening]

def closedStatuses : List CashDiscrepancyStatus :=
  [.resolved, .writtenOff]

-- Nobody signs off their own work: remittances, discrepancies and adjustments of stock.
structure SecondPerson (db : Db) : Prop where
  verified : forall row, row ∈ db.remittances.rows -> row.status = .verified -> Countersigned row
  closed : forall row, row ∈ db.discrepancies.rows -> row.status ∈ closedStatuses ->
    exists closer, row.resolvedByUserId = some closer /\ closer ≠ row.openedByUserId /\
      (forall collection, collection ∈ db.collections.rows -> row.cashCollectionId = some collection.id ->
        exists collector, collection.collectedByUserId = some collector /\ closer ≠ collector) /\
      forall remittance, remittance ∈ db.remittances.rows -> row.remittanceId = some remittance.id ->
        exists receiver, remittance.receivedByUserId = some receiver /\ closer ≠ receiver
  adjusted : DualControl db

theorem secondPerson_of_separated (separated : Separated db) (dual : DualControl db) : SecondPerson db where
  verified := separated.verified
  closed row member status := by
    obtain ⟨closer, apart⟩ := separated.closed row member (by
      simp only [closedStatuses, List.mem_cons, List.not_mem_nil, or_false] at status
      rcases status with is | is <;> simp [is, unsettledStatuses])
    refine ⟨closer, apart.closed, Ne.symm apart.opener, fun collection known about => ?_,
      fun remittance known about => ?_⟩
    next =>
      obtain ⟨other, collector, there, same, -, collected, differ⟩ := apart.collection _ about
      obtain rfl := db.collections.same_of_key there known same
      exact ⟨collector, collected, Ne.symm differ⟩
    next =>
      obtain ⟨other, receiver, there, same, -, received, differ⟩ := apart.receipt _ about
      obtain rfl := db.remittances.same_of_key there known same
      exact ⟨receiver, received, Ne.symm differ⟩
  adjusted := dual

/-- In every state of every interleaving, what needs a second person has one, and an operation on an
adjustment changes stock only with the approval of somebody who did not request it. -/
theorem four_eyes (config : Config.Configuration) (orderSequence : Option Int) (start : Int)
    (labels : List Label) :
    SecondPerson (Runs.run step (opening config orderSequence start) labels).clocked.db /\
      forall before timed after, labels = before ++ .atomic timed :: after ->
        let reached := Runs.run step (opening config orderSequence start) before
        StockAdjusted reached.clocked.db (step reached (.atomic timed)).clocked.db timed.op := by
  constructor
  next =>
    have watched := Runs.run_keeps step_watched (opening_watched config orderSequence start) labels
    exact secondPerson_of_separated watched.separated watched.dual
  next =>
    intro before timed after _ reached
    rcases System.step_db reached.clocked timed with same | ran
    next => exact stockAdjusted_same (congrArg Db.items same) timed.op
    next => exact exec_stockAdjusted ran

end VapeCommerce.Cash.FourEyes
