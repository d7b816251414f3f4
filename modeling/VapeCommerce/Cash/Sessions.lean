import VapeCommerce.Orders.Runs

set_option autoImplicit false

-- Interleaved cash transactions: each reads from the state its first plain read found, and writes
-- to the state it commits in. Every other operation is one transaction of its own.
namespace VapeCommerce.Cash.Sessions

open VapeCommerce.Lib VapeCommerce.Lib.Outcome VapeCommerce.Schema VapeCommerce.Database
open VapeCommerce.Cash.Calculations VapeCommerce.Cash.Admin VapeCommerce.Cash.Remittances
open VapeCommerce.Cash.Settlement VapeCommerce.Cash.Operations VapeCommerce.Orders.Case
open VapeCommerce.Orders.Progress VapeCommerce.Orders.Transactions VapeCommerce.Orders.Runs
open VapeCommerce.System

-- `opened` are the snapshots of the transactions in progress.
structure Session where
  clocked : Clocked
  opened : List Db

inductive Label where
  | atomic (timed : Timed)
  | begins
  | commits (index elapsed : Nat) (op : CashOp)

def committed (clocked : Clocked) (snapshot : Db) (elapsed : Nat) (op : CashOp) : Clocked where
  now := clocked.now + elapsed
  db := (succeeded (op.exec { snapshot, current := clocked.db })).getD clocked.db

def step (session : Session) : Label -> Session
  | .atomic timed => { session with clocked := System.step session.clocked timed }
  | .begins => { session with opened := session.opened ++ [session.clocked.db] }
  | .commits index elapsed op =>
    match session.opened[index]? with
    | none => session
    | some snapshot => {
        clocked := committed session.clocked snapshot elapsed op
        opened := session.opened.eraseIdx index }

def opening (config : Config.Configuration) (orderSequence : Option Int) (now : Int) : Session where
  clocked := System.opening config orderSequence now
  opened := []

-- The committed state and every snapshot are consistent, and no snapshot is ahead.
structure Steady (session : Session) : Prop where
  sums : Sums session.clocked.db
  opened : forall snapshot, snapshot ∈ session.opened ->
    Sums snapshot /\ Behind snapshot session.clocked.db

theorem committed_cases (clocked : Clocked) (snapshot : Db) (elapsed : Nat) (op : CashOp) :
    (committed clocked snapshot elapsed op).db = clocked.db \/
      op.exec { snapshot, current := clocked.db } = .ok (committed clocked snapshot elapsed op).db := by
  unfold committed
  cases ran : op.exec { snapshot, current := clocked.db } with
  | error failure => exact .inl rfl
  | ok next => exact .inr rfl

theorem committed_steady {session : Session} (steady : Steady session) {snapshot : Db}
    (member : snapshot ∈ session.opened) (elapsed : Nat) (op : CashOp) :
    Sums (committed session.clocked snapshot elapsed op).db /\
      Behind session.clocked.db (committed session.clocked snapshot elapsed op).db := by
  obtain ⟨old, behind⟩ := steady.opened snapshot member
  rcases committed_cases session.clocked snapshot elapsed op with same | ran
  next =>
    rw [same]
    exact ⟨steady.sums, Behind.refl _⟩
  next => exact (cash_commits old steady.sums behind ran).sums steady.sums

theorem atomic_steady {clocked : Clocked} (timed : Timed) (sums : Sums clocked.db) :
    Sums (System.step clocked timed).db /\ Behind clocked.db (System.step clocked timed).db := by
  cases step_db clocked timed with
  | inl same =>
    rw [same]
    exact ⟨sums, Behind.refl _⟩
  | inr ran => exact exec_sums sums ran

theorem step_commits (session : Session) (index elapsed : Nat) (op : CashOp) :
    step session (.commits index elapsed op) = session \/
      exists snapshot, snapshot ∈ session.opened /\
        step session (.commits index elapsed op) = {
          clocked := committed session.clocked snapshot elapsed op
          opened := session.opened.eraseIdx index } := by
  simp only [step]
  cases found : session.opened[index]? with
  | none => exact .inl rfl
  | some snapshot => exact .inr ⟨snapshot, List.mem_of_getElem? found, rfl⟩

theorem step_steady (session : Session) (label : Label) (steady : Steady session) :
    Steady (step session label) := by
  cases label with
  | atomic timed =>
    obtain ⟨sums, behind⟩ := atomic_steady timed steady.sums
    exact ⟨sums, fun snapshot member =>
      (steady.opened snapshot member).imp_right fun before => before.trans behind⟩
  | begins =>
    refine ⟨steady.sums, fun snapshot member => ?_⟩
    rcases List.mem_append.1 member with known | added
    next => exact steady.opened snapshot known
    next =>
      obtain rfl := List.mem_singleton.1 added
      exact ⟨steady.sums, Behind.refl _⟩
  | commits index elapsed op =>
    rcases step_commits session index elapsed op with same | ⟨snapshot, member, here⟩
    next => rwa [same]
    next =>
      rw [here]
      obtain ⟨sums, behind⟩ := committed_steady steady member elapsed op
      exact ⟨sums, fun other listed =>
        (steady.opened other (List.mem_of_mem_eraseIdx listed)).imp_right fun before =>
          before.trans behind⟩

theorem opening_steady (config : Config.Configuration) (orderSequence : Option Int) (now : Int) :
    Steady (opening config orderSequence now) :=
  ⟨empty_sums config orderSequence, by simp [opening]⟩

theorem run_steady (config : Config.Configuration) (orderSequence : Option Int) (start : Int)
    (labels : List Label) : Steady (Runs.run step (opening config orderSequence start) labels) :=
  Runs.run_keeps step_steady (opening_steady config orderSequence start) labels

-- The cash operation a step runs, and what its reads see.
def performed (session : Session) : Label -> Option (View × CashOp)
  | .atomic timed =>
    match timed.op with
    | .cash op => some (View.latest session.clocked.db, op)
    | _ => none
  | .begins => none
  | .commits index _ op =>
    session.opened[index]?.map fun snapshot => ({ snapshot, current := session.clocked.db }, op)

theorem performed_view {session : Session} {label : Label} {view : View} {op : CashOp}
    (steady : Steady session) (performs : performed session label = some (view, op)) :
    view.current = session.clocked.db /\ Sums view.snapshot /\ Behind view.snapshot view.current /\
      (step session label).clocked.db = (succeeded (op.exec view)).getD view.current := by
  cases label with
  | atomic timed =>
    obtain ⟨elapsed, run⟩ := timed
    cases run with
    | cash op' =>
      simp only [performed, Option.some.injEq, Prod.mk.injEq] at performs
      obtain ⟨rfl, rfl⟩ := performs
      exact ⟨rfl, steady.sums, Behind.refl _, rfl⟩
    | _ => simp [performed] at performs
  | begins => simp [performed] at performs
  | commits index elapsed op' =>
    simp only [performed, Option.map_eq_some_iff, Prod.mk.injEq] at performs
    obtain ⟨snapshot, found, rfl, rfl⟩ := performs
    obtain ⟨sums, behind⟩ := steady.opened snapshot (List.mem_of_getElem? found)
    refine ⟨rfl, sums, behind, ?_⟩
    simp [step, found, committed]

-- A step that runs no cash operation changes nothing, or is one of the other operations.
theorem unperformed {session : Session} {label : Label} (none : performed session label = none) :
    (step session label).clocked.db = session.clocked.db \/
      exists timed, label = .atomic timed /\ (forall op, timed.op ≠ .cash op) /\
        exec session.clocked.db (session.clocked.now + timed.elapsed) timed.op =
          .ok (step session label).clocked.db := by
  cases label with
  | atomic timed =>
    refine (step_db session.clocked timed).imp_right fun ran => ⟨timed, rfl, fun op same => ?_, ran⟩
    simp [performed, same] at none
  | begins => exact .inl rfl
  | commits index elapsed op =>
    simp only [performed, Option.map_eq_none_iff] at none
    simp [step, none]

theorem step_opened {session : Session} {label : Label} {snapshot : Db}
    (member : snapshot ∈ (step session label).opened) :
    snapshot ∈ session.opened \/ snapshot = session.clocked.db := by
  cases label with
  | atomic timed => exact .inl member
  | begins =>
    simpa [step] using member
  | commits index elapsed op =>
    rcases step_commits session index elapsed op with same | ⟨_, -, here⟩
    next => exact .inl (same ▸ member)
    next => exact .inl (List.mem_of_mem_eraseIdx (here ▸ member))

theorem step_behind {session : Session} (label : Label) (steady : Steady session) :
    Behind session.clocked.db (step session label).clocked.db := by
  cases label with
  | atomic timed => exact (atomic_steady timed steady.sums).2
  | begins => exact Behind.refl _
  | commits index elapsed op =>
    rcases step_commits session index elapsed op with same | ⟨snapshot, member, here⟩
    next =>
      rw [same]
      exact Behind.refl _
    next =>
      rw [here]
      exact (committed_steady steady member elapsed op).2

theorem step_advances {session : Session} (label : Label) (steady : Steady session) :
    exists allowed, Advance allowed session.clocked.db (step session label).clocked.db := by
  cases performs : performed session label with
  | none =>
    rcases unperformed performs with same | ⟨timed, -, -, ran⟩
    next =>
      rw [same]
      exact ⟨fun _ _ => True, Advance.refl steady.sums.settled.linked⟩
    next => exact ⟨_, exec_advance steady.sums ran⟩
  | some both =>
    obtain ⟨view, op⟩ := both
    obtain ⟨same, old, behind, reached⟩ := performed_view steady performs
    rw [reached, <- same]
    have sums : Sums view.current := same ▸ steady.sums
    cases ran : op.exec view with
    | error failure => exact ⟨fun _ _ => True, Advance.refl sums.settled.linked⟩
    | ok next => exact ⟨_, (cash_commits old sums behind ran).advance⟩

-- What every step of an order keeps, and every new order has, holds of all orders.
theorem step_each {keep : OrderCase -> Prop} (fresh : forall case, Fresh case -> keep case)
    (each : forall event case after, CaseStep event case after -> Sound case -> keep case -> keep after)
    (session : Session) (label : Label) (steady : Steady session)
    (kept : forall orderId case, IsCase session.clocked.db orderId case -> keep case) :
    forall orderId case, IsCase (step session label).clocked.db orderId case -> keep case := by
  intro orderId last there
  obtain ⟨allowed, advance⟩ := step_advances label steady
  have sound := steady.sums.settled.sound
  refine (@Advance.keeps allowed _ _ (fun case => Sound case /\ keep case) advance
    (fun case new => ⟨new.sound, fresh case new⟩)
    (fun _ event case after _ taken both => ⟨taken.sound both.1, each event case after taken both.1 both.2⟩)
    (fun orderId case is => ⟨sound orderId case is, kept orderId case is⟩) orderId last there).2

-- What a collection answers for covers its items; without such an amount it has none.
def WithinAccountable (db : Db) (collection : CashCollection) : Prop :=
  match accountableCollectionMillimes (discrepancyOf db collection.id) collection with
  | .ok accountable => itemsTotal (itemsOn db.remittanceItems collection.id) <= accountable
  | .error _ => itemsOn db.remittanceItems collection.id = []

theorem within_accountable {db : Db} (sums : Sums db) {collection : CashCollection}
    (member : collection ∈ db.collections.rows) : WithinAccountable db collection := by
  obtain ⟨case, is, rfl⟩ := sums.settled.linked.case_of_collection member
  unfold WithinAccountable
  rw [is.discrepancy]
  split
  next accountable answers => exact sums.funded.covered _ case accountable is answers
  next failure unanswered =>
    refine List.eq_nil_iff_forall_not_mem.2 fun item listed => ?_
    obtain ⟨known, here⟩ := List.mem_filter.1 listed
    obtain ⟨_, other, accountable, also, there, -, answers⟩ := sums.funded.backed item known
    obtain ⟨-, rfl⟩ := case_of_collection_id also is (there.trans (beq_iff_eq.1 here))
    rw [Answers, unanswered] at answers
    simp at answers

/-- In every state of every interleaving, no collection is allocated beyond what it answers for, and
every remittance declares the sum of its items. -/
theorem never_over_allocated (config : Config.Configuration) (orderSequence : Option Int) (start : Int)
    (labels : List Label) :
    let reached := (Runs.run step (opening config orderSequence start) labels).clocked.db
    (forall collection, collection ∈ reached.collections.rows ->
        WithinAccountable reached collection) /\
      forall remittance, remittance ∈ reached.remittances.rows ->
        itemsTotal (itemsIn reached.remittanceItems remittance.id) = remittance.declaredMillimes := by
  intro reached
  have sums := (run_steady config orderSequence start labels).sums
  exact ⟨fun collection member => within_accountable sums member, sums.funded.declared⟩

end VapeCommerce.Cash.Sessions
