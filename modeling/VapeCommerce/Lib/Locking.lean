import Mathlib.Data.List.Induction
import Mathlib.Logic.Function.Basic
import Mathlib.Logic.Relation
import VapeCommerce.Lib.Runs

set_option autoImplicit false

-- Transactions at REPEATABLE READ around one lock. The first plain read of a transaction opens the
-- snapshot that its later plain reads see; its writes meet the latest commit.
namespace VapeCommerce.Lib.Locking

inductive Statement where
  | lock
  | look
  | work
deriving DecidableEq, Repr

structure Transaction (S C : Type) where
  call : C
  rest : List Statement
  snapshot : Option S

structure State (S C : Type) where
  committed : S
  holder : Option Nat
  active : Nat -> Option (Transaction S C)

-- `outside` is what transactions commit that never take the lock.
inductive Label (C O : Type) where
  | start (id : Nat) (call : C)
  | advance (id : Nat)
  | abandon (id : Nat)
  | outside (op : O)

-- The statements of a call, what its last one commits from the snapshot and the latest state, and what
-- commits outside the lock.
structure System (S C O : Type) where
  plan : C -> List Statement
  work : C -> S -> S -> Option S
  outside : O -> S -> S

variable {S C O : Type}

def State.opening (committed : S) : State S C where
  committed := committed
  holder := none
  active := fun _ => none

def State.enter (state : State S C) (id : Nat) (transaction : Transaction S C) : State S C :=
  { state with active := Function.update state.active id (some transaction) }

def State.leave (state : State S C) (id : Nat) (committed : S) : State S C where
  committed := committed
  holder := if state.holder = some id then none else state.holder
  active := Function.update state.active id none

def Transaction.view (transaction : Transaction S C) (committed : S) : S :=
  transaction.snapshot.getD committed

namespace System

variable (system : System S C O)

def advance (state : State S C) (id : Nat) (transaction : Transaction S C) : State S C :=
  match transaction.rest with
  | [] => state
  | .lock :: rest =>
    if state.holder = none \/ state.holder = some id then
      { state.enter id { transaction with rest } with holder := some id }
    else state
  | .look :: rest =>
    state.enter id { transaction with rest, snapshot := some (transaction.view state.committed) }
  | .work :: _ =>
    state.leave id
      ((system.work transaction.call (transaction.view state.committed) state.committed).getD state.committed)

def step (state : State S C) : Label C O -> State S C
  | .start id call =>
    match state.active id with
    | none => state.enter id { call, rest := system.plan call, snapshot := none }
    | some _ => state
  | .advance id =>
    match state.active id with
    | none => state
    | some transaction => system.advance state id transaction
  | .abandon id =>
    match state.active id with
    | none => state
    | some _ => state.leave id state.committed
  | .outside op => { state with committed := system.outside op state.committed }

-- The step commits this call.
structure Commits (state : State S C) (label : Label C O) (transaction : Transaction S C) (next : S) :
    Prop where
  advances : exists id, label = .advance id /\ state.active id = some transaction
  last : exists rest, transaction.rest = .work :: rest
  works : system.work transaction.call (transaction.view state.committed) state.committed = some next

theorem advance_committed (state : State S C) (id : Nat) (transaction : Transaction S C)
    (here : state.active id = some transaction) :
    (system.advance state id transaction).committed = state.committed \/
      system.Commits state (.advance id) transaction (system.advance state id transaction).committed := by
  cases remaining : transaction.rest with
  | nil => exact .inl (by simp [advance, remaining])
  | cons statement rest =>
    cases statement with
    | lock =>
      left
      simp only [advance, remaining]
      split <;> rfl
    | look => exact .inl (by simp [advance, remaining, State.enter])
    | work =>
      cases works : system.work transaction.call (transaction.view state.committed) state.committed with
      | none => exact .inl (by simp [advance, remaining, State.leave, works])
      | some next =>
        right
        have committed : (system.advance state id transaction).committed = next := by
          simp [advance, remaining, State.leave, works]
        exact ⟨⟨id, rfl, here⟩, ⟨rest, remaining⟩, works.trans (congrArg some committed.symm)⟩

-- Only an outside commit and the last statement of a call change what is committed.
theorem step_committed (state : State S C) (label : Label C O) :
    (system.step state label).committed = state.committed \/
      (exists op, label = .outside op /\
        (system.step state label).committed = system.outside op state.committed) \/
      exists transaction, system.Commits state label transaction (system.step state label).committed := by
  cases label with
  | start id call =>
    left
    simp only [step]
    split <;> rfl
  | advance id =>
    cases here : state.active id with
    | none => exact .inl (by simp [step, here])
    | some transaction =>
      have commits := system.advance_committed state id transaction here
      simp only [step, here]
      exact commits.imp_right fun commits => .inr ⟨transaction, commits⟩
  | abandon id =>
    left
    simp only [step]
    split <;> rfl
  | outside op => exact .inr (.inl ⟨op, rfl, rfl⟩)

theorem enter_elsewhere (state : State S C) {id other : Nat} (transaction : Transaction S C)
    (apart : other ≠ id) : (state.enter id transaction).active other = state.active other :=
  Function.update_of_ne apart _ _

theorem leave_elsewhere (state : State S C) {id other : Nat} (committed : S) (apart : other ≠ id) :
    (state.leave id committed).active other = state.active other :=
  Function.update_of_ne apart _ _

-- Steps of other transactions.
def elsewhere (id : Nat) : Label C O -> Bool
  | .start other _ => other != id
  | .advance other => other != id
  | .abandon other => other != id
  | .outside _ => true

theorem step_elsewhere (state : State S C) {label : Label C O} {id : Nat} (apart : elsewhere id label = true) :
    (system.step state label).active id = state.active id := by
  cases label with
  | start other call =>
    simp only [step]
    split
    next => exact enter_elsewhere _ _ (bne_iff_ne.1 apart).symm
    next => rfl
  | advance other =>
    have different := (bne_iff_ne.1 apart).symm
    simp only [step]
    split
    next => rfl
    next transaction _ =>
      unfold advance
      split
      next => rfl
      next =>
        split
        next => exact enter_elsewhere _ _ different
        next => rfl
      next => exact enter_elsewhere _ _ different
      next => exact leave_elsewhere _ _ different
  | abandon other =>
    simp only [step]
    split
    next => rfl
    next => exact leave_elsewhere _ _ (bne_iff_ne.1 apart).symm
  | outside op => rfl

theorem run_elsewhere {labels : List (Label C O)} {id : Nat} (apart : labels.all (elsewhere id) = true)
    (state : State S C) : (Runs.run system.step state labels).active id = state.active id := by
  induction labels generalizing state with
  | nil => rfl
  | cons label rest ih =>
    rw [List.all_cons, Bool.and_eq_true] at apart
    rw [Runs.run_cons, ih apart.2, system.step_elsewhere state apart.1]

-- What every snapshot that is open satisfies.
def Seen (keep : S -> Prop) (state : State S C) : Prop :=
  forall id transaction snapshot, state.active id = some transaction ->
    transaction.snapshot = some snapshot -> keep snapshot

theorem seen_view {keep : S -> Prop} {state : State S C} (seen : Seen keep state)
    (kept : keep state.committed) {id : Nat} {transaction : Transaction S C}
    (here : state.active id = some transaction) : keep (transaction.view state.committed) := by
  unfold Transaction.view
  cases before : transaction.snapshot with
  | none => exact kept
  | some snapshot => exact seen id transaction snapshot here before

theorem Seen.enter {keep : S -> Prop} {state : State S C} (seen : Seen keep state) {id : Nat}
    {transaction : Transaction S C}
    (opened : forall snapshot, transaction.snapshot = some snapshot -> keep snapshot) :
    Seen keep (state.enter id transaction) := by
  intro other found snapshot active here
  by_cases same : other = id
  next =>
    subst same
    simp only [State.enter, Function.update_self, Option.some.injEq] at active
    exact opened snapshot (active ▸ here)
  next =>
    simp only [State.enter, Function.update_of_ne same] at active
    exact seen other found snapshot active here

theorem Seen.leave {keep : S -> Prop} {state : State S C} (seen : Seen keep state) (id : Nat)
    (committed : S) : Seen keep (state.leave id committed) := by
  intro other found snapshot active here
  by_cases same : other = id
  next => simp [State.leave, same] at active
  next =>
    simp only [State.leave, Function.update_of_ne same] at active
    exact seen other found snapshot active here

theorem step_seen {keep : S -> Prop} (state : State S C) (label : Label C O)
    (kept : keep state.committed) (seen : Seen keep state) : Seen keep (system.step state label) := by
  cases label with
  | start id call =>
    simp only [step]
    split
    next => exact seen.enter (by simp)
    next => exact seen
  | advance id =>
    simp only [step]
    split
    next => exact seen
    next transaction here =>
      unfold advance
      split
      next => exact seen
      next rest _ =>
        split
        next => exact seen.enter fun snapshot before => seen id transaction snapshot here before
        next => exact seen
      next => exact seen.enter fun snapshot opened => Option.some.inj opened ▸ seen_view seen kept here
      next => exact seen.leave id _
  | abandon id =>
    simp only [step]
    split
    next => exact seen
    next => exact seen.leave id _
  | outside op => exact seen

-- How every snapshot that is open relates to what is committed.
def Behind (relate : S -> S -> Prop) (state : State S C) : Prop :=
  forall id transaction snapshot, state.active id = some transaction ->
    transaction.snapshot = some snapshot -> relate snapshot state.committed

theorem behind_view {relate : S -> S -> Prop} {state : State S C} (behind : Behind relate state)
    (reflexive : forall committed, relate committed committed) {id : Nat} {transaction : Transaction S C}
    (here : state.active id = some transaction) :
    relate (transaction.view state.committed) state.committed := by
  unfold Transaction.view
  cases before : transaction.snapshot with
  | none => exact reflexive _
  | some snapshot => exact behind id transaction snapshot here before

-- A relation that every step keeps from the last commit to the next is kept from every snapshot.
theorem step_behind {relate : S -> S -> Prop} (state : State S C) (label : Label C O)
    (transitive : forall before middle after, relate before middle -> relate middle after ->
      relate before after)
    (moved : relate state.committed (system.step state label).committed) (behind : Behind relate state) :
    Behind relate (system.step state label) :=
  @step_seen _ _ _ system (fun snapshot => relate snapshot (system.step state label).committed) state label
    moved fun id transaction snapshot here before =>
      transitive _ _ _ (behind id transaction snapshot here before) moved

-- What is committed outside the lock from one state to another.
def Since : S -> S -> Prop :=
  Relation.ReflTransGen fun before after => exists op, after = system.outside op before

-- A call that locks before it looks.
def lockFirst : List Statement :=
  [.lock, .look, .work]

-- What stands of a transaction that locked first: with a snapshot it still holds the lock, and nothing
-- else has been committed under the lock since.
structure Guarded (state : State S C) (id : Nat) (transaction : Transaction S C) : Prop where
  rest : transaction.rest = lockFirst \/ transaction.rest = [.look, .work] \/
    transaction.rest = [.work]
  waiting : transaction.rest = lockFirst -> transaction.snapshot = none
  holds : Not (transaction.rest = lockFirst) -> state.holder = some id
  looked : transaction.rest = [.work] -> transaction.snapshot.isSome = true
  since : forall snapshot, transaction.snapshot = some snapshot -> system.Since snapshot state.committed

def AllGuarded (state : State S C) : Prop :=
  forall id transaction, state.active id = some transaction -> system.Guarded state id transaction

theorem opening_guarded (committed : S) : system.AllGuarded (State.opening committed) :=
  fun _ _ here => nomatch here

variable {system}

-- Another transaction comes or goes without the lock.
theorem AllGuarded.enter {state : State S C} (guarded : system.AllGuarded state) {id : Nat}
    {transaction : Transaction S C} (here : system.Guarded state id transaction) :
    system.AllGuarded (state.enter id transaction) := by
  intro other found active
  by_cases same : other = id
  next =>
    subst same
    simp only [State.enter, Function.update_self, Option.some.injEq] at active
    subst active
    exact ⟨here.rest, here.waiting, here.holds, here.looked, here.since⟩
  next =>
    simp only [State.enter, Function.update_of_ne same] at active
    have there := guarded other found active
    exact ⟨there.rest, there.waiting, there.holds, there.looked, there.since⟩

theorem AllGuarded.leave {state : State S C} (guarded : system.AllGuarded state) {id : Nat} {committed : S}
    (kept : committed = state.committed \/ state.holder = some id) :
    system.AllGuarded (state.leave id committed) := by
  intro other found active
  by_cases same : other = id
  next => simp [State.leave, same] at active
  next =>
    simp only [State.leave, Function.update_of_ne same] at active
    have there := guarded other found active
    refine ⟨there.rest, there.waiting, fun started => ?_, there.looked, fun snapshot some => ?_⟩
    next =>
      have holds := there.holds started
      simp only [State.leave, holds, Option.some.injEq]
      exact if_neg same
    next =>
      have started : Not (found.rest = lockFirst) := fun waiting => by
        simp [there.waiting waiting] at some
      have holds := there.holds started
      rcases kept with rfl | holder
      next => exact there.since snapshot some
      next => exact absurd (Option.some.inj (holds.symm.trans holder)) same

theorem AllGuarded.advance {state : State S C} (guarded : system.AllGuarded state) {id : Nat}
    {transaction : Transaction S C} (here : state.active id = some transaction) :
    system.AllGuarded (system.advance state id transaction) := by
  have mine := guarded id transaction here
  rcases mine.rest with waiting | locked | looked
  next =>
    simp only [System.advance, waiting, lockFirst]
    split
    next free =>
      have absent := mine.waiting waiting
      intro other found active
      by_cases same : other = id
      next =>
        subst same
        simp only [State.enter, Function.update_self, Option.some.injEq] at active
        subst active
        exact ⟨.inr (.inl rfl), by simp [lockFirst], fun _ => rfl, by simp, by simp [absent]⟩
      next =>
        simp only [State.enter, Function.update_of_ne same] at active
        have there := guarded other found active
        refine ⟨there.rest, there.waiting, fun started => ?_, there.looked, there.since⟩
        have holds := there.holds started
        rcases free with none | own
        next => simp [none] at holds
        next => exact absurd (Option.some.inj (holds.symm.trans own)) same
    next => exact guarded
  next =>
    have holds := mine.holds (by simp [locked, lockFirst])
    simp only [System.advance, locked]
    refine guarded.enter ⟨.inr (.inr rfl), by simp [lockFirst], fun _ => holds, by simp, ?_⟩
    intro snapshot same
    obtain rfl := Option.some.inj same
    unfold Transaction.view
    cases before : transaction.snapshot with
    | none => exact .refl
    | some earlier => exact mine.since earlier before
  next =>
    have holds := mine.holds (by simp [looked, lockFirst])
    simp only [System.advance, looked]
    exact guarded.leave (.inr holds)

theorem step_guarded (first : forall call, system.plan call = lockFirst) (state : State S C)
    (label : Label C O) (guarded : system.AllGuarded state) :
    system.AllGuarded (system.step state label) := by
  cases label with
  | start id call =>
    simp only [step]
    split
    next =>
      exact guarded.enter ⟨.inl (first call), fun _ => rfl, fun started => absurd (first call) started,
        fun looked => by simp [first call, lockFirst] at looked, by simp⟩
    next => exact guarded
  | advance id =>
    simp only [step]
    split
    next => exact guarded
    next transaction here => exact guarded.advance here
  | abandon id =>
    simp only [step]
    split
    next => exact guarded
    next => exact guarded.leave (.inl rfl)
  | outside op =>
    intro id transaction active
    have there := guarded id transaction active
    exact ⟨there.rest, there.waiting, there.holds, there.looked,
      fun snapshot some => (there.since snapshot some).tail ⟨op, rfl⟩⟩

-- A call that locked first works on what was committed when it looked, outside commits apart.
theorem commits_since {state : State S C} {label : Label C O} {transaction : Transaction S C} {next : S}
    (guarded : system.AllGuarded state) (commits : system.Commits state label transaction next) :
    exists snapshot, system.Since snapshot state.committed /\
      system.work transaction.call snapshot state.committed = some next := by
  obtain ⟨⟨id, -, active⟩, -, works⟩ := commits
  refine ⟨transaction.view state.committed, ?_, works⟩
  unfold Transaction.view
  cases before : transaction.snapshot with
  | none => exact .refl
  | some snapshot => exact (guarded id transaction active).since snapshot before

-- What every outside commit keeps has held since the snapshot.
theorem since_keeps (keep : S -> Prop) (each : forall op state, keep state -> keep (system.outside op state))
    {before after : S} (since : system.Since before after) (kept : keep before) : keep after := by
  induction since with
  | refl => exact kept
  | tail _ last ih =>
    obtain ⟨op, rfl⟩ := last
    exact each op _ ih

-- With nothing outside the lock, it works on what is committed now.
theorem commits_current {system : System S C Empty} {state : State S C} {label : Label C Empty}
    {transaction : Transaction S C} {next : S} (guarded : system.AllGuarded state)
    (commits : system.Commits state label transaction next) :
    system.work transaction.call state.committed state.committed = some next := by
  obtain ⟨snapshot, since, works⟩ := commits_since guarded commits
  have same : snapshot = state.committed := by
    cases since.cases_tail with
    | inl same => exact same.symm
    | inr last =>
      obtain ⟨_, -, op, -⟩ := last
      exact op.elim
  exact same ▸ works

-- The calls one after another, each on the latest state; a call that fails leaves it.
def serial (system : System S C O) (start : S) (calls : List C) : S :=
  calls.foldl (fun state call => (system.work call state state).getD state) start

theorem serial_concat (system : System S C O) (start : S) (calls : List C) (call : C) :
    serial system start (calls ++ [call]) =
      (system.work call (serial system start calls) (serial system start calls)).getD
        (serial system start calls) := by
  simp [serial, List.foldl_append]

theorem serial_keeps {system : System S C O} {keep : S -> Prop}
    (each : forall call state next, keep state -> system.work call state state = some next -> keep next)
    {start : S} (initial : keep start) (calls : List C) : keep (serial system start calls) := by
  induction calls using List.reverseRecOn with
  | nil => exact initial
  | append_singleton earlier call ih =>
    rw [serial_concat]
    cases works : system.work call (serial system start earlier) (serial system start earlier) with
    | none => exact ih
    | some next => exact each call _ next ih works

/-- Calls that lock first and meet nothing outside the lock run as some serial order of them. -/
theorem run_serial {system : System S C Empty} (first : forall call, system.plan call = lockFirst)
    (start : S) (labels : List (Label C Empty)) :
    exists calls, (Runs.run system.step (State.opening start) labels).committed = serial system start calls := by
  have kept := @Runs.run_keeps (State S C) (Label C Empty) system.step
    (fun state => system.AllGuarded state /\ exists calls, state.committed = serial system start calls)
    (fun state label ⟨guarded, calls, reached⟩ => by
      refine ⟨step_guarded first state label guarded, ?_⟩
      rcases system.step_committed state label with same | ⟨op, -⟩ | ⟨transaction, commits⟩
      next => exact ⟨calls, same.trans reached⟩
      next => exact op.elim
      next =>
        have works := commits_current guarded commits
        exact ⟨calls ++ [transaction.call], by rw [serial_concat, <- reached, works]; rfl⟩)
    (State.opening start) ⟨opening_guarded system start, [], rfl⟩ labels
  exact kept.2

end System

end VapeCommerce.Lib.Locking
