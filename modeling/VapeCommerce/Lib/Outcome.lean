import Mathlib.Algebra.Order.Ring.Int
import Mathlib.Tactic.Common

set_option autoImplicit false

-- Fallible computations: the guards they are written with, and how a successful run comes apart.
namespace VapeCommerce.Lib.Outcome

variable {E A B S : Type}

def throwIf (bad : Prop) [Decidable bad] (error : E) : Except E Unit :=
  if bad then .error error else .ok ()

-- A check that only some inputs have to pass.
def requireWhen (needed : Prop) [Decidable needed] (check : Except E Unit) : Except E Unit :=
  if needed then check else .ok ()

def orThrow (found : Option A) (error : E) : Except E A :=
  match found with
  | some value => .ok value
  | none => .error error

def succeeded : Except E A -> Option A
  | .ok value => some value
  | .error _ => none

@[simp]
theorem bind_ok (first : Except E A) (next : A -> Except E B) (result : B) :
    (first >>= next) = .ok result <-> exists value, first = .ok value /\ next value = .ok result := by
  cases first with
  | error error => simp [bind, Except.bind]
  | ok value => simp [bind, Except.bind]

@[simp]
theorem bind_error (first : Except E A) (next : A -> Except E B) (error : E) :
    (first >>= next) = .error error <->
      first = .error error \/ exists value, first = .ok value /\ next value = .error error := by
  cases first with
  | error error => simp [bind, Except.bind]
  | ok value => simp [bind, Except.bind]

@[simp]
theorem pure_ok (value result : A) : (pure value : Except E A) = .ok result <-> value = result := by
  simp [pure, Except.pure]

@[simp]
theorem throwIf_ok (bad : Prop) [Decidable bad] (error : E) (result : Unit) :
    throwIf bad error = .ok result <-> Not bad := by
  by_cases h : bad <;> simp [throwIf, h]

@[simp]
theorem throwIf_error (bad : Prop) [Decidable bad] (error other : E) :
    throwIf bad error = .error other <-> bad /\ error = other := by
  by_cases h : bad <;> simp [throwIf, h]

@[simp]
theorem requireWhen_ok (needed : Prop) [Decidable needed] (check : Except E Unit) (result : Unit) :
    requireWhen needed check = .ok result <-> (needed -> check = .ok ()) := by
  by_cases h : needed <;> simp [requireWhen, h]

@[simp]
theorem orThrow_ok (found : Option A) (error : E) (value : A) :
    orThrow found error = .ok value <-> found = some value := by
  cases found <;> simp [orThrow]

@[simp]
theorem succeeded_some (ran : Except E A) (value : A) : succeeded ran = some value <-> ran = .ok value := by
  cases ran <;> simp [succeeded]

theorem ok_of_bind {first : Except E A} {value : A} (ran : first = .ok value)
    (next : A -> Except E B) : (first >>= next) = next value := by
  simp [ran, bind, Except.bind]

theorem throwIf_passes {bad : Prop} [Decidable bad] (fine : Not bad) (error : E) :
    throwIf bad error = .ok () := by
  simp [throwIf, fine]

-- A loop over a list keeps whatever each of its rounds keeps.
theorem foldlM_keeps (keep : S -> Prop) (round : S -> A -> Except E S) (items : List A)
    (each : forall state item next, item ∈ items -> keep state -> round state item = .ok next ->
      keep next)
    (start finish : S) (initial : keep start) (ran : items.foldlM round start = .ok finish) :
    keep finish := by
  induction items generalizing start with
  | nil =>
    simp only [List.foldlM_nil, pure_ok] at ran
    exact ran ▸ initial
  | cons head tail ih =>
    simp only [List.foldlM_cons, bind_ok] at ran
    obtain ⟨middle, first, rest⟩ := ran
    have kept := each start head middle (by simp) initial first
    exact ih (fun state item next member => each state item next (by simp [member])) middle kept rest

-- The same, where the invariant also speaks of the items that are left.
theorem foldlM_remaining (keep : S -> List A -> Prop) {round : S -> A -> Except E S}
    (each : forall state item rest next, keep state (item :: rest) -> round state item = .ok next ->
      keep next rest)
    {items : List A} {start finish : S} (initial : keep start items)
    (ran : items.foldlM round start = .ok finish) : keep finish [] := by
  induction items generalizing start with
  | nil =>
    simp only [List.foldlM_nil, pure_ok] at ran
    exact ran ▸ initial
  | cons head tail ih =>
    simp only [List.foldlM_cons, bind_ok] at ran
    obtain ⟨middle, first, rest⟩ := ran
    exact ih (each start head tail middle initial first) rest

-- What every successful round of a loop has checked of its item.
theorem foldlM_each {round : S -> A -> Except E S} {checked : A -> Prop} {items : List A}
    (each : forall state item next, round state item = .ok next -> checked item) {start finish : S}
    (ran : items.foldlM round start = .ok finish) : forall item, item ∈ items -> checked item := by
  induction items generalizing start with
  | nil => simp
  | cons head tail ih =>
    simp only [List.foldlM_cons, bind_ok] at ran
    obtain ⟨middle, first, rest⟩ := ran
    exact List.forall_mem_cons.2 ⟨each start head middle first, ih rest⟩

theorem forM_ok (f : A -> Except E Unit) (items : List A) (result : Unit) :
    items.forM f = .ok result <-> forall item, item ∈ items -> f item = .ok () := by
  induction items with
  | nil => simp
  | cons head tail ih =>
    have unrolled : (head :: tail).forM f = (f head >>= fun _ => tail.forM f) := rfl
    simp only [unrolled, bind_ok, ih, List.forall_mem_cons]
    exact ⟨fun ⟨_, first, rest⟩ => ⟨first, rest⟩, fun ⟨first, rest⟩ => ⟨(), first, rest⟩⟩

@[simp]
theorem map_ok (f : A -> B) (first : Except E A) (result : B) :
    (f <$> first) = .ok result <-> exists value, first = .ok value /\ f value = result := by
  cases first <;> simp [Functor.map, Except.map]

theorem mapM_cons_ok (f : A -> Except E B) (head : A) (tail : List A) (results : List B) :
    (head :: tail).mapM f = .ok results <->
      exists first, f head = .ok first /\ exists rest, tail.mapM f = .ok rest /\
        first :: rest = results := by
  simp only [List.mapM_cons, bind_ok, pure_ok]

-- Each result of a loop that collects results comes from one of its items.
theorem mapM_ok_mem {f : A -> Except E B} {items : List A} {results : List B}
    (ran : items.mapM f = .ok results) {result : B} (member : result ∈ results) :
    exists item, item ∈ items /\ f item = .ok result := by
  induction items generalizing results with
  | nil =>
    simp only [List.mapM_nil, pure_ok] at ran
    subst ran
    simp at member
  | cons head tail ih =>
    obtain ⟨first, made, rest, later, rfl⟩ := (mapM_cons_ok f head tail results).1 ran
    cases List.mem_cons.1 member with
    | inl here => exact ⟨head, by simp, here ▸ made⟩
    | inr there =>
      obtain ⟨item, present, same⟩ := ih later there
      exact ⟨item, by simp [present], same⟩

-- What every result keeps of its item, the results keep of the items.
theorem mapM_field {C : Type} {f : A -> Except E B} (field : A -> C) (read : B -> C)
    (each : forall item result, f item = .ok result -> read result = field item) {items : List A}
    {results : List B} (ran : items.mapM f = .ok results) : results.map read = items.map field := by
  induction items generalizing results with
  | nil =>
    simp only [List.mapM_nil, pure_ok] at ran
    simp [<- ran]
  | cons head tail ih =>
    obtain ⟨first, made, rest, later, rfl⟩ := (mapM_cons_ok f head tail results).1 ran
    rw [List.map_cons, List.map_cons, each head first made, ih later]

theorem mapM_runs {f : A -> Except E B} {items : List A}
    (each : forall item, item ∈ items -> exists result, f item = .ok result) :
    exists results, items.mapM f = .ok results := by
  induction items with
  | nil => exact ⟨[], rfl⟩
  | cons head tail ih =>
    obtain ⟨first, made⟩ := each head List.mem_cons_self
    obtain ⟨rest, later⟩ := ih fun item member => each item (List.mem_cons_of_mem head member)
    exact ⟨first :: rest, (mapM_cons_ok f head tail _).2 ⟨first, made, rest, later, rfl⟩⟩

theorem mapM_ok_map {f : A -> Except E B} {g : A -> B} {items : List A}
    (each : forall item, item ∈ items -> f item = .ok (g item)) : items.mapM f = .ok (items.map g) := by
  induction items with
  | nil => rfl
  | cons head tail ih =>
    refine (mapM_cons_ok f head tail _).2 ⟨g head, each head List.mem_cons_self, tail.map g, ?_, rfl⟩
    exact ih fun item member => each item (List.mem_cons_of_mem head member)

end VapeCommerce.Lib.Outcome
