import Mathlib.Tactic.Common

set_option autoImplicit false

-- Runs of a deterministic labelled system, and what holds in every state they visit.
namespace VapeCommerce.Lib.Runs

variable {S L : Type} (step : S -> L -> S)

def run (start : S) (labels : List L) : S :=
  labels.foldl step start

-- The run visits `state` just before it takes the step `label`.
def Takes (start : S) (labels : List L) (state : S) (label : L) : Prop :=
  exists before after, labels = before ++ label :: after /\ run step start before = state

def Visits (start : S) (labels : List L) (state : S) : Prop :=
  exists before after, labels = before ++ after /\ run step start before = state

variable {step}

@[simp]
theorem run_nil (start : S) : run step start [] = start := rfl

@[simp]
theorem run_append (start : S) (before after : List L) :
    run step start (before ++ after) = run step (run step start before) after :=
  List.foldl_append

@[simp]
theorem run_cons (start : S) (label : L) (rest : List L) :
    run step start (label :: rest) = run step (step start label) rest := rfl

theorem visits_start (start : S) (labels : List L) : Visits step start labels start :=
  ⟨[], labels, rfl, rfl⟩

theorem visits_end (start : S) (labels : List L) : Visits step start labels (run step start labels) :=
  ⟨labels, [], by simp, rfl⟩

theorem takes_visits {start state : S} {labels : List L} {label : L}
    (taken : Takes step start labels state label) :
    Visits step start labels state /\ Visits step start labels (step state label) := by
  obtain ⟨before, after, rfl, rfl⟩ := taken
  exact ⟨⟨before, label :: after, rfl, rfl⟩, ⟨before ++ [label], after, by simp, by simp⟩⟩

theorem visits_cons {start state : S} {label : L} {rest : List L} :
    Visits step start (label :: rest) state <->
      state = start \/ Visits step (step start label) rest state := by
  constructor
  next =>
    rintro ⟨before, after, split, rfl⟩
    cases before with
    | nil => exact .inl rfl
    | cons first before =>
      obtain ⟨rfl, rfl⟩ := List.cons.inj split
      exact .inr ⟨before, after, rfl, rfl⟩
  next =>
    rintro (rfl | ⟨before, after, rfl, rfl⟩)
    next => exact visits_start _ _
    next => exact ⟨label :: before, after, rfl, rfl⟩

theorem takes_cons {start state : S} {first label : L} {rest : List L} :
    Takes step start (first :: rest) state label <->
      (state = start /\ label = first) \/ Takes step (step start first) rest state label := by
  constructor
  next =>
    rintro ⟨before, after, split, rfl⟩
    cases before with
    | nil =>
      obtain ⟨rfl, rfl⟩ := List.cons.inj split
      exact .inl ⟨rfl, rfl⟩
    | cons other before =>
      obtain ⟨rfl, rfl⟩ := List.cons.inj split
      exact .inr ⟨before, after, rfl, rfl⟩
  next =>
    rintro (⟨rfl, rfl⟩ | ⟨before, after, rfl, rfl⟩)
    next => exact ⟨[], rest, rfl, rfl⟩
    next => exact ⟨first :: before, after, rfl, rfl⟩

theorem run_keeps {keep : S -> Prop} (each : forall state label, keep state -> keep (step state label))
    {start : S} (initial : keep start) (labels : List L) : keep (run step start labels) := by
  induction labels generalizing start with
  | nil => exact initial
  | cons label rest ih => exact ih (each start label initial)

theorem visits_keeps {keep : S -> Prop}
    (each : forall state label, keep state -> keep (step state label)) {start state : S}
    {labels : List L} (initial : keep start) (visited : Visits step start labels state) :
    keep state := by
  obtain ⟨before, after, -, rfl⟩ := visited
  exact run_keeps each initial before

-- What every `fine` step keeps holds throughout a run of such steps.
theorem fine_visits_keeps {keep : S -> Prop} {fine : S -> L -> Prop}
    (each : forall state label, keep state -> fine state label -> keep (step state label))
    {start state : S} {labels : List L} (initial : keep start)
    (all : forall state label, Takes step start labels state label -> fine state label)
    (visited : Visits step start labels state) : keep state := by
  induction labels generalizing start with
  | nil =>
    obtain ⟨before, after, split, rfl⟩ := visited
    obtain ⟨rfl, -⟩ := List.append_eq_nil_iff.1 split.symm
    exact initial
  | cons first rest ih =>
    obtain rfl | later := visits_cons.1 visited
    next => exact initial
    next =>
      have here := all start first (takes_cons.2 (.inl ⟨rfl, rfl⟩))
      exact ih (each start first initial here)
        (fun state label taken => all state label (takes_cons.2 (.inr taken))) later

-- The steps of a run that can be computed, checked one by one.
def every (step : S -> L -> S) (check : S -> L -> Bool) (start : S) : List L -> Bool
  | [] => true
  | label :: rest => check start label && every step check (step start label) rest

theorem every_takes {check : S -> L -> Bool} {start : S} {labels : List L}
    (checked : every step check start labels = true) {state : S} {label : L}
    (taken : Takes step start labels state label) : check state label = true := by
  induction labels generalizing start with
  | nil =>
    obtain ⟨before, after, split, -⟩ := taken
    exact absurd split (by simp)
  | cons first rest ih =>
    rw [every, Bool.and_eq_true] at checked
    obtain ⟨rfl, rfl⟩ | later := takes_cons.1 taken
    next => exact checked.1
    next => exact ih checked.2 later

-- A property that one step keeps exactly when the step is `fine` holds throughout a run exactly
-- when every step of the run is.
theorem always_iff_steps {keep good : S -> Prop} {fine : S -> L -> Prop}
    (keeps : forall state label, keep state -> keep (step state label))
    (exact : forall state label, keep state -> good state ->
      (good (step state label) <-> fine state label))
    {start : S} (initial : keep start) (starts : good start) (labels : List L) :
    (forall state, Visits step start labels state -> good state) <->
      forall state label, Takes step start labels state label -> fine state label := by
  induction labels generalizing start with
  | nil =>
    constructor
    next =>
      rintro - state label ⟨before, after, split, -⟩
      exact absurd split (by simp)
    next =>
      rintro - state ⟨before, after, split, rfl⟩
      obtain ⟨rfl, -⟩ := List.append_eq_nil_iff.1 split.symm
      exact starts
  | cons first rest ih =>
    have here := exact start first initial starts
    have next := keeps start first initial
    simp only [visits_cons, takes_cons]
    constructor
    next =>
      rintro always state label (⟨rfl, rfl⟩ | later)
      next => exact here.1 (always _ (.inr (visits_start _ _)))
      next =>
        have after := always _ (.inr (visits_start _ _))
        exact (ih next after).1 (fun state visited => always state (.inr visited)) state label later
    next =>
      rintro every state (rfl | later)
      next => exact starts
      next =>
        have after := here.2 (every _ _ (.inl ⟨rfl, rfl⟩))
        exact (ih next after).2 (fun state label taken => every state label (.inr taken)) state later

end VapeCommerce.Lib.Runs
