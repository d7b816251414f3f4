import Mathlib.Tactic.Common

set_option autoImplicit false

-- Sequences cut at their first separating element, and quoted content with every quote doubled.
namespace VapeCommerce.Lib.Quoting

variable {A : Type}

-- What is behind a run of elements of `inside` begins outside of it.
def Stops (inside : A -> Prop) (rest : List A) : Prop :=
  forall mark, rest.head? = some mark -> Not (inside mark)

theorem stops_nil (inside : A -> Prop) : Stops inside [] := by
  simp [Stops]

theorem stops_cons {inside : A -> Prop} {mark : A} (outside : Not (inside mark)) (rest : List A) :
    Stops inside (mark :: rest) := by
  simpa [Stops] using outside

theorem run_split {inside : A -> Prop} {first second rest other : List A}
    (within : forall mark, mark ∈ first -> inside mark)
    (within' : forall mark, mark ∈ second -> inside mark)
    (stops : Stops inside rest) (stops' : Stops inside other)
    (same : first ++ rest = second ++ other) : first = second /\ rest = other := by
  induction first generalizing second with
  | nil =>
    cases second with
    | nil => exact ⟨rfl, same⟩
    | cons mark second =>
      subst same
      exact absurd (within' mark (List.mem_cons_self ..)) (stops mark rfl)
  | cons mark first ih =>
    cases second with
    | nil =>
      subst same
      exact absurd (within mark (List.mem_cons_self ..)) (stops' mark rfl)
    | cons mark' second =>
      obtain ⟨rfl, later⟩ := List.cons.inj same
      obtain ⟨rfl, last⟩ := ih (fun each inside => within each (List.mem_cons_of_mem _ inside))
        (fun each inside => within' each (List.mem_cons_of_mem _ inside)) later
      exact ⟨rfl, last⟩

section Doubled

variable [DecidableEq A] (quote : A)

def doubled (content : List A) : List A :=
  content.flatMap fun mark => if mark = quote then [quote, quote] else [mark]

@[simp]
theorem doubled_nil : doubled quote [] = [] := rfl

@[simp]
theorem doubled_quote (content : List A) :
    doubled quote (quote :: content) = quote :: quote :: doubled quote content := by
  simp [doubled]

@[simp]
theorem doubled_other {mark : A} (other : mark ≠ quote) (content : List A) :
    doubled quote (mark :: content) = mark :: doubled quote content := by
  simp [doubled, other]

-- A closing quote is the first one that no second quote follows.
theorem doubled_split {first second rest other : List A}
    (closes : rest.head? ≠ some quote) (closes' : other.head? ≠ some quote)
    (same : doubled quote first ++ quote :: rest = doubled quote second ++ quote :: other) :
    first = second /\ rest = other := by
  induction first generalizing second with
  | nil =>
    cases second with
    | nil => simpa using same
    | cons mark second =>
      by_cases quoted : mark = quote
      next =>
        subst quoted
        simp only [doubled_nil, doubled_quote, List.nil_append, List.cons_append, List.cons.injEq,
          true_and] at same
        exact absurd (by rw [same]; rfl) closes
      next => simp [quoted, Ne.symm quoted] at same
  | cons mark first ih =>
    cases second with
    | nil =>
      by_cases quoted : mark = quote
      next =>
        subst quoted
        simp only [doubled_nil, doubled_quote, List.nil_append, List.cons_append, List.cons.injEq,
          true_and] at same
        exact absurd (by rw [<- same]; rfl) closes'
      next => simp [quoted] at same
    | cons mark' second =>
      by_cases quoted : mark = quote
      next =>
        by_cases quoted' : mark' = quote
        next =>
          subst quoted quoted'
          simp only [doubled_quote, List.cons_append, List.cons.injEq, true_and] at same
          obtain ⟨rfl, last⟩ := ih same
          exact ⟨rfl, last⟩
        next => simp [quoted, quoted', Ne.symm quoted'] at same
      next =>
        by_cases quoted' : mark' = quote
        next => simp [quoted, quoted'] at same
        next =>
          simp only [doubled_other quote quoted, doubled_other quote quoted', List.cons_append,
            List.cons.injEq] at same
          obtain ⟨rfl, later⟩ := same
          obtain ⟨rfl, last⟩ := ih later
          exact ⟨rfl, last⟩

end Doubled

end VapeCommerce.Lib.Quoting
