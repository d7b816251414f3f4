import Mathlib.Data.List.Find
import Mathlib.Data.List.Sort

set_option autoImplicit false

-- The first of a sorted list, and the least and the greatest of a list.
namespace VapeCommerce.Lib.Extremes

section First

variable {A : Type} (R : A -> A -> Prop) [DecidableRel R]

def least (items : List A) (item : A) : Bool :=
  items.all fun other => R item other

theorem least_iff {items : List A} {item : A} :
    least R items item = true <-> forall other, other ∈ items -> R item other := by
  simp [least]

theorem head_orderedInsert (item : A) (items : List A) : (items.orderedInsert R item).head? =
    match items.head? with
    | some first => if R item first then some item else some first
    | none => some item := by
  cases items with
  | nil => rfl
  | cons first rest =>
    simp only [List.orderedInsert_cons, List.head?_cons]
    split <;> rfl

/-- A stable sort puts the first of the least items in front. -/
theorem first_sorted [Std.Total R] [IsTrans A R] (items : List A) :
    (items.insertionSort R).head? = items.find? (least R items) := by
  induction items with
  | nil => rfl
  | cons item items ih =>
    rw [List.insertionSort_cons, head_orderedInsert, ih]
    have self : R item item := (Std.Total.total item item).elim id id
    cases found : items.find? (least R items) with
    | none =>
      have empty : items = [] := by
        have ordered := ih
        rw [found, List.head?_eq_none_iff] at ordered
        have same := List.length_insertionSort R items
        rw [ordered] at same
        exact List.eq_nil_of_length_eq_zero same.symm
      simp [empty, least, self]
    | some first =>
      have lowest := (least_iff R).1 (List.find?_some found)
      have here := List.mem_of_find?_eq_some found
      by_cases before : R item first
      next =>
        have all : least R (item :: items) item = true := by
          refine (least_iff R).2 fun other there => ?_
          rcases List.mem_cons.1 there with rfl | later
          next => exact self
          next => exact Trans.trans before (lowest other later)
        simp [before, all]
      next =>
        have after : R first item := (Std.Total.total item first).resolve_left before
        have none : least R (item :: items) item = false := by
          refine Bool.eq_false_iff.2 fun all => before ?_
          exact (least_iff R).1 all first (List.mem_cons_of_mem _ here)
        have same : items.find? (least R (item :: items)) = items.find? (least R items) := by
          refine List.find?_congr fun other there => ?_
          rw [Bool.eq_iff_iff, least_iff, least_iff]
          refine ⟨fun all another late => all another (List.mem_cons_of_mem _ late), fun all another late => ?_⟩
          rcases List.mem_cons.1 late with rfl | late
          next => exact Trans.trans (all first here) after
          next => exact all another late
        simp [before, none, same, found]

theorem headD_least [Std.Total R] [IsTrans A R] {items : List A} (some : items ≠ []) (default : A) :
    (items.insertionSort R).headD default ∈ items /\
      forall other, other ∈ items -> R ((items.insertionSort R).headD default) other := by
  have ordered := first_sorted R items
  rw [List.headD_eq_head?_getD]
  cases found : items.find? (least R items) with
  | none =>
    rw [found, List.head?_eq_none_iff] at ordered
    have same := List.length_insertionSort R items
    rw [ordered] at same
    exact absurd (List.eq_nil_of_length_eq_zero same.symm) some
  | some first =>
    rw [ordered, found]
    exact ⟨List.mem_of_find?_eq_some found, (least_iff R).1 (List.find?_some found)⟩

end First

section Range

variable {A : Type} [LE A] [Min A] [Max A] [Std.IsLinearOrder A] [Std.LawfulOrderMin A] [Std.LawfulOrderMax A]

theorem same_extremes {whole part : List A} (inside : forall item, item ∈ part -> item ∈ whole) :
    whole.min? = part.min? /\ whole.max? = part.max? <->
      forall item, item ∈ whole ->
        (exists low, low ∈ part /\ low <= item) /\ exists high, high ∈ part /\ item <= high := by
  constructor
  next =>
    rintro ⟨lowest, highest⟩ item here
    constructor
    next =>
      obtain ⟨low, found⟩ := Option.isSome_iff_exists.1 (List.isSome_min?_of_mem here)
      exact ⟨low, (List.min?_eq_some_iff.1 (lowest ▸ found)).1, (List.min?_eq_some_iff.1 found).2 item here⟩
    next =>
      obtain ⟨high, found⟩ := Option.isSome_iff_exists.1 (List.isSome_max?_of_mem here)
      exact ⟨high, (List.max?_eq_some_iff.1 (highest ▸ found)).1, (List.max?_eq_some_iff.1 found).2 item here⟩
  next =>
    intro bounded
    constructor
    next =>
      cases found : part.min? with
      | none =>
        have empty := List.min?_eq_none_iff.1 found
        subst empty
        refine List.min?_eq_none_iff.2 (List.eq_nil_iff_forall_not_mem.2 fun item here => ?_)
        obtain ⟨low, none, _⟩ := (bounded item here).1
        exact List.not_mem_nil none
      | some low =>
        obtain ⟨here, lowest⟩ := List.min?_eq_some_iff.1 found
        refine List.min?_eq_some_iff.2 ⟨inside low here, fun item there => ?_⟩
        obtain ⟨other, present, below⟩ := (bounded item there).1
        exact Std.le_trans (lowest other present) below
    next =>
      cases found : part.max? with
      | none =>
        have empty := List.max?_eq_none_iff.1 found
        subst empty
        refine List.max?_eq_none_iff.2 (List.eq_nil_iff_forall_not_mem.2 fun item here => ?_)
        obtain ⟨high, none, _⟩ := (bounded item here).2
        exact List.not_mem_nil none
      | some high =>
        obtain ⟨here, highest⟩ := List.max?_eq_some_iff.1 found
        refine List.max?_eq_some_iff.2 ⟨inside high here, fun item there => ?_⟩
        obtain ⟨other, present, above⟩ := (bounded item there).2
        exact Std.le_trans above (highest other present)

end Range

end VapeCommerce.Lib.Extremes
