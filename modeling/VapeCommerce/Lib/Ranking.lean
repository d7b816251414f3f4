import Mathlib.Algebra.Order.Ring.Int
import Mathlib.Order.Defs.LinearOrder
import Mathlib.Data.List.Pairwise
import Mathlib.Order.Basic

set_option autoImplicit false

-- The items of a list that no other outweighs, and how the head of a descending list shows them.
namespace VapeCommerce.Lib.Ranking

variable {A W : Type} [LinearOrder W] (weight : A -> W)

structure Top (items : List A) (item : A) : Prop where
  member : item ∈ items
  highest : forall other, other ∈ items -> weight other <= weight item

def Descending (items : List A) : Prop :=
  items.Pairwise fun left right => weight right <= weight left

variable {weight}

theorem top_congr {left right : List A} (same : forall item, item ∈ left <-> item ∈ right) (item : A) :
    Top weight left item <-> Top weight right item := by
  constructor
  next => exact fun top => ⟨(same item).1 top.member, fun other there => top.highest other ((same other).2 there)⟩
  next => exact fun top => ⟨(same item).2 top.member, fun other there => top.highest other ((same other).1 there)⟩

theorem Top.weight_eq {items : List A} {left right : A} (first : Top weight items left)
    (second : Top weight items right) : weight left = weight right :=
  le_antisymm (second.highest left first.member) (first.highest right second.member)

theorem top_first {first : A} {rest : List A} (sorted : Descending weight (first :: rest)) :
    Top weight (first :: rest) first where
  member := by simp
  highest other member := by
    cases List.mem_cons.1 member with
    | inl here => exact here ▸ le_rfl
    | inr later => exact (List.pairwise_cons.1 sorted).1 other later

theorem top_second {first second : A} {rest : List A}
    (sorted : Descending weight (first :: second :: rest)) (tied : weight second = weight first) :
    Top weight (first :: second :: rest) second where
  member := by simp
  highest other member := tied ▸ (top_first sorted).highest other member

-- A head that outweighs the second item is the only one at the top.
theorem top_only {first second : A} {rest : List A}
    (sorted : Descending weight (first :: second :: rest)) (apart : weight second ≠ weight first) {item : A}
    (top : Top weight (first :: second :: rest) item) : item = first := by
  have same := top.weight_eq (top_first sorted)
  obtain ⟨below, rest⟩ := List.pairwise_cons.1 sorted
  have less : weight second < weight first := lt_of_le_of_ne (below second (by simp)) apart
  cases List.mem_cons.1 top.member with
  | inl here => exact here
  | inr later =>
    have most := (top_first rest).highest item later
    exact absurd (same ▸ most) (not_le_of_gt less)

-- Of two items of an ordered list one comes first.
theorem pairwise_either {R : A -> A -> Prop} {items : List A} (sorted : items.Pairwise R) {left right : A}
    (here : left ∈ items) (there : right ∈ items) (apart : left ≠ right) : R left right \/ R right left := by
  have symmetric : Std.Symm fun one other => R one other \/ R other one := ⟨fun _ _ => Or.symm⟩
  have either := sorted.imp (S := fun one other => R one other \/ R other one) fun related => Or.inl related
  exact either.forall here there apart

end VapeCommerce.Lib.Ranking
