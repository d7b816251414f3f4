import VapeCommerce.Lib.Table

set_option autoImplicit false

-- Tables that only rewrite their rows in place and append new ones, and what lookups see of it.
namespace VapeCommerce.Lib

variable {K R : Type}

/-- Every row kept its place and what `keep` relates; the rows behind them are `fresh`. -/
def Grown (keep : R -> R -> Prop) (fresh : R -> Prop) (before after : List R) : Prop :=
  exists change added, after = before.map change ++ added /\
    (forall row, row ∈ before -> keep row (change row)) /\ forall row, row ∈ added -> fresh row

namespace Grown

variable {keep : R -> R -> Prop} {fresh : R -> Prop} {before middle after : List R}

theorem refl (reflexive : forall row, keep row row) (rows : List R) : Grown keep fresh rows rows :=
  ⟨id, [], by simp, fun row _ => reflexive row, by simp⟩

theorem trans (transitive : forall old row new, keep old row -> keep row new -> keep old new)
    (renewed : forall old new, keep old new -> fresh old -> fresh new)
    (first : Grown keep fresh before middle) (second : Grown keep fresh middle after) :
    Grown keep fresh before after := by
  obtain ⟨change, added, rfl, kept, made⟩ := first
  obtain ⟨again, more, rfl, keptAgain, madeAgain⟩ := second
  refine ⟨again ∘ change, added.map again ++ more, by simp, ?_, ?_⟩
  next =>
    intro row member
    have there : change row ∈ before.map change ++ added :=
      List.mem_append_left _ (List.mem_map_of_mem member)
    exact transitive _ _ _ (kept row member) (keptAgain _ there)
  next =>
    intro row member
    rcases List.mem_append.1 member with rewritten | new
    next =>
      obtain ⟨was, present, rfl⟩ := List.mem_map.1 rewritten
      exact renewed _ _ (keptAgain was (List.mem_append_right _ present)) (made was present)
    next => exact madeAgain row new

theorem append (reflexive : forall row, keep row row) (rows : List R) {row : R} (new : fresh row) :
    Grown keep fresh rows (rows ++ [row]) :=
  ⟨id, [row], by simp, fun row _ => reflexive row, by simpa using new⟩

theorem rewrite {chosen : R -> Bool} {change : R -> R} (reflexive : forall row, keep row row)
    (kept : forall row, chosen row = true -> keep row (change row)) (rows : List R) :
    Grown keep fresh rows (rows.map (Table.rewrite chosen change)) := by
  refine ⟨Table.rewrite chosen change, [], by simp, fun row _ => ?_, by simp⟩
  cases hit : chosen row with
  | true => rw [Table.rewrite_chosen hit]; exact kept row hit
  | false => rw [Table.rewrite_other hit]; exact reflexive row

theorem later (grown : Grown keep fresh before after) {row : R} (member : row ∈ before) :
    exists new, new ∈ after /\ keep row new := by
  obtain ⟨change, added, rfl, kept, -⟩ := grown
  exact ⟨change row, List.mem_append_left _ (List.mem_map_of_mem member), kept row member⟩

theorem origin (grown : Grown keep fresh before after) {row : R} (member : row ∈ after) :
    (exists old, old ∈ before /\ keep old row) \/ fresh row := by
  obtain ⟨change, added, rfl, kept, made⟩ := grown
  rcases List.mem_append.1 member with rewritten | new
  next =>
    obtain ⟨old, present, rfl⟩ := List.mem_map.1 rewritten
    exact .inl ⟨old, present, kept old present⟩
  next => exact .inr (made row new)

-- A first match stays the first match while the rows keep what it was chosen by.
theorem find? (grown : Grown keep fresh before after) {chosen : R -> Bool}
    (same : forall old new, keep old new -> chosen new = chosen old) {row : R}
    (found : before.find? chosen = some row) :
    exists new, after.find? chosen = some new /\ keep row new := by
  obtain ⟨change, added, rfl, kept, -⟩ := grown
  have congruent : forall rows : List R, (forall row, row ∈ rows -> row ∈ before) ->
      rows.find? (chosen ∘ change) = rows.find? chosen := by
    intro rows within
    induction rows with
    | nil => rfl
    | cons first rest ih =>
      have here := same _ _ (kept first (within first (by simp)))
      have later := ih fun row member => within row (by simp [member])
      rw [List.find?_cons, List.find?_cons, later, Function.comp_apply, here]
  refine ⟨change row, ?_, kept row (List.mem_of_find?_eq_some found)⟩
  rw [List.find?_append, List.find?_map, congruent before fun _ member => member, found]
  rfl

-- A match after the growth was one before it, or is a new row.
theorem find?_origin (grown : Grown keep fresh before after) {chosen : R -> Bool}
    (same : forall old new, keep old new -> chosen new = chosen old) {row : R}
    (found : after.find? chosen = some row) :
    (exists old, before.find? chosen = some old /\ keep old row) \/
      (before.find? chosen = none /\ fresh row) := by
  cases known : before.find? chosen with
  | some old =>
    obtain ⟨new, seen, kept⟩ := grown.find? same known
    rw [found] at seen
    exact .inl ⟨old, rfl, Option.some.inj seen ▸ kept⟩
  | none =>
    refine .inr ⟨rfl, ?_⟩
    have matched := List.find?_some found
    rcases grown.origin (List.mem_of_find?_eq_some found) with ⟨old, present, kept⟩ | new
    next =>
      rw [same _ _ kept] at matched
      exact absurd matched (List.find?_eq_none.1 known old present)
    next => exact new

-- Of two tables, a grown row at an old row's key is that row's successor.
theorem at_key {key : R -> K} {old new : Table key} (grown : Grown keep fresh old.rows new.rows)
    (keys : forall was row, keep was row -> key row = key was) {was row : R} (known : was ∈ old.rows)
    (member : row ∈ new.rows) (same : key row = key was) : keep was row := by
  obtain ⟨later, present, kept⟩ := grown.later known
  rwa [new.same_of_key member present (same.trans (keys _ _ kept).symm)]

end Grown

end VapeCommerce.Lib
