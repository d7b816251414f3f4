import VapeCommerce.Lib.Outcome

set_option autoImplicit false

-- Errors a run cannot end in.
namespace VapeCommerce.Lib.Refusals

open Outcome

variable {E A B S : Type} {bad : E -> Prop}

def Avoids (bad : E -> Prop) (run : Except E A) : Prop :=
  forall error, run = .error error -> Not (bad error)

theorem avoids_ok (value : A) : Avoids bad (.ok value : Except E A) := fun _ ran => by cases ran

theorem avoids_error {error : E} (fine : Not (bad error)) : Avoids bad (.error error : Except E A) := by
  intro other ran
  cases ran
  exact fine

theorem avoids_pure (value : A) : Avoids bad (pure value : Except E A) := avoids_ok value

theorem avoids_bind {first : Except E A} {next : A -> Except E B} (starts : Avoids bad first)
    (continues : forall value, first = .ok value -> Avoids bad (next value)) : Avoids bad (first >>= next) := by
  intro error ran
  rcases (bind_error first next error).1 ran with failed | ⟨value, made, failed⟩
  next => exact starts error failed
  next => exact continues value made error failed

theorem avoids_throwIf {refused : Prop} [Decidable refused] {error : E} (fine : refused -> Not (bad error)) :
    Avoids bad (throwIf refused error) := by
  intro other ran
  obtain ⟨held, rfl⟩ := (throwIf_error refused error other).1 ran
  exact fine held

theorem avoids_orThrow {found : Option A} {error : E} (fine : found = none -> Not (bad error)) :
    Avoids bad (orThrow found error) := by
  cases found with
  | some value => exact avoids_ok value
  | none => exact avoids_error (fine rfl)

theorem avoids_foldlM {round : S -> A -> Except E S} {items : List A}
    (each : forall state item, item ∈ items -> Avoids bad (round state item)) (start : S) :
    Avoids bad (items.foldlM round start) := by
  induction items generalizing start with
  | nil => exact avoids_pure start
  | cons item rest ih =>
    rw [List.foldlM_cons]
    exact avoids_bind (each start item List.mem_cons_self)
      fun next _ => ih (fun state other here => each state other (List.mem_cons_of_mem item here)) next

theorem avoids_mapM {round : A -> Except E B} (items : List A) (each : forall item, Avoids bad (round item)) :
    Avoids bad (items.mapM round) := by
  induction items with
  | nil => exact avoids_pure []
  | cons item rest ih =>
    rw [List.mapM_cons]
    exact avoids_bind (each item) fun first _ => avoids_bind ih fun others _ => avoids_pure (first :: others)

end VapeCommerce.Lib.Refusals
