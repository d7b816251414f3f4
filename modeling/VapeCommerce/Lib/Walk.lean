import Mathlib.Tactic.Common

set_option autoImplicit false

-- Loops given by their single turn: the rules for their end, and for two loops side by side.
namespace VapeCommerce.Lib.Walk

variable {S R : Type}

inductive Turn (S R : Type)
  | next (state : S)
  | stop (result : R)

inductive Ending (R : Type)
  | fault
  | unfinished
  | returned (result : R)
deriving DecidableEq, Repr

-- A turn without a value is a fault, such as a read outside of a buffer.
def walk (turn : S -> Option (Turn S R)) : Nat -> S -> Ending R
  | 0, _ => .unfinished
  | fuel + 1, state =>
    match turn state with
    | none => .fault
    | some (.stop result) => .returned result
    | some (.next later) => walk turn fuel later

variable {turn other : S -> Option (Turn S R)}

theorem walk_stop {state : S} {result : R} (stops : turn state = some (.stop result)) (fuel : Nat) :
    walk turn (fuel + 1) state = .returned result := by
  simp [walk, stops]

theorem walk_next {state later : S} (goes : turn state = some (.next later)) (fuel : Nat) :
    walk turn (fuel + 1) state = walk turn fuel later := by
  simp [walk, goes]

/-- What a returning walk says of each state, from the turn that stops backwards. -/
theorem returned_induction {result : R} {motive : S -> Prop}
    (stop : forall state, turn state = some (.stop result) -> motive state)
    (next : forall state later, turn state = some (.next later) -> motive later -> motive state)
    (fuel : Nat) (state : S) (returned : walk turn fuel state = .returned result) :
    motive state := by
  induction fuel generalizing state with
  | zero => simp [walk] at returned
  | succ fuel ih =>
    cases taken : turn state with
    | none => simp [walk, taken] at returned
    | some taken' =>
      cases taken' with
      | next later =>
        rw [walk_next taken] at returned
        exact next state later taken (ih later returned)
      | stop found =>
        rw [walk_stop taken] at returned
        obtain rfl := Ending.returned.inj returned
        exact stop state taken

/-- A turn that keeps an invariant, faults nowhere within it and lowers a measure ends the walk. -/
theorem walk_returns (inv : S -> Prop) (measure : S -> Nat)
    (sound : forall state, inv state -> exists taken, turn state = some taken)
    (lower : forall state later, inv state -> turn state = some (.next later) ->
      inv later /\ measure later < measure state)
    (fuel : Nat) (state : S) (holds : inv state) (enough : measure state < fuel) :
    exists result, walk turn fuel state = .returned result := by
  induction fuel generalizing state with
  | zero => exact absurd enough (Nat.not_lt_zero _)
  | succ fuel ih =>
    obtain ⟨taken, goes⟩ := sound state holds
    cases taken with
    | stop result => exact ⟨result, walk_stop goes fuel⟩
    | next later =>
      obtain ⟨holds', smaller⟩ := lower state later holds goes
      rw [walk_next goes]
      exact ih later holds' (by omega)

theorem walk_safe (inv : S -> Prop) (sound : forall state, inv state -> exists taken, turn state = some taken)
    (keep : forall state later, inv state -> turn state = some (.next later) -> inv later)
    (fuel : Nat) (state : S) (holds : inv state) : walk turn fuel state ≠ .fault := by
  induction fuel generalizing state with
  | zero => simp [walk]
  | succ fuel ih =>
    obtain ⟨taken, goes⟩ := sound state holds
    cases taken with
    | stop result => simp [walk_stop goes]
    | next later =>
      rw [walk_next goes]
      exact ih later (keep state later holds goes)

/-- Two walks that take the same turns until the first one stops. -/
theorem walk_beside {result result' : R}
    (nexts : forall state later, turn state = some (.next later) -> other state = some (.next later))
    (stops : forall state, turn state = some (.stop result) -> other state = some (.stop result'))
    (fuel : Nat) (state : S) (returned : walk turn fuel state = .returned result) :
    walk other fuel state = .returned result' := by
  induction fuel generalizing state with
  | zero => simp [walk] at returned
  | succ fuel ih =>
    cases taken : turn state with
    | none => simp [walk, taken] at returned
    | some taken' =>
      cases taken' with
      | next later =>
        rw [walk_next taken] at returned
        rw [walk_next (nexts state later taken)]
        exact ih later returned
      | stop found =>
        rw [walk_stop taken] at returned
        obtain rfl := Ending.returned.inj returned
        exact walk_stop (stops state taken) fuel

theorem walk_more {result : R} {fuel more : Nat} (enough : fuel <= more) (state : S)
    (returned : walk turn fuel state = .returned result) :
    walk turn more state = .returned result := by
  induction fuel generalizing state more with
  | zero => simp [walk] at returned
  | succ fuel ih =>
    obtain ⟨more, rfl⟩ := Nat.exists_eq_add_of_le' enough
    cases taken : turn state with
    | none => simp [walk, taken] at returned
    | some taken' =>
      cases taken' with
      | next later =>
        rw [walk_next taken] at returned
        rw [show more + (fuel + 1) = (more + fuel) + 1 from rfl, walk_next taken]
        exact ih (Nat.le_add_left fuel more) later returned
      | stop found =>
        rw [walk_stop taken] at returned
        rw [show more + (fuel + 1) = (more + fuel) + 1 from rfl, walk_stop taken]
        exact returned

end VapeCommerce.Lib.Walk
