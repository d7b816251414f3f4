import Mathlib.Algebra.BigOperators.Group.List.Basic
import Mathlib.Algebra.Order.Ring.Int

set_option autoImplicit false

-- Running balances beside the journal that explains them, and what keeps the two in step.
namespace VapeCommerce.Lib.Journal

-- Where an entry says which account it moves, by how much, and what the account holds then.
structure Columns (K E : Type) where
  account : E -> K
  delta : E -> Int
  balance : E -> Int

-- An account that was never opened has no balance.
abbrev Balances (K : Type) := K -> Option Int

variable {K E : Type} [DecidableEq K]

def posted (columns : Columns K E) (entries : List E) (key : K) : Int :=
  (entries.map fun entry => if columns.account entry = key then columns.delta entry else 0).sum

def lastOn (columns : Columns K E) (entries : List E) (key : K) : Option E :=
  (entries.filter fun entry => decide (columns.account entry = key)).getLast?

variable {columns : Columns K E} {old middle new : Balances K} {entries added more : List E}

theorem posted_append (entries added : List E) (key : K) :
    posted columns (entries ++ added) key = posted columns entries key + posted columns added key := by
  simp [posted]

theorem lastOn_append (entries added : List E) (key : K) :
    lastOn columns (entries ++ added) key = (lastOn columns added key).or (lastOn columns entries key) := by
  simp [lastOn, List.filter_append, List.getLast?_append]

theorem lastOn_none {key : K} (none : lastOn columns entries key = none) {entry : E}
    (member : entry ∈ entries) : columns.account entry ≠ key := by
  rw [lastOn, List.getLast?_eq_none_iff, List.filter_eq_nil_iff] at none
  simpa using none entry member

theorem lastOn_some {key : K} {entry : E} (last : lastOn columns entries key = some entry) :
    entry ∈ entries /\ columns.account entry = key := by
  have member := List.mem_of_getLast? last
  simpa using member

theorem posted_untouched {key : K} (untouched : forall entry, entry ∈ entries -> columns.account entry ≠ key) :
    posted columns entries key = 0 := by
  refine List.sum_eq_zero fun amount member => ?_
  obtain ⟨entry, present, rfl⟩ := List.mem_map.1 member
  exact if_neg (untouched entry present)

-- The entries added while the balances changed account for the change.
structure Moves (columns : Columns K E) (old new : Balances K) (added : List E) : Prop where
  kept : forall key, (old key).isSome = true -> (new key).isSome = true
  counted : forall key balance, new key = some balance -> balance = (old key).getD 0 + posted columns added key
  closed : forall key entry, lastOn columns added key = some entry -> new key = some (columns.balance entry)
  opened : forall key, (new key).isSome = true -> old key = none -> (lastOn columns added key).isSome = true

theorem Moves.refl (balances : Balances K) : Moves columns balances balances [] where
  kept _ := id
  counted key balance here := by simp [here, posted]
  closed key entry last := by simp [lastOn] at last
  opened key here none := by simp [none] at here

theorem Moves.trans (first : Moves columns old middle added) (second : Moves columns middle new more) :
    Moves columns old new (added ++ more) where
  kept key here := second.kept key (first.kept key here)
  counted key balance here := by
    rw [posted_append, <- Int.add_assoc]
    cases between : middle key with
    | some amount =>
      rw [<- first.counted key amount between]
      simpa [between] using second.counted key balance here
    | none =>
      have unopened : old key = none := by
        cases before : old key with
        | none => rfl
        | some amount => simpa [between] using first.kept key (by simp [before])
      have silent : lastOn columns added key = none := by
        cases last : lastOn columns added key with
        | none => rfl
        | some entry => simpa [between] using first.closed key entry last
      rw [unopened, posted_untouched fun entry member => lastOn_none silent member]
      simpa [between] using second.counted key balance here
  closed key entry last := by
    rw [lastOn_append] at last
    cases later : lastOn columns more key with
    | some other =>
      rw [later, Option.some_or, Option.some.injEq] at last
      exact last ▸ second.closed key other later
    | none =>
      rw [later, Option.none_or] at last
      have between := first.closed key entry last
      have still := second.kept key (by simp [between])
      obtain ⟨balance, here⟩ := Option.isSome_iff_exists.1 still
      have same := second.counted key balance here
      rw [posted_untouched fun other member => lastOn_none later member, between] at same
      simpa [same] using here
  opened key here unopened := by
    rw [lastOn_append, Option.isSome_or, Bool.or_eq_true]
    cases between : middle key with
    | none => exact .inl (second.opened key here between)
    | some amount => exact .inr (first.opened key (by simp [between]) unopened)

-- One entry that writes the balance it states.
theorem Moves.one {entry : E} (here : new (columns.account entry) = some (columns.balance entry))
    (elsewhere : forall key, key ≠ columns.account entry -> new key = old key)
    (sum : columns.balance entry = (old (columns.account entry)).getD 0 + columns.delta entry) :
    Moves columns old new [entry] where
  kept key before := by
    by_cases same : key = columns.account entry
    next => simp [same, here]
    next => rwa [elsewhere key same]
  counted key balance now := by
    by_cases same : key = columns.account entry
    next =>
      subst same
      obtain rfl := Option.some.inj (here.symm.trans now)
      simp [posted, sum]
    next =>
      have apart : columns.account entry ≠ key := fun equal => same equal.symm
      rw [elsewhere key same] at now
      simp [posted, now, apart]
  closed key other last := by
    obtain ⟨member, same⟩ := lastOn_some last
    obtain rfl := List.mem_singleton.1 member
    exact same ▸ here
  opened key now none := by
    by_cases same : key = columns.account entry
    next => simp [lastOn, same]
    next => simp [elsewhere key same, none] at now

-- Every balance is the sum of its entries and stands in the last of them.
structure Balanced (columns : Columns K E) (balances : Balances K) (entries : List E) : Prop where
  counted : forall key balance, balances key = some balance -> balance = posted columns entries key
  closed : forall key balance, balances key = some balance ->
    exists entry, lastOn columns entries key = some entry /\ columns.balance entry = balance
  known : forall entry, entry ∈ entries -> (balances (columns.account entry)).isSome = true

theorem Balanced.empty {balances : Balances K} (unopened : forall key, balances key = none) :
    Balanced columns balances [] where
  counted key balance here := by simp [unopened] at here
  closed key balance here := by simp [unopened] at here
  known := by simp

theorem Balanced.moves (balanced : Balanced columns old entries) (moves : Moves columns old new added) :
    Balanced columns new (entries ++ added) where
  counted key balance here := by
    rw [posted_append, moves.counted key balance here]
    cases before : old key with
    | some amount => rw [Option.getD_some, balanced.counted key amount before]
    | none =>
      have untouched : posted columns entries key = 0 := posted_untouched fun entry member same => by
        simpa [same, before] using balanced.known entry member
      rw [untouched, Option.getD_none]
  closed key balance here := by
    rw [lastOn_append]
    cases later : lastOn columns added key with
    | some entry =>
      exact ⟨entry, rfl, Option.some.inj ((moves.closed key entry later).symm.trans here)⟩
    | none =>
      rw [Option.none_or]
      cases before : old key with
      | none => simpa [later] using moves.opened key (by simp [here]) before
      | some amount =>
        have same := moves.counted key balance here
        rw [posted_untouched fun entry member => lastOn_none later member, before] at same
        obtain ⟨entry, last, stands⟩ := balanced.closed key amount before
        exact ⟨entry, last, by simp [stands, same]⟩
  known entry member := by
    rcases List.mem_append.1 member with old | new
    next => exact moves.kept _ (balanced.known entry old)
    next =>
      cases last : lastOn columns added (columns.account entry) with
      | none => exact absurd rfl (lastOn_none last new)
      | some other => simp [moves.closed _ other last]

end VapeCommerce.Lib.Journal
