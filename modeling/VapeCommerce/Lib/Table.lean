import Mathlib.Data.List.Nodup
import Mathlib.Algebra.Order.BigOperators.Group.List
import VapeCommerce.Lib.Outcome

set_option autoImplicit false

-- Tables with a primary key: rows in insertion order, no two of them with one key.
namespace VapeCommerce.Lib

variable {K R : Type}

structure Table (key : R -> K) where
  rows : List R
  distinct : (rows.map key).Nodup

theorem sum_filter (rows : List R) (chosen : R -> Bool) (amount : R -> Int) :
    ((rows.filter chosen).map amount).sum =
      (rows.map fun row => if chosen row then amount row else 0).sum := by
  induction rows with
  | nil => rfl
  | cons row rest ih => cases hit : chosen row <;> simp [hit, ih]

namespace Table

variable {key : R -> K}

def empty : Table key :=
  { rows := [], distinct := by simp }

@[simp]
theorem empty_rows : (empty : Table key).rows = [] := rfl

def filter (table : Table key) (chosen : R -> Bool) : List R :=
  table.rows.filter chosen

def count (table : Table key) (chosen : R -> Bool) : Nat :=
  (table.filter chosen).length

def total (table : Table key) (amount : R -> Int) : Int :=
  (table.rows.map amount).sum

-- `updateMany`: every chosen row is rewritten; a rewrite never touches the key.
def rewrite (chosen : R -> Bool) (change : R -> R) (row : R) : R :=
  if chosen row then change row else row

def update (table : Table key) (chosen : R -> Bool) (change : R -> R)
    (keeps : forall row, key (change row) = key row) : Table key :=
  { rows := table.rows.map (rewrite chosen change)
    distinct := by
      have same : key ∘ rewrite chosen change = key := by
        funext row
        by_cases h : chosen row <;> simp [rewrite, h, keeps]
      simpa [List.map_map, same] using table.distinct }

@[simp]
theorem update_rows (table : Table key) (chosen : R -> Bool) (change : R -> R)
    (keeps : forall row, key (change row) = key row) :
    (table.update chosen change keeps).rows = table.rows.map (rewrite chosen change) := rfl

-- What a rewrite owes the primary key, where it leaves the key's own fields alone.
theorem kept (key : R -> K) : forall row, key row = key row := fun _ => rfl

theorem same_of_key (table : Table key) {left right : R} (member : left ∈ table.rows)
    (other : right ∈ table.rows) (same : key left = key right) : left = right :=
  List.inj_on_of_nodup_map table.distinct member other same

@[simp]
theorem rewrite_chosen {chosen : R -> Bool} {change : R -> R} {row : R} (hit : chosen row = true) :
    rewrite chosen change row = change row := by
  simp [rewrite, hit]

@[simp]
theorem rewrite_other {chosen : R -> Bool} {change : R -> R} {row : R} (miss : chosen row = false) :
    rewrite chosen change row = row := by
  simp [rewrite, miss]

theorem rewrite_field {S : Type} {field : R -> S} {chosen : R -> Bool} {change : R -> R}
    (keeps : forall row, field (change row) = field row) (row : R) :
    field (rewrite chosen change row) = field row := by
  cases hit : chosen row <;> simp [hit, keeps]

theorem rewrite_mem {rows : List R} {chosen : R -> Bool} {change : R -> R} {row : R}
    (member : row ∈ rows.map (rewrite chosen change)) : exists was, was ∈ rows /\
      (chosen was = true /\ row = change was \/ chosen was = false /\ row = was) := by
  obtain ⟨was, there, rfl⟩ := List.mem_map.1 member
  refine ⟨was, there, ?_⟩
  cases hit : chosen was with
  | true => exact .inl ⟨rfl, rewrite_chosen hit⟩
  | false => exact .inr ⟨rfl, rewrite_other hit⟩

-- Rewriting adds to a total what it adds to the chosen rows.
theorem total_update (table : Table key) (chosen : R -> Bool) (change : R -> R)
    (keeps : forall row, key (change row) = key row) (amount : R -> Int) :
    (table.update chosen change keeps).total amount =
      table.total amount +
        ((table.filter chosen).map fun row => amount (change row) - amount row).sum := by
  simp only [total, update_rows, filter]
  induction table.rows with
  | nil => simp
  | cons row rest ih =>
    cases hit : chosen row
    next =>
      simp only [List.map_cons, List.sum_cons, rewrite_other hit, List.filter_cons, hit,
        Bool.false_eq_true, if_false, ih]
      omega
    next =>
      simp only [List.map_cons, List.sum_cons, rewrite_chosen hit, List.filter_cons, hit, if_true, ih]
      omega

theorem count_pos {table : Table key} {chosen : R -> Bool} :
    0 < table.count chosen <-> exists row, row ∈ table.rows /\ chosen row = true := by
  simp [count, filter, List.length_pos_iff_exists_mem]

theorem count_update (table : Table key) {chosen wanted : R -> Bool} {change : R -> R}
    (keeps : forall row, key (change row) = key row)
    (same : forall row, row ∈ table.rows -> chosen row = true -> wanted (change row) = wanted row) :
    (table.update chosen change keeps).count wanted = table.count wanted := by
  simp only [count, filter, update_rows, List.filter_map, List.length_map]
  refine congrArg List.length (List.filter_congr fun row member => ?_)
  cases hit : chosen row with
  | true => rw [Function.comp_apply, rewrite_chosen hit, same row member hit]
  | false => rw [Function.comp_apply, rewrite_other hit]

theorem count_update_le (table : Table key) {chosen wanted : R -> Bool} {change : R -> R}
    (keeps : forall row, key (change row) = key row)
    (fewer : forall row, chosen row = true -> wanted (change row) = true -> wanted row = true) :
    (table.update chosen change keeps).count wanted <= table.count wanted := by
  simp only [count, filter, update_rows, List.filter_map, List.length_map]
  refine (List.monotone_filter_right table.rows fun row still => ?_).length_le
  cases hit : chosen row with
  | true => exact fewer row hit (by simpa [hit] using still)
  | false => simpa [hit] using still

-- A guard on one key that the row there passes chooses exactly that row.
theorem count_eq_one (table : Table key) {chosen : R -> Bool} {row : R} (member : row ∈ table.rows)
    (hit : chosen row = true) (only : forall other, chosen other = true -> key other = key row) :
    table.count chosen = 1 := by
  have filtered : table.filter chosen = [row] := by
    have distinct := table.distinct
    have alike : forall other, other ∈ table.rows -> (chosen other = true <-> other = row) := by
      intro other present
      constructor
      next => exact fun same => table.same_of_key present member (only other same)
      next => rintro rfl; exact hit
    have nodup : (table.filter chosen).Nodup := List.Nodup.filter _ (List.Nodup.of_map key distinct)
    refine List.perm_singleton.1 ((List.perm_ext_iff_of_nodup nodup (by simp)).2 fun other => ?_)
    simp only [filter, List.mem_filter, List.mem_singleton]
    constructor
    next => exact fun found => (alike other found.1).1 found.2
    next => rintro rfl; exact ⟨member, hit⟩
  simp [count, filtered]

theorem count_one {table : Table key} {chosen : R -> Bool} (one : table.count chosen = 1) :
    exists row, row ∈ table.rows /\ chosen row = true /\
      forall other, other ∈ table.rows -> chosen other = true -> other = row := by
  obtain ⟨row, filtered⟩ := List.length_eq_one_iff.1 one
  have hit : row ∈ table.filter chosen := by simp [filtered]
  refine ⟨row, (List.mem_filter.1 hit).1, (List.mem_filter.1 hit).2, fun other member same => ?_⟩
  have there : other ∈ table.filter chosen := List.mem_filter.2 ⟨member, same⟩
  simpa [filtered] using there

-- A guard on one key that chose a row chose the row at that key.
theorem count_one_hit {table : Table key} {chosen : R -> Bool} (one : table.count chosen = 1) {row : R}
    (member : row ∈ table.rows) (only : forall other, chosen other = true -> key other = key row) :
    chosen row = true := by
  obtain ⟨other, present, hit, -⟩ := count_one one
  obtain rfl := table.same_of_key present member (only other hit)
  exact hit

-- The rows a filter has read, chosen again by their keys.
theorem filter_keys [DecidableEq K] (table : Table key) (chosen other : R -> Bool)
    (implies : forall row, chosen row = true -> other row = true) :
    (table.filter fun row => decide (key row ∈ (table.filter chosen).map key) && other row) =
      table.filter chosen := by
  refine List.filter_congr fun row member => ?_
  cases hit : chosen row with
  | true =>
    have there : key row ∈ (table.filter chosen).map key :=
      List.mem_map_of_mem (List.mem_filter.2 ⟨member, hit⟩)
    simp [there, implies row hit]
  | false =>
    have absent : Not (key row ∈ (table.filter chosen).map key) := by
      intro there
      obtain ⟨found, read, same⟩ := List.mem_map.1 there
      obtain ⟨present, matching⟩ := List.mem_filter.1 read
      obtain rfl := table.same_of_key present member same
      simp [hit] at matching
    simp [absent]

-- Reading by another column; where that column is unique it is a second key.
def lookup {S : Type} [DecidableEq S] (table : Table key) (field : R -> S) (wanted : S) : Option R :=
  table.rows.find? fun row => decide (field row = wanted)

def Unique {S : Type} (table : Table key) (field : R -> S) : Prop :=
  (table.rows.map field).Nodup

theorem lookup_some {S : Type} [DecidableEq S] {table : Table key} {field : R -> S} {wanted : S}
    {row : R} (found : table.lookup field wanted = some row) :
    row ∈ table.rows /\ field row = wanted :=
  ⟨List.mem_of_find?_eq_some found, by simpa using List.find?_some found⟩

theorem lookup_of_mem {S : Type} [DecidableEq S] {table : Table key} {field : R -> S}
    (unique : table.Unique field) {row : R} (member : row ∈ table.rows) :
    table.lookup field (field row) = some row := by
  cases found : table.lookup field (field row) with
  | none =>
    simp only [lookup, List.find?_eq_none, decide_eq_true_eq] at found
    exact absurd rfl (found row member)
  | some other =>
    obtain ⟨present, same⟩ := lookup_some found
    exact congrArg some (List.inj_on_of_nodup_map unique present member same)

theorem lookup_iff {S : Type} [DecidableEq S] {table : Table key} {field : R -> S}
    (unique : table.Unique field) (wanted : S) (row : R) :
    table.lookup field wanted = some row <-> row ∈ table.rows /\ field row = wanted := by
  constructor
  next => exact lookup_some
  next => rintro ⟨member, rfl⟩; exact lookup_of_mem unique member

theorem lookup_none {S : Type} [DecidableEq S] (table : Table key) (field : R -> S) (wanted : S) :
    table.lookup field wanted = none <-> forall row, row ∈ table.rows -> field row ≠ wanted := by
  simp [lookup, List.find?_eq_none]

theorem lookup_update {S : Type} [DecidableEq S] (table : Table key) (field : R -> S)
    (chosen : R -> Bool) (change : R -> R) (keeps : forall row, key (change row) = key row)
    (same : forall row, field (change row) = field row) (wanted : S) :
    (table.update chosen change keeps).lookup field wanted =
      (table.lookup field wanted).map (rewrite chosen change) := by
  simp [lookup, List.find?_map, Function.comp_def, rewrite_field same]

-- An update that chooses one row is seen under that row's value of the column only.
theorem lookup_update_at {S : Type} [DecidableEq S] {table : Table key} {field : R -> S}
    (unique : table.Unique field) {row : R} (member : row ∈ table.rows) {chosen : R -> Bool}
    {change : R -> R} {keeps : forall row, key (change row) = key row}
    (same : forall row, field (change row) = field row) (hit : chosen row = true)
    (only : forall other, chosen other = true -> key other = key row) (wanted : S) :
    (table.update chosen change keeps).lookup field wanted =
      if wanted = field row then some (change row) else table.lookup field wanted := by
  rw [lookup_update _ _ _ _ _ same]
  split
  next here =>
    subst here
    rw [lookup_of_mem unique member, Option.map_some, rewrite_chosen hit]
  next apart =>
    cases found : table.lookup field wanted with
    | none => rfl
    | some other =>
      obtain ⟨present, matching⟩ := lookup_some found
      have miss : chosen other = false := by
        cases chose : chosen other with
        | false => rfl
        | true =>
          obtain rfl := table.same_of_key present member (only other chose)
          exact absurd matching.symm apart
      rw [Option.map_some, rewrite_other miss]

theorem filter_unique {S : Type} [DecidableEq S] {table : Table key} {field : R -> S}
    (unique : table.Unique field) {wanted : S} {row : R} (found : table.lookup field wanted = some row) :
    (table.filter fun other => decide (field other = wanted)) = [row] := by
  obtain ⟨member, rfl⟩ := lookup_some found
  have nodup : (table.filter fun other => decide (field other = field row)).Nodup :=
    List.Nodup.filter _ (List.Nodup.of_map field unique)
  refine List.perm_singleton.1 ((List.perm_ext_iff_of_nodup nodup (by simp)).2 fun other => ?_)
  simp only [filter, List.mem_filter, decide_eq_true_eq, List.mem_singleton]
  constructor
  next => exact fun there => List.inj_on_of_nodup_map unique there.1 member there.2
  next => rintro rfl; exact ⟨member, rfl⟩

theorem map_field_rewrite {S : Type} (rows : List R) (field : R -> S) (chosen : R -> Bool)
    (change : R -> R) (same : forall row, field (change row) = field row) :
    (rows.map (rewrite chosen change)).map field = rows.map field := by
  simp [Function.comp_def, rewrite_field same]

theorem ext_rows {left right : Table key} (same : left.rows = right.rows) : left = right := by
  cases left
  cases right
  simp_all

-- A loop that updates, for each item it picks, the one row at the item's own key.
structure UpdateRound {S A E : Type} (tableOf : S -> Table key) (target : A -> K) (picks : A -> Bool)
    (guard : A -> R -> Bool) (change : R -> R) (round : S -> A -> Except E S) : Prop where
  picked : forall state item next, round state item = .ok next -> picks item = true ->
    (tableOf state).count (guard item) = 1 /\
      (tableOf next).rows = (tableOf state).rows.map (rewrite (guard item) change)
  passed : forall state item next, round state item = .ok next -> picks item = false -> next = state
  only : forall item row, guard item row = true -> key row = target item
  keeps : forall row, key (change row) = key row

theorem rewrite_rewrite [DecidableEq K] (keys : List K) (more : K) {change : R -> R}
    (keeps : forall row, key (change row) = key row) {row : R} (fresh : Not (more ∈ keys)) :
    rewrite (fun other => decide (key other ∈ keys)) change
      (rewrite (fun other => decide (key other = more)) change row) =
      rewrite (fun other => decide (key other ∈ more :: keys)) change row := by
  by_cases here : key row = more
  next =>
    subst here
    rw [@rewrite_chosen R (fun other => decide (key other = key row)) change row (by simp),
      rewrite_other (by simpa [keeps] using fresh), rewrite_chosen (by simp)]
  next =>
    rw [@rewrite_other R (fun other => decide (key other = more)) change row (by simpa using here)]
    simp [rewrite, here]

theorem update_loop [DecidableEq K] {S A E : Type} {tableOf : S -> Table key} {target : A -> K}
    {picks : A -> Bool} {guard : A -> R -> Bool} {change : R -> R} {round : S -> A -> Except E S}
    (spec : UpdateRound tableOf target picks guard change round) (items : List A)
    (distinct : (items.map target).Nodup) {start finish : S}
    (ran : items.foldlM round start = .ok finish) :
    (tableOf finish).rows = (tableOf start).rows.map
        (rewrite (fun row => decide (key row ∈ (items.filter picks).map target)) change) /\
      forall item, item ∈ items -> picks item = true -> exists row, row ∈ (tableOf start).rows /\
        guard item row = true := by
  induction items generalizing start with
  | nil =>
    simp only [List.foldlM_nil, Outcome.pure_ok] at ran
    subst ran
    have none : rewrite (fun _ : R => false) change = id := by
      funext row
      exact rewrite_other rfl
    simp [none]
  | cons item rest ih =>
    simp only [List.foldlM_cons, Outcome.bind_ok] at ran
    obtain ⟨middle, first, later⟩ := ran
    rw [List.map_cons, List.nodup_cons] at distinct
    obtain ⟨rows, held⟩ := ih distinct.2 later
    cases pick : picks item
    next =>
      obtain rfl := spec.passed start item middle first pick
      rw [List.filter_cons_of_neg (by simp [pick])]
      refine ⟨rows, fun other member picked => ?_⟩
      rcases List.mem_cons.1 member with rfl | there
      next => simp [pick] at picked
      next => exact held other there picked
    next =>
      obtain ⟨one, updated⟩ := spec.picked start item middle first pick
      obtain ⟨row, member, hit, -⟩ := count_one one
      have at_key : forall other, other ∈ (tableOf start).rows ->
          rewrite (guard item) change other =
            rewrite (fun other => decide (key other = target item)) change other := by
        intro other present
        by_cases same : key other = target item
        next =>
          obtain rfl := (tableOf start).same_of_key present member (same.trans (spec.only item row hit).symm)
          rw [rewrite_chosen hit, rewrite_chosen (by simp [same])]
        next =>
          have miss : guard item other = false :=
            Bool.eq_false_iff.2 fun chosen => same (spec.only item other chosen)
          rw [rewrite_other miss, rewrite_other (by simp [same])]
      have fresh : Not (target item ∈ (rest.filter picks).map target) := fun there =>
        distinct.1 (List.map_subset target (List.filter_subset_self rest) there)
      constructor
      next =>
        rw [rows, updated, List.map_map]
        refine List.map_congr_left fun other present => ?_
        rw [Function.comp_apply, at_key other present, rewrite_rewrite _ _ spec.keeps fresh,
          List.filter_cons_of_pos pick, List.map_cons]
      next =>
        intro other there picked
        rcases List.mem_cons.1 there with rfl | present
        next => exact ⟨row, member, hit⟩
        next =>
          -- The later item's row is not the one this round has rewritten.
          obtain ⟨found, here, guarded⟩ := held other present picked
          rw [updated] at here
          obtain ⟨before, known, rfl⟩ := List.mem_map.1 here
          refine ⟨before, known, ?_⟩
          have apart : key before ≠ target item := by
            intro same
            have at_other := spec.only other _ guarded
            rw [rewrite_field spec.keeps, same] at at_other
            exact distinct.1 (at_other ▸ List.mem_map_of_mem present)
          rwa [at_key before known, rewrite_other (by simp [apart])] at guarded

-- A loop whose rounds close the open rows they pick picks no row twice.
theorem update_loop_distinct {S A E : Type} {tableOf : S -> Table key} {target : A -> K}
    {guard : A -> R -> Bool} {change : R -> R} {round : S -> A -> Except E S}
    (spec : UpdateRound tableOf target (fun _ => true) guard change round) (opened : R -> Bool)
    (picks : forall item row, guard item row = true -> opened row = true)
    (closes : forall row, opened (change row) = false) (items : List A) {start finish : S}
    (ran : items.foldlM round start = .ok finish) :
    (items.map target).Nodup /\ forall item, item ∈ items -> exists row,
      row ∈ (tableOf start).rows /\ key row = target item /\ opened row = true := by
  induction items generalizing start with
  | nil => simp
  | cons item rest ih =>
    simp only [List.foldlM_cons, Outcome.bind_ok] at ran
    obtain ⟨middle, first, later⟩ := ran
    obtain ⟨distinct, held⟩ := ih later
    obtain ⟨one, updated⟩ := spec.picked start item middle first rfl
    obtain ⟨row, member, hit, -⟩ := count_one one
    -- What is still open after the first round is none of what the round has picked.
    have apart : forall other, other ∈ rest -> exists row, row ∈ (tableOf start).rows /\
        key row = target other /\ opened row = true /\ target other ≠ target item := by
      intro other present
      obtain ⟨now, there, same, stillOpen⟩ := held other present
      rw [updated] at there
      obtain ⟨was, known, ⟨-, rfl⟩ | ⟨missed, rfl⟩⟩ := rewrite_mem there
      next => rw [closes] at stillOpen; cases stillOpen
      next =>
        refine ⟨now, known, same, stillOpen, fun equal => ?_⟩
        have found := (tableOf start).same_of_key known member
          ((same.trans equal).trans (spec.only item row hit).symm)
        rw [found, hit] at missed
        cases missed
    constructor
    next =>
      rw [List.map_cons, List.nodup_cons]
      refine ⟨fun there => ?_, distinct⟩
      obtain ⟨other, present, same⟩ := List.mem_map.1 there
      obtain ⟨-, -, -, -, different⟩ := apart other present
      exact different same
    next =>
      intro other there
      rcases List.mem_cons.1 there with rfl | present
      next => exact ⟨row, member, spec.only _ row hit, picks _ row hit⟩
      next =>
        obtain ⟨found, known, same, stillOpen, -⟩ := apart other present
        exact ⟨found, known, same, stillOpen⟩

-- An update that changed one row, which was known, and no other.
structure RewroteOne (table next : Table key) (change : R -> R) (current : R) : Prop where
  member : current ∈ table.rows
  changed : change current ∈ next.rows
  others : forall row, row ∈ table.rows -> key row ≠ key current -> row ∈ next.rows
  origin : forall row, row ∈ next.rows -> row = change current \/ (row ∈ table.rows /\ key row ≠ key current)

theorem rewroteOne {table : Table key} {chosen : R -> Bool} {change : R -> R}
    {keeps : forall row, key (change row) = key row} {current : R} (one : table.count chosen = 1)
    (member : current ∈ table.rows)
    (only : forall other, chosen other = true -> key other = key current) :
    RewroteOne table (table.update chosen change keeps) change current where
  member := member
  changed := List.mem_map.2 ⟨current, member, rewrite_chosen (count_one_hit one member only)⟩
  others row there apart := by
    refine List.mem_map.2 ⟨row, there, rewrite_other ?_⟩
    exact Bool.eq_false_iff.2 fun picked => apart (only row picked)
  origin row there := by
    obtain ⟨was, present, ⟨picked, rfl⟩ | ⟨missed, rfl⟩⟩ := rewrite_mem there
    next => exact .inl (by rw [table.same_of_key present member (only was picked)])
    next =>
      refine .inr ⟨present, fun same => ?_⟩
      rw [table.same_of_key present member same, count_one_hit one member only] at missed
      cases missed

variable [DecidableEq K]

def find? (table : Table key) (wanted : K) : Option R :=
  table.rows.find? fun row => decide (key row = wanted)

-- `none` is the primary key violation.
def insert? (table : Table key) (row : R) : Option (Table key) :=
  if fresh : key row ∈ table.rows.map key then none
  else some {
    rows := table.rows ++ [row]
    distinct := by
      rw [List.map_append, List.nodup_append]
      refine ⟨table.distinct, by simp, ?_⟩
      intro left member right other same
      simp only [List.map_cons, List.map_nil, List.mem_singleton] at other
      exact fresh (other ▸ same ▸ member) }

theorem find?_mem {table : Table key} {wanted : K} {row : R}
    (found : table.find? wanted = some row) : row ∈ table.rows :=
  List.mem_of_find?_eq_some found

theorem find?_key {table : Table key} {wanted : K} {row : R}
    (found : table.find? wanted = some row) : key row = wanted := by
  simpa using List.find?_some found

theorem find?_of_mem {table : Table key} {row : R} (member : row ∈ table.rows) :
    table.find? (key row) = some row := by
  cases found : table.find? (key row) with
  | none =>
    simp only [find?, List.find?_eq_none, decide_eq_true_eq] at found
    exact absurd rfl (found row member)
  | some other =>
    exact congrArg some (table.same_of_key (find?_mem found) member (find?_key found))

theorem find?_iff (table : Table key) (wanted : K) (row : R) :
    table.find? wanted = some row <-> row ∈ table.rows /\ key row = wanted := by
  constructor
  next => exact fun found => ⟨find?_mem found, find?_key found⟩
  next => rintro ⟨member, rfl⟩; exact find?_of_mem member

-- A total over the rows at one key is the amount of the row there.
theorem total_at_key (table : Table key) (amount : R -> Int) {row : R} (member : row ∈ table.rows) :
    table.total (fun other => if key other = key row then amount other else 0) = amount row := by
  have distinct := table.distinct
  unfold total
  revert member distinct
  generalize table.rows = rows
  intro member distinct
  induction rows with
  | nil => simp at member
  | cons first rest ih =>
    rw [List.map_cons, List.nodup_cons] at distinct
    rw [List.map_cons, List.sum_cons]
    cases List.mem_cons.1 member with
    | inl here =>
      subst here
      have others : (rest.map fun other => if key other = key row then amount other else 0).sum = 0 := by
        refine List.sum_eq_zero fun value there => ?_
        obtain ⟨other, present, rfl⟩ := List.mem_map.1 there
        have apart : key other ≠ key row := fun same => distinct.1 (same ▸ List.mem_map_of_mem present)
        simp [apart]
      simp [others]
    | inr later =>
      have apart : key first ≠ key row := fun same => distinct.1 (same ▸ List.mem_map_of_mem later)
      simp [apart, ih later distinct.2]

-- Rows that each belong to one row of the table add up row by row of the table.
theorem total_grouped {S : Type} (table : Table key) (rows : List S) (field : S -> K) (amount : S -> Int)
    (known : forall row, row ∈ rows -> exists group, group ∈ table.rows /\ key group = field row) :
    table.total (fun group => (rows.map fun row => if key group = field row then amount row else 0).sum) =
      (rows.map amount).sum := by
  induction rows with
  | nil => simp [total]
  | cons row rest ih =>
    obtain ⟨group, present, same⟩ := known row List.mem_cons_self
    have here := table.total_at_key (fun _ => amount row) present
    rw [same] at here
    have later := ih fun other member => known other (List.mem_cons_of_mem row member)
    simp only [List.map_cons, List.sum_cons]
    refine Eq.trans ?_ (congrArg₂ HAdd.hAdd here later)
    unfold total
    exact List.sum_map_add

theorem find?_none (table : Table key) (wanted : K) :
    table.find? wanted = none <-> forall row, row ∈ table.rows -> key row ≠ wanted := by
  simp [find?, List.find?_eq_none]

theorem find?_update_at {table : Table key} {row : R} (member : row ∈ table.rows)
    {chosen : R -> Bool} {change : R -> R} {keeps : forall row, key (change row) = key row}
    (hit : chosen row = true) (only : forall other, chosen other = true -> key other = key row)
    (wanted : K) :
    (table.update chosen change keeps).find? wanted =
      if wanted = key row then some (change row) else table.find? wanted :=
  lookup_update_at table.distinct member keeps hit only wanted

theorem insert?_rows {table next : Table key} {row : R} (inserted : table.insert? row = some next) :
    next.rows = table.rows ++ [row] /\ forall other, other ∈ table.rows -> key other ≠ key row := by
  unfold insert? at inserted
  split at inserted
  next => simp at inserted
  next fresh =>
    obtain rfl := Option.some.inj inserted
    refine ⟨rfl, fun other member same => fresh ?_⟩
    exact same ▸ List.mem_map_of_mem member

theorem insert?_fresh {table : Table key} {row : R}
    (fresh : forall other, other ∈ table.rows -> key other ≠ key row) :
    exists next, table.insert? row = some next := by
  unfold insert?
  split
  next present =>
    obtain ⟨other, member, same⟩ := List.mem_map.1 present
    exact absurd same (fresh other member)
  next => exact ⟨_, rfl⟩

theorem find?_insert? {table next : Table key} {row : R} (inserted : table.insert? row = some next)
    (wanted : K) : next.find? wanted = if key row = wanted then some row else table.find? wanted := by
  obtain ⟨rows, fresh⟩ := insert?_rows inserted
  by_cases same : key row = wanted
  next =>
    have absent : table.find? wanted = none :=
      (find?_none table wanted).2 fun other member => same ▸ fresh other member
    simp only [find?] at absent ⊢
    simp [rows, List.find?_append, absent, same]
  next =>
    simp only [find?]
    simp [rows, List.find?_append, same]

theorem find?_inserted {table next : Table key} {row : R} (inserted : table.insert? row = some next) :
    next.find? (key row) = some row := by
  rw [find?_insert? inserted, if_pos rfl]

theorem lookup_append {S : Type} [DecidableEq S] {table next : Table key} {row : R} {field : R -> S}
    (inserted : table.insert? row = some next) (wanted : S) :
    next.lookup field wanted =
      (table.lookup field wanted).or (if field row = wanted then some row else none) := by
  obtain ⟨rows, -⟩ := insert?_rows inserted
  by_cases same : field row = wanted <;> simp [lookup, rows, List.find?_append, same]

theorem find?_update (table : Table key) (chosen : R -> Bool) (change : R -> R)
    (keeps : forall row, key (change row) = key row) (wanted : K) :
    (table.update chosen change keeps).find? wanted =
      (table.find? wanted).map (rewrite chosen change) := by
  have same : forall row, key (rewrite chosen change row) = key row := by
    intro row
    by_cases h : chosen row <;> simp [rewrite, h, keeps]
  simp [find?, List.find?_map, Function.comp_def, same]

-- `update` of one row by its key.
def modify (table : Table key) (wanted : K) (change : R -> R)
    (keeps : forall row, key (change row) = key row) : Table key :=
  table.update (fun row => decide (key row = wanted)) change keeps

theorem find?_modify (table : Table key) (wanted : K) (change : R -> R)
    (keeps : forall row, key (change row) = key row) (other : K) :
    (table.modify wanted change keeps).find? other =
      if other = wanted then (table.find? wanted).map change else table.find? other := by
  unfold modify
  rw [find?_update]
  by_cases same : other = wanted
  next =>
    subst same
    cases found : table.find? other with
    | none => simp
    | some row => simp [rewrite, find?_key found]
  next =>
    cases found : table.find? other with
    | none => simp [same]
    | some row => simp [same, rewrite, find?_key found]

end Table

end VapeCommerce.Lib
