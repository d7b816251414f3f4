import Mathlib.Data.List.Induction
import VapeCommerce.Lib.Table

set_option autoImplicit false

-- Entries under keys, gathered from rows one after another.
namespace VapeCommerce.Lib.Tally

variable {K V R : Type} [DecidableEq K]

-- An entry that is there keeps its place, a new one comes last.
def upsert (key : K) (created : V) (change : V -> V) : List (K × V) -> List (K × V)
  | [] => [(key, change created)]
  | entry :: rest =>
    if entry.1 = key then (key, change entry.2) :: rest
    else entry :: upsert key created change rest

def tally (key : R -> K) (create : R -> V) (add : R -> V -> V) (entries : List (K × V)) (rows : List R) :
    List (K × V) :=
  rows.foldl (fun entries row => upsert (key row) (create row) (add row) entries) entries

def groupBy (key : R -> K) (rows : List R) : List (K × List R) :=
  tally key (fun _ => []) (fun row group => group ++ [row]) [] rows

def held? (entries : List (K × V)) (key : K) : Option V :=
  (entries.find? fun entry => entry.1 = key).map Prod.snd

section Upsert

theorem held?_upsert (key wanted : K) (created : V) (change : V -> V) (entries : List (K × V)) :
    held? (upsert key created change entries) wanted =
      if key = wanted then some (change ((held? entries key).getD created)) else held? entries wanted := by
  induction entries with
  | nil => by_cases same : key = wanted <;> simp [upsert, held?, same]
  | cons entry rest ih =>
    by_cases here : entry.1 = key
    next => by_cases same : key = wanted <;> simp [upsert, held?, here, same]
    next =>
      rw [upsert, if_neg here]
      by_cases same : entry.1 = wanted
      next =>
        have apart : key ≠ wanted := fun equal => here (same.trans equal.symm)
        simp [held?, same, apart]
      next =>
        have skipped : forall entries : List (K × V), held? (entry :: entries) wanted = held? entries wanted := by
          simp [held?, same]
        have passed : held? (entry :: rest) key = held? rest key := by simp [held?, here]
        rw [skipped, skipped, passed, ih]

theorem keys_upsert (key : K) (created : V) (change : V -> V) (entries : List (K × V)) :
    (upsert key created change entries).map Prod.fst =
      if key ∈ entries.map Prod.fst then entries.map Prod.fst else entries.map Prod.fst ++ [key] := by
  induction entries with
  | nil => simp [upsert]
  | cons entry rest ih =>
    by_cases here : entry.1 = key
    next => simp [upsert, here]
    next =>
      rw [upsert, if_neg here, List.map_cons, List.map_cons, ih]
      by_cases there : key ∈ rest.map Prod.fst
      next => rw [if_pos there, if_pos (List.mem_cons_of_mem _ there)]
      next => rw [if_neg there, if_neg (by simp [there, Ne.symm here]), List.cons_append]

theorem nodup_upsert (key : K) (created : V) (change : V -> V) {entries : List (K × V)}
    (distinct : (entries.map Prod.fst).Nodup) : ((upsert key created change entries).map Prod.fst).Nodup := by
  rw [keys_upsert]
  split
  next => exact distinct
  next fresh =>
    rw [List.nodup_append]
    refine ⟨distinct, List.nodup_singleton key, fun other here last added => ?_⟩
    obtain rfl := List.mem_singleton.1 added
    rintro rfl
    exact fresh here

theorem sum_upsert {key : K} {created : V} {change : V -> V} {measure : K × V -> Int} {gain : Int}
    (fresh : measure (key, created) = 0)
    (grown : forall value, measure (key, change value) = measure (key, value) + gain) (entries : List (K × V)) :
    ((upsert key created change entries).map measure).sum = (entries.map measure).sum + gain := by
  induction entries with
  | nil => simp [upsert, grown, fresh]
  | cons entry rest ih =>
    by_cases here : entry.1 = key
    next =>
      obtain ⟨_, value⟩ := entry
      subst here
      rw [upsert, if_pos rfl, List.map_cons, List.map_cons, List.sum_cons, List.sum_cons, grown, add_right_comm]
    next =>
      rw [upsert, if_neg here, List.map_cons, List.map_cons, List.sum_cons, List.sum_cons, ih, add_assoc]

theorem held?_iff {entries : List (K × V)} (distinct : (entries.map Prod.fst).Nodup) (key : K) (value : V) :
    held? entries key = some value <-> (key, value) ∈ entries := by
  rw [held?, Option.map_eq_some_iff]
  constructor
  next =>
    rintro ⟨⟨other, _⟩, found, rfl⟩
    have same : other = key := by simpa using List.find?_some found
    exact same ▸ List.mem_of_find?_eq_some found
  next =>
    intro here
    cases found : entries.find? fun entry => decide (entry.1 = key) with
    | none => simpa using List.find?_eq_none.1 found (key, value) here
    | some entry =>
      have same : entry.1 = key := by simpa using List.find?_some found
      have equal := List.inj_on_of_nodup_map distinct (List.mem_of_find?_eq_some found) here same
      exact ⟨entry, rfl, congrArg Prod.snd equal⟩

end Upsert

section Rows

variable (key : R -> K) (create : R -> V) (add : R -> V -> V)

theorem nodup_tally {entries : List (K × V)} (distinct : (entries.map Prod.fst).Nodup) (rows : List R) :
    ((tally key create add entries rows).map Prod.fst).Nodup := by
  induction rows generalizing entries with
  | nil => exact distinct
  | cons row rest ih => exact ih (nodup_upsert _ _ _ distinct)

theorem held?_tally (entries : List (K × V)) (rows : List R) (wanted : K) :
    held? (tally key create add entries rows) wanted =
      (rows.filter fun row => key row = wanted).foldl
        (fun value? row => some (add row (value?.getD (create row)))) (held? entries wanted) := by
  induction rows generalizing entries with
  | nil => rfl
  | cons row rest ih =>
    refine (ih _).trans ?_
    rw [held?_upsert]
    by_cases same : key row = wanted
    next =>
      subst same
      simp
    next => simp [same]

omit [DecidableEq K] in
theorem keys_none : (([] : List (K × V)).map Prod.fst).Nodup := List.nodup_nil

theorem gathered (rows : List R) (value : V) :
    rows.foldl (fun value? row => some (add row (value?.getD (create row)))) (some value) =
      some (rows.foldl (fun value row => add row value) value) := by
  induction rows generalizing value with
  | nil => rfl
  | cons row rest ih => exact ih (add row value)

/-- An entry is what the rows of its key make, from what the first of them creates. -/
theorem mem_tally (rows : List R) (wanted : K) (value : V) :
    (wanted, value) ∈ tally key create add [] rows <-> exists first rest,
      (rows.filter fun row => key row = wanted) = first :: rest /\
        (first :: rest).foldl (fun value row => add row value) (create first) = value := by
  rw [<- held?_iff (nodup_tally key create add keys_none rows), held?_tally]
  cases rows.filter fun row => decide (key row = wanted) with
  | nil => simp [held?]
  | cons first rest =>
    rw [List.foldl_cons]
    refine Eq.congr_left (gathered create add rest _) |>.trans ?_
    simp [held?]

theorem tally_of_mem {rows : List R} {row : R} (here : row ∈ rows) :
    exists value, (key row, value) ∈ tally key create add [] rows := by
  cases found : rows.filter fun other => decide (key other = key row) with
  | nil => simpa using List.filter_eq_nil_iff.1 found row here
  | cons first rest => exact ⟨_, (mem_tally key create add rows _ _).2 ⟨first, rest, found, rfl⟩⟩

end Rows

-- Rows counted under a code of the value they show, by entries that show their first row's value.
section Coded

variable {A : Type} [DecidableEq A] {code : A -> K} {value : R -> A} {shown : V -> A}

structure Carried (value : R -> A) (shown : V -> A) (create : R -> V) (add : R -> V -> V) : Prop where
  created : forall row, shown (create row) = value row
  kept : forall row entry, shown (add row entry) = shown entry

def Separates (code : A -> K) (values : List A) : Prop :=
  forall left, left ∈ values -> forall right, right ∈ values -> code left = code right -> left = right

variable {create : R -> V} {add : R -> V -> V} {rows : List R}

omit [DecidableEq A] in
theorem carried_foldl (carried : Carried value shown create add) (rows : List R) (entry : V) :
    shown (rows.foldl (fun entry row => add row entry) entry) = shown entry := by
  induction rows generalizing entry with
  | nil => rfl
  | cons row rest ih => exact (ih _).trans (carried.kept row entry)

omit [DecidableEq A] in
theorem coded_entry (carried : Carried value shown create add) {key : K} {entry : V}
    (here : (key, entry) ∈ tally (fun row => code (value row)) create add [] rows) :
    code (shown entry) = key /\ shown entry ∈ rows.map value := by
  obtain ⟨first, rest, found, rfl⟩ := (mem_tally _ create add rows key entry).1 here
  have first_here : first ∈ rows.filter fun row => code (value row) = key := found ▸ List.mem_cons_self
  obtain ⟨present, same⟩ := List.mem_filter.1 first_here
  rw [carried_foldl carried, carried.created]
  exact ⟨of_decide_eq_true same, List.mem_map_of_mem present⟩

omit [DecidableEq A] in
theorem coded_distinct (carried : Carried value shown create add) (rows : List R) :
    ((tally (fun row => code (value row)) create add [] rows).map fun entry => shown entry.2).Nodup := by
  have keys := nodup_tally (fun row => code (value row)) create add keys_none rows
  refine List.Nodup.of_map code ?_
  rw [List.map_map]
  refine (congrArg List.Nodup (List.map_congr_left fun entry here => ?_)).mpr keys
  exact (coded_entry carried here).1

omit [DecidableEq A] in
/-- Where every shown value has an entry of its own, no two of them share a code. -/
theorem separates_of_shown (carried : Carried value shown create add)
    (all : forall row, row ∈ rows -> exists entry,
      entry ∈ tally (fun row => code (value row)) create add [] rows /\ shown entry.2 = value row) :
    Separates code (rows.map value) := by
  intro left left_here right right_here same
  obtain ⟨first, first_here, rfl⟩ := List.mem_map.1 left_here
  obtain ⟨second, second_here, rfl⟩ := List.mem_map.1 right_here
  obtain ⟨one, one_here, one_shown⟩ := all first first_here
  obtain ⟨other, other_here, other_shown⟩ := all second second_here
  have keys := nodup_tally (fun row => code (value row)) create add keys_none rows
  have equal : one.1 = other.1 := by
    rw [<- (coded_entry carried one_here).1, <- (coded_entry carried other_here).1, one_shown, other_shown, same]
  rw [<- one_shown, <- other_shown, List.inj_on_of_nodup_map keys one_here other_here equal]

/-- Where no two values share a code, an entry gathers the rows that show its value. -/
theorem coded_rows (carried : Carried value shown create add) (separates : Separates code (rows.map value))
    {entry : K × V} (here : entry ∈ tally (fun row => code (value row)) create add [] rows) :
    exists first, first ∈ rows /\
      (rows.filter fun row => value row = shown entry.2).foldl (fun entry row => add row entry) (create first) =
        entry.2 := by
  obtain ⟨key, entry⟩ := entry
  obtain ⟨first, rest, found, made⟩ := (mem_tally _ create add rows key entry).1 here
  obtain ⟨same, present⟩ := coded_entry carried here
  have first_here : first ∈ rows.filter fun row => code (value row) = key := found ▸ List.mem_cons_self
  have filtered : (rows.filter fun row => value row = shown entry) = first :: rest := by
    rw [<- found]
    refine List.filter_congr fun row there => decide_eq_decide.2 ⟨fun equal => equal ▸ same, fun equal => ?_⟩
    exact separates _ (List.mem_map_of_mem there) _ present (equal.trans same.symm)
  exact ⟨first, (List.mem_filter.1 first_here).1, by rw [filtered]; exact made⟩

omit [DecidableEq A] in
theorem coded_shown (carried : Carried value shown create add) (separates : Separates code (rows.map value))
    (wanted : A) :
    wanted ∈ ((tally (fun row => code (value row)) create add [] rows).map fun entry => shown entry.2) <->
      wanted ∈ rows.map value := by
  constructor
  next =>
    intro here
    obtain ⟨entry, there, rfl⟩ := List.mem_map.1 here
    exact (coded_entry carried there).2
  next =>
    intro here
    obtain ⟨row, present, rfl⟩ := List.mem_map.1 here
    obtain ⟨entry, there⟩ := tally_of_mem (fun row => code (value row)) create add present
    obtain ⟨same, shows⟩ := coded_entry carried there
    exact List.mem_map.2 ⟨_, there, separates _ shows _ here same⟩

end Coded

section Groups

variable (key : R -> K) (rows : List R)

theorem appended (rows group : List R) :
    rows.foldl (fun group row => group ++ [row]) group = group ++ rows := by
  induction rows generalizing group with
  | nil => simp
  | cons row rest ih => simp [ih]

theorem mem_groupBy (wanted : K) (group : List R) :
    (wanted, group) ∈ groupBy key rows <->
      group = (rows.filter fun row => key row = wanted) /\ group ≠ [] := by
  rw [groupBy, mem_tally]
  constructor
  next =>
    rintro ⟨first, rest, found, rfl⟩
    rw [appended, found]
    exact ⟨rfl, List.cons_ne_nil _ _⟩
  next =>
    rintro ⟨rfl, some⟩
    obtain ⟨first, rest, found⟩ := List.exists_cons_of_ne_nil some
    exact ⟨first, rest, found, (appended _ []).trans found.symm⟩

theorem mem_groupBy_keys (wanted : K) :
    wanted ∈ (groupBy key rows).map Prod.fst <-> exists row, row ∈ rows /\ key row = wanted := by
  simp only [List.mem_map, Prod.exists, exists_and_right, exists_eq_right, mem_groupBy, exists_eq_left, ne_eq,
    List.filter_eq_nil_iff, decide_eq_true_eq, not_forall, not_not, exists_prop]

theorem groupBy_grown (kept : K -> Bool) (amount : R -> Int) (groups : List (K × List R)) :
    ((tally key (fun _ => []) (fun row group => group ++ [row]) groups rows).map fun group =>
        if kept group.1 then (group.2.map amount).sum else 0).sum =
      (groups.map fun group => if kept group.1 then (group.2.map amount).sum else 0).sum +
        (rows.map fun row => if kept (key row) then amount row else 0).sum := by
  induction rows generalizing groups with
  | nil => simp [tally]
  | cons row rest ih =>
    refine (ih _).trans ?_
    rw [@sum_upsert K (List R) _ (key row) [] _ _ (if kept (key row) then amount row else 0) (by simp)
      (fun group => by cases kept (key row) <;> simp), List.map_cons, List.sum_cons, add_assoc]

/-- The groups that a condition on the key keeps sum to the rows whose keys it keeps. -/
theorem groupBy_sum (kept : K -> Bool) (amount : R -> Int) :
    (((groupBy key rows).filter fun group => kept group.1).map fun group => (group.2.map amount).sum).sum =
      ((rows.filter fun row => kept (key row)).map amount).sum := by
  rw [sum_filter, sum_filter, groupBy, groupBy_grown]
  simp

theorem upsert_upsert (wanted : K) (created : R) (first second : R -> R) (entries : List (K × R)) :
    upsert wanted created second (upsert wanted created first entries) =
      upsert wanted created (fun value => second (first value)) entries := by
  induction entries with
  | nil => simp [upsert]
  | cons entry rest ih => by_cases here : entry.1 = wanted <;> simp [upsert, here, ih]

-- Rows of one key, one after another, join its group as one block.
theorem tally_block {wanted : K} (block : List R) (same : forall row, row ∈ block -> key row = wanted)
    (some : block ≠ []) (groups : List (K × List R)) :
    tally key (fun _ => []) (fun row group => group ++ [row]) groups block =
      upsert wanted [] (fun group => group ++ block) groups := by
  induction block generalizing groups with
  | nil => exact absurd rfl some
  | cons row rest ih =>
    have first : key row = wanted := same row List.mem_cons_self
    have step : tally key (fun _ => []) (fun row group => group ++ [row]) groups (row :: rest) =
        tally key (fun _ => []) (fun row group => group ++ [row])
          (upsert wanted [] (fun group => group ++ [row]) groups) rest := by rw [<- first]; rfl
    rw [step]
    by_cases last : rest = []
    next => rw [last]; rfl
    next =>
      rw [ih (fun other here => same other (List.mem_cons_of_mem row here)) last, upsert_upsert]
      simp

theorem upsert_map {A : Type} (wanted : K) (item : A) (block : A -> List R) (groups : List (K × List A)) :
    (upsert wanted [] (fun group => group ++ [item]) groups).map (fun group => (group.1, group.2.flatMap block)) =
      upsert wanted [] (fun group => group ++ block item)
        (groups.map fun group => (group.1, group.2.flatMap block)) := by
  induction groups with
  | nil => simp [upsert]
  | cons group rest ih => by_cases here : group.1 = wanted <;> simp [upsert, here, ih]

theorem tally_flatMap {A : Type} {code : A -> K} {block : A -> List R} (items : List A)
    (some : forall item, item ∈ items -> block item ≠ [])
    (same : forall item, item ∈ items -> forall row, row ∈ block item -> key row = code item)
    (groups : List (K × List A)) :
    tally key (fun _ => []) (fun row group => group ++ [row])
        (groups.map fun group => (group.1, group.2.flatMap block)) (items.flatMap block) =
      (tally code (fun _ => []) (fun item group => group ++ [item]) groups items).map fun group =>
        (group.1, group.2.flatMap block) := by
  induction items generalizing groups with
  | nil => rfl
  | cons item rest ih =>
    have first := tally_block key (block item) (same item List.mem_cons_self) (some item List.mem_cons_self)
      (groups.map fun group => (group.1, group.2.flatMap block))
    rw [<- upsert_map] at first
    have later := ih (fun other here => some other (List.mem_cons_of_mem item here))
      (fun other here => same other (List.mem_cons_of_mem item here))
      (upsert (code item) [] (fun group => group ++ [item]) groups)
    rw [List.flatMap_cons, tally, List.foldl_append]
    exact (congrArg (fun groups => tally key _ _ groups _) first).trans later

/-- Items that each stand for rows of one key are grouped as their rows are. -/
theorem groupBy_flatMap {A : Type} {code : A -> K} {block : A -> List R} (items : List A)
    (some : forall item, item ∈ items -> block item ≠ [])
    (same : forall item, item ∈ items -> forall row, row ∈ block item -> key row = code item) :
    groupBy key (items.flatMap block) =
      (groupBy code items).map fun group => (group.1, group.2.flatMap block) :=
  tally_flatMap key items some same []

theorem upsert_fresh {wanted : K} {groups : List (K × List R)} (fresh : Not (wanted ∈ groups.map Prod.fst))
    (change : List R -> List R) : upsert wanted [] change groups = groups ++ [(wanted, change [])] := by
  induction groups with
  | nil => rfl
  | cons group rest ih =>
    rw [List.map_cons, List.mem_cons, not_or] at fresh
    rw [upsert, if_neg (Ne.symm fresh.1), ih fresh.2, List.cons_append]

theorem groupBy_distinct (distinct : (rows.map key).Nodup) :
    groupBy key rows = rows.map fun row => (key row, [row]) := by
  induction rows using List.reverseRec with
  | nil => rfl
  | append_singleton rows row ih =>
    rw [List.map_append, List.nodup_append] at distinct
    have fresh : Not (key row ∈ (groupBy key rows).map Prod.fst) := by
      intro here
      obtain ⟨other, present, equal⟩ := (mem_groupBy_keys key rows (key row)).1 here
      exact distinct.2.2 _ (List.mem_map_of_mem present) _ (List.mem_singleton_self _) equal
    rw [groupBy, tally, List.foldl_append, List.map_append, <- ih distinct.1]
    exact upsert_fresh fresh _

end Groups

end VapeCommerce.Lib.Tally
