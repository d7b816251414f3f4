import VapeCommerce.Lib.Table
import VapeCommerce.Lib.ThreeValued

set_option autoImplicit false

-- Joins, row by row; a condition that is unknown matches nothing.
namespace VapeCommerce.Lib.Relational

open ThreeValued

variable {A B K : Type}

def matches? (right : List B) (condition : B -> Truth) : List B :=
  right.filter fun other => (condition other).kept

def innerJoin (left : List A) (right : List B) (condition : A -> B -> Truth) : List (A × B) :=
  left.flatMap fun row => (matches? right (condition row)).map fun other => (row, other)

-- A row that nothing matches stands once, beside NULLs.
def padded : List B -> List (Option B)
  | [] => [none]
  | rows => rows.map some

def leftJoin (left : List A) (right : List B) (condition : A -> B -> Truth) : List (A × Option B) :=
  left.flatMap fun row => (padded (matches? right (condition row))).map fun other => (row, other)

def equals [DecidableEq K] : Option K -> Option K -> Truth :=
  related fun left right => decide (left = right)

theorem padded_ne_nil (rows : List B) : padded rows ≠ [] := by
  cases rows <;> simp [padded]

@[simp]
theorem padded_toList (row : Option B) : padded row.toList = [row] := by
  cases row <;> rfl

theorem sum_padded (amount : B -> Int) (rows : List B) :
    ((padded rows).map fun row => row.elim 0 amount).sum = (rows.map amount).sum := by
  cases rows with
  | nil => rfl
  | cons row rest => simp [padded, Function.comp_def]

-- A condition that each block meets as a whole keeps whole blocks.
theorem filter_blocks {items : List A} {block : A -> List B} {kept : B -> Bool} {chosen : A -> Bool}
    (same : forall item, item ∈ items -> forall row, row ∈ block item -> kept row = chosen item) :
    (items.flatMap block).filter kept = (items.filter chosen).flatMap block := by
  induction items with
  | nil => rfl
  | cons item rest ih =>
    have here := same item List.mem_cons_self
    rw [List.flatMap_cons, List.filter_append, ih fun other there => same other (List.mem_cons_of_mem item there)]
    cases chose : chosen item with
    | true =>
      rw [List.filter_cons_of_pos chose, List.flatMap_cons]
      exact congrArg (· ++ _) (List.filter_eq_self.2 fun row member => (here row member).trans chose)
    | false =>
      rw [List.filter_cons_of_neg (by simp [chose])]
      have none : (block item).filter kept = [] :=
        List.filter_eq_nil_iff.2 fun row member => by simp [here row member, chose]
      rw [none, List.nil_append]

section Table

variable [DecidableEq K] {key : B -> K} (table : Table key)

-- What a reference to a primary key finds.
def refer (wanted : Option K) : Option B :=
  wanted.bind (table.lookup key)

theorem matches_key (wanted : Option K) :
    (matches? table.rows fun other => equals (some (key other)) wanted) = (refer table wanted).toList := by
  cases wanted with
  | none => simp [matches?, equals, refer]
  | some wanted =>
    have same : (matches? table.rows fun other => equals (some (key other)) (some wanted)) =
        table.filter fun other => decide (key other = wanted) :=
      List.filter_congr fun other _ => by simp [equals]
    rw [same, refer, Option.bind_some]
    cases found : table.lookup key wanted with
    | none => exact List.filter_eq_nil_iff.2 (by simpa using (table.lookup_none key wanted).1 found)
    | some row => exact table.filter_unique table.distinct found

/-- An inner join on a primary key keeps the rows whose reference finds one, each once. -/
theorem innerJoin_key (left : List A) (wanted : A -> Option K) :
    innerJoin left table.rows (fun row other => equals (some (key other)) (wanted row)) =
      left.filterMap fun row => (refer table (wanted row)).map fun other => (row, other) := by
  rw [innerJoin, List.filterMap_eq_flatMap_toList]
  refine List.flatMap_congr fun row _ => ?_
  rw [matches_key]
  cases refer table (wanted row) <;> rfl

/-- A left join on a primary key keeps every row, once. -/
theorem leftJoin_key (left : List A) (wanted : A -> Option K) :
    leftJoin left table.rows (fun row other => equals (some (key other)) (wanted row)) =
      left.map fun row => (row, refer table (wanted row)) := by
  rw [leftJoin, List.map_eq_flatMap]
  refine List.flatMap_congr fun row _ => ?_
  rw [matches_key, padded_toList]
  rfl

end Table

end VapeCommerce.Lib.Relational
