set_option autoImplicit false

-- The truth of a condition over columns that may be NULL: a row is kept only where it is yes.
namespace VapeCommerce.Lib.ThreeValued

variable {A R : Type}

inductive Truth where
  | yes
  | no
  | unknown
deriving DecidableEq, Repr

def Truth.ofBool : Bool -> Truth
  | true => .yes
  | false => .no

def Truth.not : Truth -> Truth
  | .yes => .no
  | .no => .yes
  | .unknown => .unknown

def Truth.and : Truth -> Truth -> Truth
  | .no, _ => .no
  | _, .no => .no
  | .yes, .yes => .yes
  | _, _ => .unknown

def Truth.or : Truth -> Truth -> Truth
  | .yes, _ => .yes
  | _, .yes => .yes
  | .no, .no => .no
  | _, _ => .unknown

def every (conditions : List Truth) : Truth :=
  conditions.foldr Truth.and .yes

def any (conditions : List Truth) : Truth :=
  conditions.foldr Truth.or .no

def Truth.kept (truth : Truth) : Bool :=
  truth = .yes

def isNull (value : Option A) : Truth :=
  .ofBool value.isNone

def notNull (value : Option A) : Truth :=
  .ofBool value.isSome

def related (test : A -> A -> Bool) : Option A -> Option A -> Truth
  | some left, some right => .ofBool (test left right)
  | _, _ => .unknown

-- EXISTS and NOT EXISTS over the rows that a condition keeps.
def existsRow (rows : List R) (condition : R -> Truth) : Truth :=
  .ofBool (rows.any fun row => (condition row).kept)

def noRow (rows : List R) (condition : R -> Truth) : Truth :=
  (existsRow rows condition).not

@[simp]
theorem kept_ofBool (flag : Bool) : (Truth.ofBool flag).kept = flag := by
  cases flag <;> rfl

@[simp]
theorem not_ofBool (flag : Bool) : (Truth.ofBool flag).not = .ofBool (!flag) := by
  cases flag <;> rfl

@[simp]
theorem and_ofBool (left right : Bool) :
    (Truth.ofBool left).and (.ofBool right) = .ofBool (left && right) := by
  cases left <;> cases right <;> rfl

@[simp]
theorem or_ofBool (left right : Bool) :
    (Truth.ofBool left).or (.ofBool right) = .ofBool (left || right) := by
  cases left <;> cases right <;> rfl

theorem kept_and (left right : Truth) : (left.and right).kept = (left.kept && right.kept) := by
  cases left <;> cases right <;> rfl

theorem kept_or (left right : Truth) : (left.or right).kept = (left.kept || right.kept) := by
  cases left <;> cases right <;> rfl

theorem kept_every (conditions : List Truth) : (every conditions).kept = conditions.all Truth.kept := by
  induction conditions with
  | nil => rfl
  | cons condition rest ih =>
    rw [every, List.foldr_cons, kept_and, List.all_cons]
    exact congrArg (condition.kept && ·) ih

@[simp]
theorem kept_unknown : Truth.unknown.kept = false := rfl

-- A condition that is unknown is kept neither as it is nor negated.
theorem kept_not_unknown : Truth.unknown.not.kept = false := rfl

@[simp]
theorem kept_existsRow (rows : List R) (condition : R -> Truth) :
    (existsRow rows condition).kept = rows.any fun row => (condition row).kept :=
  kept_ofBool _

@[simp]
theorem kept_noRow (rows : List R) (condition : R -> Truth) :
    (noRow rows condition).kept = !rows.any fun row => (condition row).kept := by
  rw [noRow, existsRow, not_ofBool, kept_ofBool]

@[simp]
theorem related_some (test : A -> A -> Bool) (left right : A) :
    related test (some left) (some right) = .ofBool (test left right) := rfl

@[simp]
theorem related_left_none (test : A -> A -> Bool) (right : Option A) :
    related test none right = .unknown := rfl

@[simp]
theorem related_right_none (test : A -> A -> Bool) (left : Option A) :
    related test left none = .unknown := by
  cases left <;> rfl

@[simp]
theorem every_nil : every [] = .ofBool true := rfl

@[simp]
theorem every_cons (condition : Truth) (rest : List Truth) :
    every (condition :: rest) = condition.and (every rest) := rfl

@[simp]
theorem any_nil : any [] = .ofBool false := rfl

@[simp]
theorem any_cons (condition : Truth) (rest : List Truth) :
    any (condition :: rest) = condition.or (any rest) := rfl

end VapeCommerce.Lib.ThreeValued
