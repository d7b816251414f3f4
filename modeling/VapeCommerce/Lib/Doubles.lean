import Mathlib.Algebra.Order.Ring.Int
import Mathlib.Algebra.Order.BigOperators.Group.List
import Mathlib.Algebra.Order.Group.Int

set_option autoImplicit false

-- Whole numbers added as doubles: a sum beyond 53 bits is rounded to the nearest, ties to even.
namespace VapeCommerce.Lib.Doubles

def nearest (value : Int) : Int :=
  let magnitude := value.natAbs
  let spacing := 2 ^ (magnitude.log2 - 52)
  let steps := magnitude / spacing
  let rest := magnitude % spacing
  let rounded := if 2 * rest < spacing \/ (2 * rest = spacing /\ steps % 2 = 0) then steps else steps + 1
  value.sign * (rounded * spacing : Nat)

def plus (left right : Int) : Int := nearest (left + right)

def minus (left right : Int) : Int := nearest (left - right)

-- `Number.MAX_SAFE_INTEGER`
def maxSafe : Int := 9007199254740991

def size (value : Int) : Int := value.natAbs

def sizes (values : List Int) : Int := (values.map size).sum

theorem size_nonneg (value : Int) : 0 <= size value := Int.natCast_nonneg _

theorem size_add (left right : Int) : size (left + right) <= size left + size right := by
  unfold size
  omega

theorem size_sub (left right : Int) : size (left - right) <= size left + size right := by
  unfold size
  omega

theorem sizes_nonneg (values : List Int) : 0 <= sizes values :=
  List.sum_nonneg fun _ here => by
    obtain ⟨value, -, rfl⟩ := List.mem_map.1 here
    exact size_nonneg value

@[simp]
theorem sizes_cons (value : Int) (values : List Int) : sizes (value :: values) = size value + sizes values := rfl

theorem size_sum (values : List Int) : size values.sum <= sizes values := by
  induction values with
  | nil => decide
  | cons value values ih =>
    have split := size_add value values.sum
    rw [List.sum_cons, sizes_cons]
    omega

theorem sum_map_sub {A : Type} (left right : A -> Int) (items : List A) :
    (items.map fun item => left item - right item).sum = (items.map left).sum - (items.map right).sum := by
  induction items with
  | nil => rfl
  | cons item rest ih =>
    simp only [List.map_cons, List.sum_cons, ih]
    omega

theorem nearest_exact {value : Int} (safe : size value <= maxSafe) : nearest value = value := by
  have bits : value.natAbs.log2 - 52 = 0 := by
    by_cases zero : value.natAbs = 0
    next => rw [zero]; decide
    next =>
      have below : value.natAbs.log2 < 53 := (Nat.log2_lt zero).2 (by unfold size maxSafe at safe; omega)
      omega
  have kept := Int.sign_mul_natAbs value
  simpa only [nearest, bits, Nat.pow_zero, Nat.div_one, Nat.mod_one, Nat.mul_zero, Nat.lt_one_iff, true_or,
    if_true, Nat.mul_one] using kept

theorem plus_exact {left right : Int} (safe : size left + size right <= maxSafe) : plus left right = left + right :=
  nearest_exact ((size_add left right).trans safe)

theorem minus_exact {left right : Int} (safe : size left + size right <= maxSafe) :
    minus left right = left - right :=
  nearest_exact ((size_sub left right).trans safe)

/-- A running sum is exact where the sizes of what it adds come to a safe integer. -/
theorem foldl_plus (values : List Int) (start : Int) (safe : size start + sizes values <= maxSafe) :
    values.foldl plus start = start + values.sum := by
  induction values generalizing start with
  | nil => simp
  | cons value values ih =>
    rw [sizes_cons] at safe
    have rest := sizes_nonneg values
    have first := size_add start value
    rw [List.foldl_cons, plus_exact (by omega), ih (start + value) (by omega), List.sum_cons, add_assoc]

end VapeCommerce.Lib.Doubles
