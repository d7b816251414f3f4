import Mathlib.Data.List.Basic

set_option autoImplicit false

-- A list read page by page.
namespace VapeCommerce.Lib.Paging

variable {A : Type}

def page (items : List A) (size index : Nat) : List A :=
  (items.drop (index * size)).take size

def pageCount (total size : Nat) : Nat :=
  (total + size - 1) / size

theorem pages_take (items : List A) (size count : Nat) :
    (List.range count).flatMap (page items size) = items.take (count * size) := by
  induction count with
  | zero => simp
  | succ count ih =>
    rw [List.range_succ, List.flatMap_append, ih, Nat.succ_mul, List.take_add]
    simp [page]

theorem total_le_pages {total size : Nat} (positive : 0 < size) : total <= pageCount total size * size := by
  have rounded := Nat.div_add_mod (total + size - 1) size
  have rest := Nat.mod_lt (total + size - 1) positive
  rw [pageCount, Nat.mul_comm]
  omega

theorem pageCount_le (total : Nat) {size : Nat} (positive : 0 < size) : pageCount total size <= total := by
  rw [pageCount]
  refine Nat.le_of_lt_succ (Nat.div_lt_of_lt_mul ?_)
  have grown := Nat.le_mul_of_pos_left total positive
  rw [Nat.mul_succ]
  omega

/-- The pages put together are the list. -/
theorem pages_whole (items : List A) {size : Nat} (positive : 0 < size) :
    (List.range (pageCount items.length size)).flatMap (page items size) = items := by
  rw [pages_take]
  exact List.take_of_length_le (total_le_pages positive)

end VapeCommerce.Lib.Paging
