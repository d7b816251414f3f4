import Mathlib.Data.List.Basic
import Mathlib.Tactic.Ring
import VapeCommerce.Lib.Json

set_option autoImplicit false

-- The text that `Number::toString` writes for a number, which says what it was written for.
namespace VapeCommerce.Lib.DecimalText

open PercentEncoding Numerals Json

-- The digits of the shortest decimal that reads as the number: they do not end in a zero.
structure Significand where
  value : Nat
  shortest : value % 10 ≠ 0
deriving DecidableEq

-- Zero has no sign; any other number is its significand times a power of ten.
inductive Number where
  | zero
  | decimal (negative : Bool) (significand : Significand) (exponent : Int)
deriving DecidableEq

def zeroDigit : UInt16 := 0x30
def point : UInt16 := 0x2e
def plus : UInt16 := 0x2b
def minus : UInt16 := 0x2d
def exponentMark : UInt16 := 0x65

def mantissa : Units -> Units
  | first :: second :: rest => first :: point :: second :: rest
  | alone => alone

def exponentText (exponent : Int) : Units :=
  exponentMark :: (if 0 <= exponent then plus else minus) :: digits exponent.natAbs

-- The magnitude is where the decimal point stands, counted from the first digit.
def layout (written : Units) (exponent : Int) : Units :=
  let magnitude := written.length + exponent
  if 0 <= exponent /\ magnitude <= 21 then written ++ List.replicate exponent.toNat zeroDigit
  else if 0 < magnitude /\ magnitude <= 21 then
    written.take magnitude.toNat ++ point :: written.drop magnitude.toNat
  else if -6 < magnitude /\ magnitude <= 0 then
    zeroDigit :: point :: (List.replicate (-magnitude).toNat zeroDigit ++ written)
  else mantissa written ++ exponentText (magnitude - 1)

def numberText : Number -> Units
  | .zero => [zeroDigit]
  | .decimal negative significand exponent =>
    (if negative then [minus] else []) ++ layout (digits significand.value) exponent

section Reading

def reading (text : Units) : Nat :=
  positional 10 (text.map fun unit => unit.toNat - 0x30)

def exponentOf : Units -> Int
  | mark :: sign :: rest =>
    if mark = exponentMark then (if sign = minus then -(reading rest : Int) else reading rest) else 0
  | _ => 0

-- A text without its sign as a whole number times a power of ten.
def readDecimal (text : Units) : Nat × Int :=
  match text.dropWhile isDigitUnit with
  | [] => (reading (text.takeWhile isDigitUnit), 0)
  | mark :: rest =>
    if mark = point then
      (reading (text.takeWhile isDigitUnit ++ rest.takeWhile isDigitUnit),
        exponentOf (rest.dropWhile isDigitUnit) - (rest.takeWhile isDigitUnit).length)
    else (reading (text.takeWhile isDigitUnit), exponentOf (mark :: rest))

theorem reading_digits (value : Nat) : reading (digits value) = value := by
  have read : forall (chars : List Char), (forall char, char ∈ chars -> char.isDigit = true) ->
      reading (chars.map fun char => UInt16.ofNat char.toNat) = Nat.ofDigitChars 10 chars 0 := by
    intro chars digit
    rw [reading, positional, List.map_map, List.foldl_map, Nat.ofDigitChars_eq_foldl]
    refine List.foldl_ext _ _ _ fun sofar char inside => ?_
    have bound := digit char inside
    simp only [Char.isDigit, Bool.and_eq_true, decide_eq_true_eq, UInt32.le_iff_toNat_le, ge_iff_le,
      Char.toNat_val] at bound
    have high : char.toNat <= 57 := bound.2
    have small : char.toNat % 65536 = char.toNat := Nat.mod_eq_of_lt (by omega)
    simp only [Function.comp_apply, UInt16.toNat_ofNat']
    rw [small]
    rfl
  rw [digits, read _ fun char inside => Nat.isDigit_of_mem_toDigits (by decide) (by decide) inside]
  exact Nat.ofDigitChars_toDigits (by decide) (by decide)

theorem reading_append (first second : Units) :
    reading (first ++ second) = reading first * 10 ^ second.length + reading second := by
  rw [reading, List.map_append, positional, List.foldl_append, positional_from, List.length_map]
  rfl

theorem reading_zeros (count : Nat) : reading (List.replicate count zeroDigit) = 0 := by
  induction count with
  | zero => rfl
  | succ count ih =>
    rw [List.replicate_succ, <- List.singleton_append, reading_append, ih]
    simp [reading, positional, zeroDigit]

theorem exponentOf_text (exponent : Int) : exponentOf (exponentText exponent) = exponent := by
  rw [exponentText, exponentOf, if_pos rfl, reading_digits]
  by_cases sign : 0 <= exponent
  next =>
    rw [if_pos sign, if_neg (by decide)]
    omega
  next =>
    rw [if_neg sign, if_pos rfl]
    omega

variable {front : Units}

theorem whole_text (digit : forall unit, unit ∈ front -> isDigitUnit unit = true) :
    front.takeWhile isDigitUnit = front /\ front.dropWhile isDigitUnit = [] :=
  ⟨List.takeWhile_eq_self_iff.2 digit, List.dropWhile_eq_nil_iff.2 digit⟩

theorem split_text (digit : forall unit, unit ∈ front -> isDigitUnit unit = true) {mark : UInt16}
    (stop : isDigitUnit mark = false) (rest : Units) :
    (front ++ mark :: rest).takeWhile isDigitUnit = front /\
      (front ++ mark :: rest).dropWhile isDigitUnit = mark :: rest := by
  rw [List.takeWhile_append_of_pos digit, List.dropWhile_append_of_pos digit]
  simp [stop]

theorem exponentText_split (exponent : Int) :
    exists rest, exponentText exponent = exponentMark :: rest :=
  ⟨_, rfl⟩

-- The four forms of a text, each read back.
theorem read_whole (digit : forall unit, unit ∈ front -> isDigitUnit unit = true) :
    readDecimal front = (reading front, 0) := by
  obtain ⟨taken, dropped⟩ := whole_text digit
  rw [readDecimal, dropped, taken]

theorem read_pointed {fraction : Units} (digit : forall unit, unit ∈ front -> isDigitUnit unit = true)
    (digits : forall unit, unit ∈ fraction -> isDigitUnit unit = true) :
    readDecimal (front ++ point :: fraction) = (reading (front ++ fraction), -(fraction.length : Int)) := by
  obtain ⟨taken, dropped⟩ := split_text digit (by decide : isDigitUnit point = false) fraction
  obtain ⟨fractionTaken, fractionDropped⟩ := whole_text digits
  rw [readDecimal, dropped, taken]
  simp only [if_true, fractionTaken, fractionDropped, exponentOf, Int.zero_sub]

theorem read_scaled (digit : forall unit, unit ∈ front -> isDigitUnit unit = true) (exponent : Int) :
    readDecimal (front ++ exponentText exponent) = (reading front, exponent) := by
  have read := exponentOf_text exponent
  obtain ⟨rest, written⟩ := exponentText_split exponent
  rw [written] at read ⊢
  obtain ⟨taken, dropped⟩ := split_text digit (by decide : isDigitUnit exponentMark = false) rest
  rw [readDecimal, dropped, taken]
  simp only [if_neg (by decide : Not (exponentMark = point)), read]

theorem read_pointed_scaled {fraction : Units}
    (digit : forall unit, unit ∈ front -> isDigitUnit unit = true)
    (digits : forall unit, unit ∈ fraction -> isDigitUnit unit = true) (exponent : Int) :
    readDecimal (front ++ point :: (fraction ++ exponentText exponent)) =
      (reading (front ++ fraction), exponent - fraction.length) := by
  have read := exponentOf_text exponent
  obtain ⟨rest, written⟩ := exponentText_split exponent
  rw [written] at read ⊢
  obtain ⟨taken, dropped⟩ := split_text digit (by decide : isDigitUnit point = false)
    (fraction ++ exponentMark :: rest)
  obtain ⟨fractionTaken, fractionDropped⟩ := split_text digits
    (by decide : isDigitUnit exponentMark = false) rest
  rw [readDecimal, dropped, taken]
  simp only [if_true, fractionTaken, fractionDropped, read]

/-- A text says which digits stand before which power of ten, up to zeros at the end of the digits. -/
theorem readDecimal_layout {written : Units} (digit : forall unit, unit ∈ written -> isDigitUnit unit = true)
    (nonempty : written ≠ []) (exponent : Int) :
    exists zeros : Nat,
      readDecimal (layout written exponent) = (reading written * 10 ^ zeros, exponent - zeros) := by
  have zero : forall count, forall unit, unit ∈ List.replicate count zeroDigit -> isDigitUnit unit = true := by
    intro count unit member
    rw [List.eq_of_mem_replicate member]
    decide
  simp only [layout]
  split
  next whole =>
    refine ⟨exponent.toNat, ?_⟩
    rw [read_whole (List.forall_mem_append.2 ⟨digit, zero _⟩), reading_append, reading_zeros,
      List.length_replicate, Nat.add_zero]
    exact congrArg (Prod.mk _) (by omega)
  next =>
    split
    next inside =>
      refine ⟨0, ?_⟩
      rw [read_pointed (fun unit member => digit unit (List.mem_of_mem_take member))
        (fun unit member => digit unit (List.mem_of_mem_drop member)), List.take_append_drop, Nat.pow_zero,
        Nat.mul_one, List.length_drop]
      exact congrArg (Prod.mk _) (by omega)
    next =>
      split
      next small =>
        refine ⟨0, ?_⟩
        have lead : forall unit, unit ∈ [zeroDigit] -> isDigitUnit unit = true := zero 1
        rw [<- List.singleton_append, read_pointed lead (List.forall_mem_append.2 ⟨zero _, digit⟩),
          reading_append, reading_append, reading_zeros, Nat.pow_zero, Nat.mul_one, List.length_append,
          List.length_replicate]
        have none : reading [zeroDigit] = 0 := reading_zeros 1
        rw [none, Nat.zero_mul, Nat.zero_mul, Nat.zero_add, Nat.zero_add]
        exact congrArg (Prod.mk _) (by push_cast; omega)
      next =>
        refine ⟨0, ?_⟩
        rw [Nat.pow_zero, Nat.mul_one]
        cases written with
        | nil => exact absurd rfl nonempty
        | cons first rest =>
          cases rest with
          | nil =>
            rw [mantissa, read_scaled digit]
            · exact congrArg (Prod.mk _) (by simp)
            · simp
          | cons second rest =>
            have lead : forall unit, unit ∈ [first] -> isDigitUnit unit = true := by
              intro unit member
              exact digit unit (by simp [List.mem_singleton.1 member])
            have later : forall unit, unit ∈ second :: rest -> isDigitUnit unit = true :=
              fun unit member => digit unit (List.mem_cons_of_mem _ member)
            have read := read_pointed_scaled lead later
              (((first :: second :: rest).length : Int) + exponent - 1)
            simp only [mantissa, List.cons_append, List.nil_append] at read ⊢
            rw [read]
            exact congrArg (Prod.mk _) (by simp only [List.length_cons]; push_cast; omega)

end Reading

section Injectivity

theorem shift_unique {left right : Significand} {first second : Nat} (order : first <= second)
    (same : left.value * 10 ^ first = right.value * 10 ^ second) : left = right /\ first = second := by
  obtain ⟨more, rfl⟩ := Nat.exists_eq_add_of_le order
  have split : left.value * 10 ^ first = right.value * 10 ^ more * 10 ^ first := by
    rw [same]
    ring
  have values := Nat.eq_of_mul_eq_mul_right (Nat.pow_pos (by decide)) split
  cases more with
  | zero =>
    rw [Nat.pow_zero, Nat.mul_one] at values
    cases left
    cases right
    cases values
    exact ⟨rfl, rfl⟩
  | succ more =>
    have ends : left.value % 10 = 0 := by
      rw [values, Nat.pow_succ, <- Nat.mul_assoc]
      exact Nat.mul_mod_left _ _
    exact absurd ends left.shortest

theorem same_significand {left right : Significand} {first second : Nat}
    (same : left.value * 10 ^ first = right.value * 10 ^ second) : left = right /\ first = second := by
  rcases Nat.le_total first second with order | order
  next => exact shift_unique order same
  next =>
    obtain ⟨values, shifts⟩ := shift_unique order same.symm
    exact ⟨values.symm, shifts.symm⟩

theorem significand_digits (significand : Significand) :
    (forall unit, unit ∈ digits significand.value -> isDigitUnit unit = true) /\
      digits significand.value ≠ [] :=
  ⟨fun _ => digits_unit, fun none => Nat.toDigits_ne_nil (List.map_eq_nil_iff.1 none)⟩

theorem layout_injective {left right : Significand} {exponent scale : Int}
    (same : layout (digits left.value) exponent = layout (digits right.value) scale) :
    left = right /\ exponent = scale := by
  obtain ⟨zeros, read⟩ := readDecimal_layout (significand_digits left).1 (significand_digits left).2 exponent
  obtain ⟨others, said⟩ := readDecimal_layout (significand_digits right).1 (significand_digits right).2 scale
  rw [same, said, reading_digits, reading_digits, Prod.mk.injEq] at read
  obtain ⟨rfl, rfl⟩ := same_significand read.1.symm
  exact ⟨rfl, by omega⟩

-- What may stand in the text of a number.
def isNumberUnit (unit : UInt16) : Bool :=
  isDigitUnit unit || unit == point || unit == plus || unit == minus || unit == exponentMark

theorem digit_number {unit : UInt16} (digit : isDigitUnit unit = true) : isNumberUnit unit = true := by
  simp [isNumberUnit, digit]

theorem exponentText_units (exponent : Int) :
    forall unit, unit ∈ exponentText exponent -> isNumberUnit unit = true := by
  intro unit member
  rcases List.mem_cons.1 member with rfl | member
  next => decide
  next =>
    rcases List.mem_cons.1 member with rfl | member
    next => split <;> decide
    next => exact digit_number (digits_unit member)

theorem layout_units {written : Units} (digit : forall unit, unit ∈ written -> isDigitUnit unit = true)
    (exponent : Int) : forall unit, unit ∈ layout written exponent -> isNumberUnit unit = true := by
  have number : forall unit, unit ∈ written -> isNumberUnit unit = true :=
    fun unit member => digit_number (digit unit member)
  have zeros : forall count, forall unit, unit ∈ List.replicate count zeroDigit -> isNumberUnit unit = true := by
    intro count unit member
    rw [List.eq_of_mem_replicate member]
    decide
  have mark : isNumberUnit point = true := by decide
  have zero : isNumberUnit zeroDigit = true := by decide
  simp only [layout]
  split
  next => exact List.forall_mem_append.2 ⟨number, zeros _⟩
  next =>
    split
    next =>
      exact List.forall_mem_append.2 ⟨fun unit member => number unit (List.mem_of_mem_take member),
        List.forall_mem_cons.2 ⟨mark, fun unit member => number unit (List.mem_of_mem_drop member)⟩⟩
    next =>
      split
      next =>
        exact List.forall_mem_cons.2 ⟨zero, List.forall_mem_cons.2 ⟨mark,
          List.forall_mem_append.2 ⟨zeros _, number⟩⟩⟩
      next =>
        refine List.forall_mem_append.2 ⟨?_, exponentText_units _⟩
        unfold mantissa
        split
        next =>
          rw [List.forall_mem_cons] at number
          exact List.forall_mem_cons.2 ⟨number.1, List.forall_mem_cons.2 ⟨mark, number.2⟩⟩
        next => exact number

theorem layout_head {written : Units} (digit : forall unit, unit ∈ written -> isDigitUnit unit = true)
    (nonempty : written ≠ []) (exponent : Int) :
    exists first rest, layout written exponent = first :: rest /\ isDigitUnit first = true := by
  obtain ⟨first, rest, rfl⟩ := List.exists_cons_of_ne_nil nonempty
  have lead := digit first (List.mem_cons_self ..)
  simp only [layout]
  split
  next => exact ⟨first, _, rfl, lead⟩
  next =>
    split
    next inside =>
      obtain ⟨places, counted⟩ : exists places, (((first :: rest).length : Int) + exponent).toNat = places + 1 :=
        Nat.exists_eq_succ_of_ne_zero (by omega)
      rw [counted]
      exact ⟨first, _, rfl, lead⟩
    next =>
      split
      next => exact ⟨zeroDigit, _, rfl, by decide⟩
      next =>
        cases rest with
        | nil => exact ⟨first, _, rfl, lead⟩
        | cons second rest => exact ⟨first, _, rfl, lead⟩

theorem numberText_units (number : Number) :
    forall unit, unit ∈ numberText number -> isNumberUnit unit = true := by
  cases number with
  | zero =>
    intro unit member
    rw [List.mem_singleton.1 member]
    decide
  | decimal negative significand exponent =>
    have body := layout_units (significand_digits significand).1 exponent
    cases negative with
    | false => exact body
    | true => exact List.forall_mem_cons.2 ⟨by decide, body⟩

-- The first unit shows the sign.
theorem numberText_head (number : Number) :
    exists first rest, numberText number = first :: rest /\ (isDigitUnit first = true \/ first = minus) := by
  cases number with
  | zero => exact ⟨zeroDigit, [], rfl, .inl (by decide)⟩
  | decimal negative significand exponent =>
    obtain ⟨nonempty, digit⟩ := significand_digits significand
    cases negative with
    | false =>
      obtain ⟨first, rest, written, lead⟩ := layout_head nonempty digit exponent
      exact ⟨first, rest, written, .inl lead⟩
    | true => exact ⟨minus, _, rfl, .inr rfl⟩

theorem layout_not_zero {significand : Significand} {exponent : Int} :
    layout (digits significand.value) exponent ≠ [zeroDigit] := by
  intro same
  obtain ⟨zeros, read⟩ :=
    readDecimal_layout (significand_digits significand).1 (significand_digits significand).2 exponent
  have zero : readDecimal [zeroDigit] = (0, 0) := by decide
  rw [same, zero, reading_digits, Prod.mk.injEq] at read
  have positive : 0 < 10 ^ zeros := Nat.pow_pos (by decide)
  have absent := (Nat.mul_eq_zero.1 read.1.symm).resolve_right (by omega)
  exact significand.shortest (by omega)

theorem layout_unsigned {significand : Significand} {exponent : Int} {rest : Units} :
    layout (digits significand.value) exponent ≠ minus :: rest := by
  intro same
  obtain ⟨first, _, written, lead⟩ :=
    layout_head (significand_digits significand).1 (significand_digits significand).2 exponent
  rw [written, List.cons.injEq] at same
  rw [same.1] at lead
  exact absurd lead (by decide)

theorem numberText_injective {left right : Number} (same : numberText left = numberText right) :
    left = right := by
  cases left with
  | zero =>
    cases right with
    | zero => rfl
    | decimal negative significand exponent =>
      cases negative with
      | false => exact absurd same.symm layout_not_zero
      | true => exact absurd (congrArg List.head? same) (by simp [numberText]; decide)
  | decimal negative significand exponent =>
    cases right with
    | zero =>
      cases negative with
      | false => exact absurd same layout_not_zero
      | true => exact absurd (congrArg List.head? same) (by simp [numberText]; decide)
    | decimal sign other scale =>
      cases negative with
      | false =>
        cases sign with
        | false =>
          obtain ⟨rfl, rfl⟩ := layout_injective same
          rfl
        | true => exact absurd same layout_unsigned
      | true =>
        cases sign with
        | false => exact absurd same.symm layout_unsigned
        | true =>
          obtain ⟨rfl, rfl⟩ := layout_injective (List.cons.inj same).2
          rfl

-- What may follow a number.
def Ends (text : Units) : Prop :=
  forall unit, text.head? = some unit -> isNumberUnit unit = false

/-- A number is read back with what follows it, whatever the number. -/
theorem numberText_unambiguous {left right : Number} {after rest : Units} (ends : Ends after)
    (stops : Ends rest) (same : numberText left ++ after = numberText right ++ rest) :
    left = right /\ after = rest := by
  have taken : forall (number : Number) (text : Units), Ends text ->
      (numberText number ++ text).takeWhile isNumberUnit = numberText number := by
    intro number text following
    rw [List.takeWhile_append_of_pos (numberText_units number)]
    cases text with
    | nil => simp
    | cons unit others => simp [following unit rfl]
  have equal : numberText left = numberText right := by
    rw [<- taken left after ends, same, taken right rest stops]
  obtain rfl := numberText_injective equal
  exact ⟨rfl, List.append_cancel_left same⟩

end Injectivity

end VapeCommerce.Lib.DecimalText
