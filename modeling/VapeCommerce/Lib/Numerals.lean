import Mathlib.Algebra.Order.Ring.Int
import Mathlib.Tactic.Common

set_option autoImplicit false

-- Reading a text as an IEEE 754 double, as ECMAScript's `Number` does once blanks are trimmed.
namespace VapeCommerce.Lib.Numerals

structure Fraction where
  numerator : Nat
  denominator : Nat
deriving DecidableEq, Repr

structure Double where
  significand : Nat
  exponent : Int
deriving DecidableEq, Repr

def scaled (digits base : Nat) (exponent : Int) : Fraction :=
  if 0 <= exponent then { numerator := digits * base ^ exponent.toNat, denominator := 1 }
  else { numerator := digits, denominator := base ^ (-exponent).toNat }

-- The quotient to the nearest integer, ties to even.
def halfEven (numerator denominator : Nat) : Nat :=
  let quotient := numerator / denominator
  let twice := 2 * (numerator % denominator)
  if twice < denominator || (twice == denominator && quotient % 2 == 0) then quotient else quotient + 1

-- The exponent of the last of the 53 bits; below 2^-1022 they run out.
def unitExponent (value : Fraction) : Int :=
  let guess : Int := (Nat.log2 value.numerator : Int) - (Nat.log2 value.denominator : Int)
  let reached :=
    if 0 <= guess then value.denominator * 2 ^ guess.toNat <= value.numerator
    else value.denominator <= value.numerator * 2 ^ (-guess).toNat
  max (if reached then guess else guess - 1) (-1022) - 52

-- `none` is an infinity.
def nearestDouble (value : Fraction) : Option Double :=
  let exponent := unitExponent value
  let significand :=
    if 0 <= exponent then halfEven value.numerator (value.denominator * 2 ^ exponent.toNat)
    else halfEven (value.numerator * 2 ^ (-exponent).toNat) value.denominator
  if 0 <= exponent && 2 ^ 1024 <= significand * 2 ^ exponent.toNat then none
  else some { significand, exponent }

def Double.natural? (value : Double) : Option Nat :=
  if 0 <= value.exponent then some (value.significand * 2 ^ value.exponent.toNat)
  else if value.significand % 2 ^ (-value.exponent).toNat = 0 then
    some (value.significand / 2 ^ (-value.exponent).toNat)
  else none

def digitValue (base : Nat) (char : Char) : Option Nat :=
  let value :=
    if '0' <= char && char <= '9' then char.toNat - '0'.toNat
    else if 'a' <= char && char <= 'f' then char.toNat - 'a'.toNat + 10
    else if 'A' <= char && char <= 'F' then char.toNat - 'A'.toNat + 10
    else base
  if value < base then some value else none

def positional (base : Nat) (digits : List Nat) : Nat :=
  digits.foldl (fun value digit => base * value + digit) 0

def digitsValue (base : Nat) (text : List Char) : Option Nat :=
  if text.isEmpty then none else (text.mapM (digitValue base)).map (positional base)

def isDecimal (char : Char) : Bool :=
  (digitValue 10 char).isSome

def signedDigits : List Char -> Option Int
  | '+' :: digits => (digitsValue 10 digits).map Int.ofNat
  | '-' :: digits => (digitsValue 10 digits).map fun value => -(value : Int)
  | digits => (digitsValue 10 digits).map Int.ofNat

def exponentPart : List Char -> Option Int
  | [] => some 0
  | 'e' :: rest => signedDigits rest
  | 'E' :: rest => signedDigits rest
  | _ => none

-- Digits, a fraction and an exponent; one of the first two has to be there.
def unsignedDecimal (text : List Char) : Option Fraction :=
  let whole := text.takeWhile isDecimal
  let rest := text.dropWhile isDecimal
  let point := rest.head? == some '.'
  let fraction := if point then rest.tail.takeWhile isDecimal else []
  let ending := if point then rest.tail.dropWhile isDecimal else rest
  (digitsValue 10 (whole ++ fraction)).bind fun digits =>
    (exponentPart ending).map fun exponent => scaled digits 10 (exponent - fraction.length)

inductive Reading where
  | positive (value : Double)
  | negative (value : Double)
deriving DecidableEq, Repr

-- `none` is not a number or an infinity.
def readNumber : List Char -> Option Reading
  | [] => some (.positive { significand := 0, exponent := 0 })
  | '0' :: 'x' :: digits => prefixed 16 digits
  | '0' :: 'X' :: digits => prefixed 16 digits
  | '0' :: 'o' :: digits => prefixed 8 digits
  | '0' :: 'O' :: digits => prefixed 8 digits
  | '0' :: 'b' :: digits => prefixed 2 digits
  | '0' :: 'B' :: digits => prefixed 2 digits
  | '+' :: text => ((unsignedDecimal text).bind nearestDouble).map .positive
  | '-' :: text => ((unsignedDecimal text).bind nearestDouble).map .negative
  | text => ((unsignedDecimal text).bind nearestDouble).map .positive
where
  prefixed (base : Nat) (digits : List Char) : Option Reading :=
    ((digitsValue base digits).bind fun value =>
      nearestDouble { numerator := value, denominator := 1 }).map .positive

-- An integer that is not negative; minus zero is one.
def Reading.natural? : Reading -> Option Nat
  | .positive value => value.natural?
  | .negative value => value.natural?.filter (· == 0)

def decimal (value : Nat) : List Char :=
  Nat.toDigits 10 value

theorem positional_from (base start : Nat) (digits : List Nat) :
    digits.foldl (fun value digit => base * value + digit) start =
      start * base ^ digits.length + positional base digits := by
  induction digits generalizing start with
  | nil => simp [positional]
  | cons digit digits ih =>
    have whole : positional base (digit :: digits) = _ := ih (base * 0 + digit)
    rw [List.foldl_cons, ih, whole, List.length_cons, Nat.pow_succ, Nat.mul_zero, Nat.zero_add,
      Nat.add_mul, Nat.mul_comm base start, Nat.mul_assoc, Nat.mul_comm base, Nat.add_assoc]

theorem positional_cons (base digit : Nat) (digits : List Nat) :
    positional base (digit :: digits) = digit * base ^ digits.length + positional base digits := by
  rw [positional, List.foldl_cons, positional_from, Nat.mul_zero, Nat.zero_add]

theorem positional_append (base : Nat) (digits : List Nat) (last : Nat) :
    positional base (digits ++ [last]) = base * positional base digits + last := by
  simp [positional]

theorem positional_lt {base : Nat} {digits : List Nat}
    (small : forall digit, digit ∈ digits -> digit < base) :
    positional base digits < base ^ digits.length := by
  induction digits with
  | nil => simp [positional]
  | cons digit digits ih =>
    have lead : (digit + 1) * base ^ digits.length <= base * base ^ digits.length :=
      Nat.mul_le_mul_right _ (small digit (List.mem_cons_self ..))
    have rest := ih fun each inside => small each (List.mem_cons_of_mem _ inside)
    rw [positional_cons, List.length_cons, Nat.pow_succ, Nat.mul_comm (base ^ _)]
    rw [Nat.succ_mul] at lead
    omega

theorem digitValue_lt {base : Nat} {char : Char} {value : Nat}
    (read : digitValue base char = some value) : value < base := by
  simp only [digitValue, Option.ite_none_right_eq_some, Option.some.injEq] at read
  omega

theorem decimal_isDigit {value : Nat} {char : Char} (member : char ∈ decimal value) :
    char.isDigit = true :=
  Nat.isDigit_of_mem_toDigits (by decide) (by decide) member

theorem decimal_injective : Function.Injective decimal := by
  intro value other same
  have read := congrArg (fun digits => Nat.ofDigitChars 10 digits 0) same
  simpa [decimal, Nat.ofDigitChars_toDigits] using read

example : (readNumber "24.0000000000000000001".toList).bind Reading.natural? = some 24 := by
  decide +kernel

example : (readNumber "1e-400".toList).bind Reading.natural? = some 0 := by
  decide +kernel

end VapeCommerce.Lib.Numerals
