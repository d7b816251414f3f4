import Mathlib.Data.Bool.AllAny
import Mathlib.Data.List.TakeWhile
import VapeCommerce.Lib.Numerals

set_option autoImplicit false

-- Strings of UTF-16 code units, and their percent-encoded UTF-8 form in a link.
namespace VapeCommerce.Lib.PercentEncoding

open Numerals

abbrev Units := List UInt16

def isHighSurrogate (unit : UInt16) : Bool :=
  0xd800 <= unit.toNat && unit.toNat <= 0xdbff

def isLowSurrogate (unit : UInt16) : Bool :=
  0xdc00 <= unit.toNat && unit.toNat <= 0xdfff

def surrogatePair (high low : UInt16) : Char :=
  Char.ofNat (0x10000 + (high.toNat - 0xd800) * 0x400 + (low.toNat - 0xdc00))

-- The code points of a string; a surrogate without its partner has none.
def codePoints : Units -> Option (List Char)
  | [] => some []
  | [unit] =>
    if isHighSurrogate unit || isLowSurrogate unit then none else some [Char.ofNat unit.toNat]
  | first :: second :: rest =>
    if isHighSurrogate first then
      if isLowSurrogate second then (codePoints rest).map (surrogatePair first second :: ·) else none
    else if isLowSurrogate first then none
    else (codePoints (second :: rest)).map (Char.ofNat first.toNat :: ·)

def unitsOf (char : Char) : Units :=
  if char.toNat < 0x10000 then [UInt16.ofNat char.toNat]
  else
    [UInt16.ofNat (0xd800 + (char.toNat - 0x10000) / 0x400),
      UInt16.ofNat (0xdc00 + (char.toNat - 0x10000) % 0x400)]

def units (text : List Char) : Units :=
  text.flatMap unitsOf

def hexDigit (value : Nat) : Char :=
  "0123456789ABCDEF".toList.getD value '0'

def percent (byte : UInt8) : List Char :=
  ['%', hexDigit (byte.toNat / 16), hexDigit (byte.toNat % 16)]

def unreserved (char : Char) : Bool :=
  char.isAlphanum || "-_.!~*'()".toList.contains char

def escape (char : Char) : List Char :=
  if unreserved char then [char] else (String.utf8EncodeChar char).flatMap percent

-- `none` is the error of a lone surrogate.
def encodeURIComponent (text : Units) : Option (List Char) :=
  (codePoints text).map fun chars => chars.flatMap escape

-- Reading an escaped component back: bytes, then UTF-8.
def bytes : List Char -> Option (List UInt8)
  | [] => some []
  | '%' :: high :: low :: rest =>
    match digitValue 16 high, digitValue 16 low with
    | some first, some second => (bytes rest).map (UInt8.ofNat (16 * first + second) :: ·)
    | _, _ => none
  | char :: rest => if char.toNat < 128 then (bytes rest).map (UInt8.ofNat char.toNat :: ·) else none

def decodeBytes (encoded : List UInt8) : Option Units :=
  encoded.toByteArray.utf8Decode?.map fun chars => units chars.toList

def decodeComponent (component : List Char) : Option Units :=
  (bytes (component.map fun char => if char = '+' then ' ' else char)).bind decodeBytes

-- The first parameter of a name in the query of a link.
def searchParameter (name url : List Char) : Option Units :=
  let query := ((url.dropWhile (· != '?')).drop 1).takeWhile (· != '#')
  let named := (query.splitOn '&').find? fun pair => pair.takeWhile (· != '=') == name
  named.bind fun pair => decodeComponent ((pair.dropWhile (· != '=')).drop 1)

section CodePoints

theorem toNat_ofNat {value : Nat} (scalar : value.isValidChar) : (Char.ofNat value).toNat = value := by
  rw [Char.ofNat, dif_pos scalar]
  rfl

theorem unitsOf_single {unit : UInt16} (high : isHighSurrogate unit = false)
    (low : isLowSurrogate unit = false) : unitsOf (Char.ofNat unit.toNat) = [unit] := by
  have bound : unit.toNat < 65536 := unit.toNat_lt
  simp only [isHighSurrogate, isLowSurrogate, Bool.and_eq_false_iff, decide_eq_false_iff_not] at high low
  have scalar : unit.toNat.isValidChar := by
    unfold Nat.isValidChar
    omega
  rw [unitsOf, toNat_ofNat scalar, if_pos (by omega), UInt16.ofNat_toNat]

theorem unitsOf_pair {high low : UInt16} (first : isHighSurrogate high = true)
    (second : isLowSurrogate low = true) : unitsOf (surrogatePair high low) = [high, low] := by
  simp only [isHighSurrogate, isLowSurrogate, Bool.and_eq_true, decide_eq_true_eq] at first second
  have scalar : (0x10000 + (high.toNat - 0xd800) * 0x400 + (low.toNat - 0xdc00)).isValidChar := by
    unfold Nat.isValidChar
    omega
  have leading : 0xd800 + (0x10000 + (high.toNat - 0xd800) * 0x400 + (low.toNat - 0xdc00) - 0x10000) / 0x400 =
      high.toNat := by
    omega
  have trailing : 0xdc00 + (0x10000 + (high.toNat - 0xd800) * 0x400 + (low.toNat - 0xdc00) - 0x10000) % 0x400 =
      low.toNat := by
    omega
  rw [unitsOf, surrogatePair, toNat_ofNat scalar, if_neg (by omega), leading, trailing,
    UInt16.ofNat_toNat, UInt16.ofNat_toNat]

theorem units_codePoints {text : Units} {chars : List Char} (read : codePoints text = some chars) :
    units chars = text := by
  induction text using codePoints.induct generalizing chars with
  | case1 => simp_all [codePoints, units]
  | case2 unit alone => simp_all [codePoints]
  | case3 unit scalar =>
    simp only [codePoints, scalar, Bool.false_eq_true, if_false, Option.some.injEq] at read
    subst read
    simp only [Bool.or_eq_true, not_or, Bool.not_eq_true] at scalar
    simp [units, unitsOf_single scalar.1 scalar.2]
  | case4 first second rest high low ih =>
    simp only [codePoints, high, low, if_true, Option.map_eq_some_iff] at read
    obtain ⟨others, tail, rfl⟩ := read
    have same := ih tail
    unfold units at same
    rw [units, List.flatMap_cons, unitsOf_pair high low, same]
    rfl
  | case5 first second rest high low => simp [codePoints, high, low] at read
  | case6 first second rest high low => simp [codePoints, high, low] at read
  | case7 first second rest high low ih =>
    simp only [codePoints, high, low, Bool.false_eq_true, if_false, Option.map_eq_some_iff] at read
    obtain ⟨others, tail, rfl⟩ := read
    have same := ih tail
    unfold units at same
    rw [units, List.flatMap_cons, unitsOf_single (by simpa using high) (by simpa using low), same]
    rfl

theorem codePoints_scalar {unit : UInt16} (high : isHighSurrogate unit = false)
    (low : isLowSurrogate unit = false) (rest : Units) :
    codePoints (unit :: rest) = (codePoints rest).map (Char.ofNat unit.toNat :: ·) := by
  cases rest with
  | nil => simp [codePoints, high, low]
  | cons second others => simp [codePoints, high, low]

theorem codePoints_units (text : List Char) : codePoints (units text) = some text := by
  induction text with
  | nil => rfl
  | cons char rest ih =>
    have scalar : char.toNat.isValidChar := char.valid
    unfold Nat.isValidChar at scalar
    unfold units at ih
    rw [units, List.flatMap_cons, unitsOf]
    split
    next small =>
      have read : (UInt16.ofNat char.toNat).toNat = char.toNat := by
        rw [UInt16.toNat_ofNat', Nat.mod_eq_of_lt (by omega)]
      have high : isHighSurrogate (UInt16.ofNat char.toNat) = false := by
        simp only [isHighSurrogate, read, Bool.and_eq_false_iff, decide_eq_false_iff_not]
        omega
      have low : isLowSurrogate (UInt16.ofNat char.toNat) = false := by
        simp only [isLowSurrogate, read, Bool.and_eq_false_iff, decide_eq_false_iff_not]
        omega
      rw [List.singleton_append, codePoints_scalar high low, ih, read, Char.ofNat_toNat]
      rfl
    next large =>
      have leading : (UInt16.ofNat (0xd800 + (char.toNat - 0x10000) / 0x400)).toNat =
          0xd800 + (char.toNat - 0x10000) / 0x400 := by
        rw [UInt16.toNat_ofNat', Nat.mod_eq_of_lt (by omega)]
      have trailing : (UInt16.ofNat (0xdc00 + (char.toNat - 0x10000) % 0x400)).toNat =
          0xdc00 + (char.toNat - 0x10000) % 0x400 := by
        rw [UInt16.toNat_ofNat', Nat.mod_eq_of_lt (by omega)]
      have high : isHighSurrogate (UInt16.ofNat (0xd800 + (char.toNat - 0x10000) / 0x400)) = true := by
        simp only [isHighSurrogate, leading, Bool.and_eq_true, decide_eq_true_eq]
        omega
      have low : isLowSurrogate (UInt16.ofNat (0xdc00 + (char.toNat - 0x10000) % 0x400)) = true := by
        simp only [isLowSurrogate, trailing, Bool.and_eq_true, decide_eq_true_eq]
        omega
      have whole : 0x10000 + (0xd800 + (char.toNat - 0x10000) / 0x400 - 0xd800) * 0x400 +
          (0xdc00 + (char.toNat - 0x10000) % 0x400 - 0xdc00) = char.toNat := by
        omega
      rw [List.cons_append, List.singleton_append, codePoints, if_pos high, if_pos low, ih, surrogatePair,
        leading, trailing, whole, Char.ofNat_toNat]
      rfl

theorem units_injective : Function.Injective units := by
  intro text other same
  have read := codePoints_units text
  rw [same, codePoints_units, Option.some.injEq] at read
  exact read.symm

end CodePoints

section Escapes

-- What an escaped component is written with.
def componentCharacter (char : Char) : Bool :=
  unreserved char || char == '%'

theorem hexDigit_read : forall value : Fin 16,
    digitValue 16 (hexDigit value) = some value.val /\ unreserved (hexDigit value) = true := by
  decide

theorem unreserved_plain {char : Char} (plain : unreserved char = true) :
    char.toNat < 128 /\ char ≠ '%' /\ char ≠ '+' /\ char ≠ '&' /\ char ≠ '#' := by
  have table : forall code : Fin 128, unreserved (Char.ofNat code) = true ->
      Char.ofNat code ≠ '%' /\ Char.ofNat code ≠ '+' /\ Char.ofNat code ≠ '&' /\ Char.ofNat code ≠ '#' := by
    decide +kernel
  have small : char.toNat < 128 := by
    have letters : char.isAlpha = (decide (char.val >= 'A'.val /\ char.val <= 'Z'.val) ||
        char.val >= 'a'.val && char.val <= 'z'.val) := rfl
    simp only [unreserved, Char.isAlphanum, letters, Char.isDigit,
      Bool.or_eq_true, Bool.and_eq_true, decide_eq_true_eq, List.contains_eq_mem] at plain
    rcases plain with ((upper | lower) | digit) | mark
    next =>
      have bound := UInt32.le_iff_toNat_le.1 upper.2
      simp only [Char.toNat_val] at bound
      exact Nat.lt_of_le_of_lt bound (by decide)
    next =>
      have bound := UInt32.le_iff_toNat_le.1 lower.2
      simp only [Char.toNat_val] at bound
      exact Nat.lt_of_le_of_lt bound (by decide)
    next =>
      have bound := UInt32.le_iff_toNat_le.1 digit.2
      simp only [Char.toNat_val] at bound
      exact Nat.lt_of_le_of_lt bound (by decide)
    next =>
      have each : forall mark, mark ∈ "-_.!~*'()".toList -> mark.toNat < 128 :=
        List.all_iff_forall_prop.1 (by decide)
      exact each char mark
  have row := table ⟨char.toNat, small⟩
  simp only [Char.ofNat_toNat] at row
  exact ⟨small, row plain⟩

theorem component_apart {char : Char} (inside : componentCharacter char = true) :
    char ≠ '+' /\ char ≠ '&' /\ char ≠ '#' := by
  simp only [componentCharacter, Bool.or_eq_true, beq_iff_eq] at inside
  cases inside with
  | inl plain => exact (unreserved_plain plain).2.2
  | inr sign => rw [sign]; decide

theorem percent_component (byte : UInt8) {char : Char} (member : char ∈ percent byte) :
    componentCharacter char = true := by
  have bound : byte.toNat < 256 := byte.toNat_lt
  have high := (hexDigit_read ⟨byte.toNat / 16, by omega⟩).2
  have low := (hexDigit_read ⟨byte.toNat % 16, by omega⟩).2
  simp only [percent, List.mem_cons, List.not_mem_nil, or_false] at member
  rcases member with rfl | rfl | rfl
  next => decide
  next => simp only [componentCharacter, high, Bool.true_or]
  next => simp only [componentCharacter, low, Bool.true_or]

theorem encoded_component {text : Units} {component : List Char}
    (encoded : encodeURIComponent text = some component) {char : Char} (member : char ∈ component) :
    componentCharacter char = true := by
  obtain ⟨chars, -, rfl⟩ := Option.map_eq_some_iff.1 encoded
  obtain ⟨source, -, inside⟩ := List.mem_flatMap.1 member
  unfold escape at inside
  split at inside
  next plain =>
    rw [List.mem_singleton.1 inside, componentCharacter, plain]
    rfl
  next =>
    obtain ⟨byte, -, within⟩ := List.mem_flatMap.1 inside
    exact percent_component byte within

theorem bytes_percent (byte : UInt8) (rest : List Char) :
    bytes (percent byte ++ rest) = (bytes rest).map (byte :: ·) := by
  have bound : byte.toNat < 256 := byte.toNat_lt
  have high := (hexDigit_read ⟨byte.toNat / 16, by omega⟩).1
  have low := (hexDigit_read ⟨byte.toNat % 16, by omega⟩).1
  have whole : 16 * (byte.toNat / 16) + byte.toNat % 16 = byte.toNat := Nat.div_add_mod _ _
  simp only [percent, List.cons_append, List.nil_append, bytes]
  rw [high, low]
  simp only [whole, UInt8.ofNat_toNat]

theorem bytes_escape (char : Char) (rest : List Char) :
    bytes (escape char ++ rest) = (bytes rest).map (String.utf8EncodeChar char ++ ·) := by
  unfold escape
  split
  next plain =>
    obtain ⟨small, sign, -⟩ := unreserved_plain plain
    have one : char.utf8Size = 1 := by
      rw [Char.utf8Size_eq_one_iff, UInt32.le_iff_toNat_le, Char.toNat_val]
      exact Nat.le_of_lt_succ small
    have byte : char.val.toUInt8 = UInt8.ofNat char.toNat := by
      rw [<- Char.toNat_val, UInt8.ofNat_uInt32ToNat]
    rw [String.utf8EncodeChar_eq_singleton one, byte, List.singleton_append, bytes.eq_3 _ _ (by grind),
      if_pos small]
    rfl
  next =>
    generalize String.utf8EncodeChar char = encoded
    induction encoded with
    | nil => simp
    | cons byte others ih =>
      rw [List.flatMap_cons, List.append_assoc, bytes_percent, ih, Option.map_map]
      rfl

theorem bytes_escaped (chars : List Char) :
    bytes (chars.flatMap escape) = some (chars.flatMap String.utf8EncodeChar) := by
  induction chars with
  | nil => rfl
  | cons char rest ih => rw [List.flatMap_cons, bytes_escape, ih]; rfl

theorem decoded_component {text : Units} {component : List Char}
    (encoded : encodeURIComponent text = some component) : decodeComponent component = some text := by
  have spaces : component.map (fun char => if char = '+' then ' ' else char) = component := by
    refine (List.map_congr_left fun char member => ?_).trans (List.map_id component)
    exact if_neg (component_apart (encoded_component encoded member)).1
  obtain ⟨chars, read, rfl⟩ := Option.map_eq_some_iff.1 encoded
  rw [decodeComponent, spaces, bytes_escaped, Option.bind_some, decodeBytes, <- List.utf8Encode,
    List.utf8Decode?_utf8Encode]
  simp [units_codePoints read]

end Escapes

/-- The parameter of a link is the text that was encoded into it. -/
theorem parameter_of_link (base : List Char) {name : List Char} {text : Units} {component : List Char}
    (encoded : encodeURIComponent text = some component)
    (base_plain : Not ('?' ∈ base))
    (name_plain : forall char, char ∈ name -> char ≠ '=' /\ char ≠ '&' /\ char ≠ '#') :
    searchParameter name (base ++ '?' :: (name ++ '=' :: component)) = some text := by
  have query : ((base ++ '?' :: (name ++ '=' :: component)).dropWhile (· != '?')).drop 1 =
      name ++ '=' :: component := by
    rw [List.dropWhile_append_of_pos (by grind)]
    simp
  have apart : forall char, char ∈ name ++ '=' :: component -> char ≠ '&' /\ char ≠ '#' := by
    intro char member
    rcases List.mem_append.1 member with here | there
    next => exact (name_plain char here).2
    next =>
      cases List.mem_cons.1 there with
      | inl equals => rw [equals]; decide
      | inr inside => exact (component_apart (encoded_component encoded inside)).2
  have whole : (name ++ '=' :: component).takeWhile (· != '#') = name ++ '=' :: component :=
    List.takeWhile_eq_self_iff.2 (by grind)
  have single : (name ++ '=' :: component).splitOn '&' = [name ++ '=' :: component] :=
    List.splitOn_eq_singleton (by grind)
  have before : (name ++ '=' :: component).takeWhile (· != '=') = name := by
    rw [List.takeWhile_append_of_pos (by grind)]
    simp
  have after : (name ++ '=' :: component).dropWhile (· != '=') = '=' :: component := by
    rw [List.dropWhile_append_of_pos (by grind)]
    simp
  unfold searchParameter
  dsimp only
  rw [query, whole, single]
  simp only [List.find?_cons, before, beq_self_eq_true, Option.bind_some, after, List.drop_succ_cons,
    List.drop_zero]
  exact decoded_component encoded

end VapeCommerce.Lib.PercentEncoding
