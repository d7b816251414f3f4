import VapeCommerce.Lib.CanonicalJson

set_option autoImplicit false

-- The UTF-8 bytes of a string, and of a canonical text, which has no lone surrogate.
namespace VapeCommerce.Lib.Utf8

open PercentEncoding DecimalText CanonicalJson
open Json (isSurrogate quote quoteRest quotationMark comma colon backslash hexUnit unicodeEscape escapeUnit
  shortEscapes isDigitUnit)

def replacementCharacter : Char := Char.ofNat 0xfffd

-- A surrogate without its partner is replaced.
def scalars : Units -> List Char
  | [] => []
  | [unit] => [if isSurrogate unit then replacementCharacter else Char.ofNat unit.toNat]
  | first :: second :: rest =>
    if isHighSurrogate first && isLowSurrogate second then surrogatePair first second :: scalars rest
    else
      (if isSurrogate first then replacementCharacter else Char.ofNat first.toNat) :: scalars (second :: rest)

def utf8 (text : Units) : List UInt8 :=
  (scalars text).flatMap String.utf8EncodeChar

def Paired (text : Units) : Prop :=
  exists chars, text = units chars

theorem scalars_units (chars : List Char) : scalars (units chars) = chars := by
  have read : forall text : Units, forall chars, codePoints text = some chars -> scalars text = chars := by
    intro text
    induction text using codePoints.induct with
    | case1 => simp [codePoints, scalars]
    | case2 unit alone => simp [codePoints, alone]
    | case3 unit plain => simp [codePoints, scalars, isSurrogate, plain]
    | case4 first second rest high low ih =>
      intro chars found
      simp only [codePoints, high, low, if_true, Option.map_eq_some_iff] at found
      obtain ⟨others, tail, rfl⟩ := found
      simp [scalars, high, low, ih others tail]
    | case5 first second rest high low => simp [codePoints, high, low]
    | case6 first second rest high low => simp [codePoints, high, low]
    | case7 first second rest high low ih =>
      intro chars found
      simp only [codePoints, high, low, Bool.false_eq_true, if_false, Option.map_eq_some_iff] at found
      obtain ⟨others, tail, rfl⟩ := found
      simp [scalars, isSurrogate, high, low, ih others tail]
  exact read _ chars (codePoints_units chars)

theorem utf8_injective {left right : Units} (paired : Paired left) (also : Paired right)
    (same : utf8 left = utf8 right) : left = right := by
  obtain ⟨chars, rfl⟩ := paired
  obtain ⟨others, rfl⟩ := also
  rw [utf8, utf8, scalars_units, scalars_units] at same
  have encoded : chars.utf8Encode = others.utf8Encode := by
    rw [List.utf8Encode, List.utf8Encode, same]
  have read := congrArg ByteArray.utf8Decode? encoded
  rw [List.utf8Decode?_utf8Encode, List.utf8Decode?_utf8Encode, Option.some.injEq] at read
  rw [List.toArray_inj read]

theorem Paired.nil : Paired [] :=
  ⟨[], rfl⟩

theorem Paired.append {left right : Units} (paired : Paired left) (also : Paired right) :
    Paired (left ++ right) := by
  obtain ⟨chars, rfl⟩ := paired
  obtain ⟨others, rfl⟩ := also
  exact ⟨chars ++ others, by simp [units]⟩

theorem Paired.single {unit : UInt16} (plain : isSurrogate unit = false) : Paired [unit] := by
  rw [isSurrogate, Bool.or_eq_false_iff] at plain
  exact ⟨[Char.ofNat unit.toNat], by simp [units, unitsOf_single plain.1 plain.2]⟩

theorem Paired.cons {unit : UInt16} {text : Units} (plain : isSurrogate unit = false) (paired : Paired text) :
    Paired (unit :: text) :=
  (Paired.single plain).append paired

theorem Paired.plain {text : Units} (plain : forall unit, unit ∈ text -> isSurrogate unit = false) :
    Paired text := by
  induction text with
  | nil => exact .nil
  | cons unit rest ih =>
    rw [List.forall_mem_cons] at plain
    exact .cons plain.1 (ih plain.2)

theorem paired_unicode (unit : UInt16) : Paired (unicodeEscape unit) := by
  have each : forall digit : Fin 16, isSurrogate (hexUnit digit) = false := by decide
  have bound : unit.toNat < 65536 := unit.toNat_lt
  have first := each ⟨unit.toNat / 4096, by omega⟩
  have second := each ⟨unit.toNat / 256 % 16, by omega⟩
  have third := each ⟨unit.toNat / 16 % 16, by omega⟩
  have fourth := each ⟨unit.toNat % 16, by omega⟩
  exact .cons (by decide) (.cons (by decide) (.cons first (.cons second (.cons third (.cons fourth .nil)))))

theorem paired_escape {unit : UInt16} (plain : isSurrogate unit = false) : Paired (escapeUnit unit) := by
  have table : forall entry, entry ∈ shortEscapes -> isSurrogate entry.2 = false :=
    List.all_iff_forall_prop.1 (by decide)
  unfold escapeUnit
  split
  next short found =>
    have member : (unit, short) ∈ shortEscapes := by
      obtain ⟨before, after, split, -⟩ := List.lookup_eq_some_iff.1 found
      rw [split]
      simp
    exact .cons (by decide) (.single (table _ member))
  next =>
    split
    next => exact paired_unicode unit
    next => exact .single plain

theorem paired_written (unit : UInt16) :
    Paired (if isSurrogate unit then unicodeEscape unit else escapeUnit unit) := by
  split
  next => exact paired_unicode unit
  next plain => exact paired_escape (Bool.eq_false_iff.2 plain)

theorem paired_quote (value : Units) : Paired (quote value) := by
  refine .cons (by decide) ?_
  induction value using VapeCommerce.Lib.Json.quoteRest.induct with
  | case1 => exact .single (by decide)
  | case2 unit =>
    rw [quoteRest]
    exact (paired_written unit).append (.single (by decide))
  | case3 first second rest pair ih =>
    rw [quoteRest, if_pos pair]
    rw [Bool.and_eq_true] at pair
    have both : Paired [first, second] :=
      ⟨[surrogatePair first second], by simp [units, unitsOf_pair pair.1 pair.2]⟩
    exact both.append ih
  | case4 first second rest apart ih =>
    rw [quoteRest, if_neg apart]
    exact (paired_written first).append ih

theorem paired_number (number : Number) : Paired (numberText number) := by
  refine .plain fun unit member => ?_
  have within := numberText_units number unit member
  have small : unit.toNat < 0xd800 := by
    simp only [isNumberUnit, isDigitUnit, Bool.or_eq_true, Bool.and_eq_true, decide_eq_true_eq, beq_iff_eq] at within
    rcases within with (((digit | rfl) | rfl) | rfl) | rfl
    next => omega
    all_goals decide
  simp only [isSurrogate, isHighSurrogate, isLowSurrogate, Bool.or_eq_false_iff, Bool.and_eq_false_iff,
    decide_eq_false_iff_not]
  omega

theorem paired_joined {texts : List Units} (each : forall text, text ∈ texts -> Paired text) :
    Paired (joined texts) := by
  induction texts with
  | nil => exact .nil
  | cons text rest ih =>
    rw [List.forall_mem_cons] at each
    cases rest with
    | nil => exact each.1
    | cons second rest => exact each.1.append (.cons (by decide) (ih each.2))

/-- A canonical text has no lone surrogate, whatever the strings of its value. -/
theorem paired_canonicalJson (value : Value) : Paired (canonicalJson value) := by
  induction value using Value.induction with
  | null => exact ⟨_, rfl⟩
  | boolean flag => cases flag <;> exact ⟨_, rfl⟩
  | number value => exact paired_number value
  | infinity negative => exact ⟨_, rfl⟩
  | text value => exact paired_quote value
  | array items each =>
    rw [canonicalJson, canonicalItems_map]
    exact .cons (by decide) ((paired_joined (List.forall_mem_map.2 each)).append (.single (by decide)))
  | object fields each =>
    rw [canonicalJson, sorted_fields, List.map_map]
    refine .cons (by decide) ((paired_joined (List.forall_mem_map.2 fun field member => ?_)).append
      (.single (by decide)))
    exact (paired_quote field.1).append
      (.cons (by decide) (each field ((List.mem_insertionSort byKey).1 member)))

end VapeCommerce.Lib.Utf8
