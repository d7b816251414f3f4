import Mathlib.Data.List.TakeWhile
import VapeCommerce.Lib.PercentEncoding

set_option autoImplicit false

-- The text that `JSON.stringify` writes, which says what it was written for.
namespace VapeCommerce.Lib.Json

open PercentEncoding

-- An object is its entries that are not undefined, in their order.
inductive Value where
  | null
  | boolean (value : Bool)
  | number (value : Nat)
  | text (value : Units)
  | array (items : List Value)
  | object (fields : List (Units × Value))

def quotationMark : UInt16 := 0x22
def backslash : UInt16 := 0x5c
def comma : UInt16 := 0x2c
def colon : UInt16 := 0x3a

def hexUnit (digit : Nat) : UInt16 :=
  UInt16.ofNat (if digit < 10 then 0x30 + digit else 0x57 + digit)

def unicodeEscape (unit : UInt16) : Units :=
  [backslash, 0x75, hexUnit (unit.toNat / 4096), hexUnit (unit.toNat / 256 % 16),
    hexUnit (unit.toNat / 16 % 16), hexUnit (unit.toNat % 16)]

def shortEscapes : List (UInt16 × UInt16) :=
  [(0x08, 0x62), (0x09, 0x74), (0x0a, 0x6e), (0x0c, 0x66), (0x0d, 0x72), (0x22, 0x22), (0x5c, 0x5c)]

def escapeUnit (unit : UInt16) : Units :=
  match shortEscapes.lookup unit with
  | some short => [backslash, short]
  | none => if unit.toNat < 0x20 then unicodeEscape unit else [unit]

def isSurrogate (unit : UInt16) : Bool :=
  isHighSurrogate unit || isLowSurrogate unit

-- A string up to its closing mark; surrogates are escaped when they stand alone.
def quoteRest : Units -> Units
  | [] => [quotationMark]
  | [unit] => (if isSurrogate unit then unicodeEscape unit else escapeUnit unit) ++ [quotationMark]
  | first :: second :: rest =>
    if isHighSurrogate first && isLowSurrogate second then first :: second :: quoteRest rest
    else (if isSurrogate first then unicodeEscape first else escapeUnit first) ++ quoteRest (second :: rest)

def quote (value : Units) : Units :=
  quotationMark :: quoteRest value

def digits (value : Nat) : Units :=
  (Nat.toDigits 10 value).map fun char => UInt16.ofNat char.toNat

mutual

def stringify : Value -> Units
  | .null => units "null".toList
  | .boolean true => units "true".toList
  | .boolean false => units "false".toList
  | .number value => digits value
  | .text value => quote value
  | .array items => 0x5b :: stringifyItems [] items
  | .object fields => 0x7b :: stringifyFields [] fields

def stringifyItems (separator : Units) : List Value -> Units
  | [] => [0x5d]
  | item :: rest => separator ++ (stringify item ++ stringifyItems [comma] rest)

def stringifyFields (separator : Units) : List (Units × Value) -> Units
  | [] => [0x7d]
  | (key, value) :: rest =>
    separator ++ (quote key ++ colon :: (stringify value ++ stringifyFields [comma] rest))

end

section Strings

def hexValue (unit : UInt16) : Nat :=
  if unit.toNat < 0x3a then unit.toNat - 0x30 else unit.toNat - 0x57

def hexRead (first second third fourth : UInt16) : UInt16 :=
  UInt16.ofNat (4096 * hexValue first + 256 * hexValue second + 16 * hexValue third + hexValue fourth)

def shortRead (unit : UInt16) : UInt16 :=
  ((shortEscapes.find? fun entry => entry.2 == unit).map Prod.fst).getD unit

-- A string read back up to its closing mark, with what follows it.
def unquoteRest : Units -> Option (Units × Units)
  | [] => none
  | 0x22 :: rest => some ([], rest)
  | 0x5c :: 0x75 :: first :: second :: third :: fourth :: rest =>
    (unquoteRest rest).map fun (value, after) => (hexRead first second third fourth :: value, after)
  | 0x5c :: short :: rest =>
    (unquoteRest rest).map fun (value, after) => (shortRead short :: value, after)
  | unit :: rest => (unquoteRest rest).map fun (value, after) => (unit :: value, after)

theorem hexRead_unit (unit : UInt16) :
    hexRead (hexUnit (unit.toNat / 4096)) (hexUnit (unit.toNat / 256 % 16))
      (hexUnit (unit.toNat / 16 % 16)) (hexUnit (unit.toNat % 16)) = unit := by
  have bound : unit.toNat < 65536 := unit.toNat_lt
  have each : forall digit : Fin 16, hexValue (hexUnit digit) = digit.val := by decide
  have first := each ⟨unit.toNat / 4096, by omega⟩
  have second := each ⟨unit.toNat / 256 % 16, by omega⟩
  have third := each ⟨unit.toNat / 16 % 16, by omega⟩
  have fourth := each ⟨unit.toNat % 16, by omega⟩
  simp only at first second third fourth
  have whole : 4096 * (unit.toNat / 4096) + 256 * (unit.toNat / 256 % 16) + 16 * (unit.toNat / 16 % 16) +
      unit.toNat % 16 = unit.toNat := by
    omega
  rw [hexRead, first, second, third, fourth, whole, UInt16.ofNat_toNat]

theorem unquoteRest_unicode (unit : UInt16) (rest : Units) :
    unquoteRest (unicodeEscape unit ++ rest) =
      (unquoteRest rest).map fun (value, after) => (unit :: value, after) := by
  have read := hexRead_unit unit
  simp only [unicodeEscape, backslash, List.cons_append, List.nil_append, unquoteRest]
  rw [read]

theorem unquoteRest_plain {unit : UInt16} (mark : unit ≠ 0x22) (slash : unit ≠ 0x5c) (rest : Units) :
    unquoteRest (unit :: rest) = (unquoteRest rest).map fun (value, after) => (unit :: value, after) := by
  rw [unquoteRest.eq_5 _ _ (by grind) (by grind) (by grind)]

theorem unquoteRest_short {short : UInt16} (apart : short ≠ 0x75) (rest : Units) :
    unquoteRest (0x5c :: short :: rest) =
      (unquoteRest rest).map fun (value, after) => (shortRead short :: value, after) := by
  rw [unquoteRest.eq_4 _ _ (by grind)]

theorem unquoteRest_escape (unit : UInt16) (rest : Units) :
    unquoteRest (escapeUnit unit ++ rest) =
      (unquoteRest rest).map fun (value, after) => (unit :: value, after) := by
  have table : forall entry, entry ∈ shortEscapes -> entry.2 ≠ 0x75 /\ shortRead entry.2 = entry.1 :=
    List.all_iff_forall_prop.1 (by decide)
  unfold escapeUnit
  split
  next short found =>
    have member : (unit, short) ∈ shortEscapes := by
      obtain ⟨before, after, split, -⟩ := List.lookup_eq_some_iff.1 found
      rw [split]
      simp
    have entry := table _ member
    rw [List.cons_append, List.cons_append, List.nil_append, backslash, unquoteRest_short entry.1, entry.2]
  next absent =>
    split
    next => exact unquoteRest_unicode unit rest
    next =>
      have mark : unit ≠ 0x22 := by
        rintro rfl
        revert absent
        decide
      have slash : unit ≠ 0x5c := by
        rintro rfl
        revert absent
        decide
      exact unquoteRest_plain mark slash rest

theorem surrogate_plain {unit : UInt16} (surrogate : isSurrogate unit = true) :
    unit ≠ 0x22 /\ unit ≠ 0x5c := by
  constructor
  all_goals
    rintro rfl
    revert surrogate
    decide

theorem unquoteRest_quote (value rest : Units) :
    unquoteRest (quoteRest value ++ rest) = some (value, rest) := by
  induction value using quoteRest.induct with
  | case1 => simp [quoteRest, quotationMark, unquoteRest]
  | case2 unit =>
    rw [quoteRest, List.append_assoc]
    split
    next => rw [unquoteRest_unicode]; rfl
    next => rw [unquoteRest_escape]; rfl
  | case3 first second others pair ih =>
    simp only [Bool.and_eq_true] at pair
    have high := @surrogate_plain first (by rw [isSurrogate, pair.1]; rfl)
    have low := @surrogate_plain second (by rw [isSurrogate, pair.2]; exact Bool.or_true _)
    rw [quoteRest, if_pos (by simp [pair]), List.cons_append, List.cons_append,
      unquoteRest_plain high.1 high.2, unquoteRest_plain low.1 low.2, ih]
    rfl
  | case4 first second others apart ih =>
    rw [quoteRest, if_neg apart, List.append_assoc]
    split
    next => rw [unquoteRest_unicode, ih]; rfl
    next => rw [unquoteRest_escape, ih]; rfl

theorem quote_unambiguous {value other after rest : Units}
    (same : quote value ++ after = quote other ++ rest) : value = other /\ after = rest := by
  have body : quoteRest value ++ after = quoteRest other ++ rest := by
    simpa [quote] using same
  have read := unquoteRest_quote value after
  rw [body, unquoteRest_quote, Option.some.injEq, Prod.mk.injEq] at read
  exact ⟨read.1.symm, read.2.symm⟩

end Strings

section Values

inductive Kind where
  | null
  | boolean
  | number
  | text
  | array
  | object
deriving DecidableEq

def Value.kind : Value -> Kind
  | .null => .null
  | .boolean _ => .boolean
  | .number _ => .number
  | .text _ => .text
  | .array _ => .array
  | .object _ => .object

def isDigitUnit (unit : UInt16) : Bool :=
  0x30 <= unit.toNat && unit.toNat <= 0x39

-- A value shows by its first unit.
def kindOf (unit : UInt16) : Option Kind :=
  if isDigitUnit unit then some .number
  else if unit = 0x6e then some .null
  else if unit = 0x74 || unit = 0x66 then some .boolean
  else if unit = quotationMark then some .text
  else if unit = 0x5b then some .array
  else if unit = 0x7b then some .object
  else none

-- What may follow a number.
def Stops (text : Units) : Prop :=
  forall unit, text.head? = some unit -> isDigitUnit unit = false

theorem digits_unit {value : Nat} {unit : UInt16} (member : unit ∈ digits value) :
    isDigitUnit unit = true := by
  obtain ⟨char, inside, rfl⟩ := List.mem_map.1 member
  have digit := Nat.isDigit_of_mem_toDigits (by decide) (by decide) inside
  simp only [Char.isDigit, Bool.and_eq_true, decide_eq_true_eq, UInt32.le_iff_toNat_le, ge_iff_le,
    Char.toNat_val] at digit
  have low : 48 <= char.toNat := digit.1
  have high : char.toNat <= 57 := digit.2
  simp only [isDigitUnit, UInt16.toNat_ofNat', Bool.and_eq_true, decide_eq_true_eq]
  omega

theorem digits_injective {value other : Nat} (same : digits value = digits other) : value = other := by
  have chars : forall value : Nat,
      (digits value).map (fun unit => Char.ofNat unit.toNat) = Nat.toDigits 10 value := by
    intro value
    rw [digits, List.map_map]
    refine (List.map_congr_left fun char inside => ?_).trans (List.map_id _)
    have digit := Nat.isDigit_of_mem_toDigits (by decide) (by decide) inside
    simp only [Char.isDigit, Bool.and_eq_true, decide_eq_true_eq, UInt32.le_iff_toNat_le, ge_iff_le,
      Char.toNat_val] at digit
    have high : char.toNat <= 57 := digit.2
    have small : char.toNat % 65536 = char.toNat := Nat.mod_eq_of_lt (by omega)
    simp only [Function.comp_apply, UInt16.toNat_ofNat', id_eq]
    rw [small, Char.ofNat_toNat]
  have texts := chars value
  rw [same, chars other] at texts
  have read := congrArg (fun chars => Nat.ofDigitChars 10 chars 0) texts
  simpa [Nat.ofDigitChars_toDigits] using read.symm

theorem digits_unambiguous {value other : Nat} {after rest : Units} (stops : Stops after)
    (ends : Stops rest) (same : digits value ++ after = digits other ++ rest) :
    value = other /\ after = rest := by
  have taken : forall (value : Nat) (text : Units), Stops text ->
      (digits value ++ text).takeWhile isDigitUnit = digits value := by
    intro value text following
    rw [List.takeWhile_append_of_pos fun unit => digits_unit]
    cases text with
    | nil => simp
    | cons unit others => simp [following unit rfl]
  have equal : digits value = digits other := by
    rw [<- taken value after stops, same, taken other rest ends]
  refine ⟨digits_injective equal, ?_⟩
  rw [equal] at same
  exact List.append_cancel_left same

theorem stringify_head (value : Value) :
    exists unit text, stringify value = unit :: text /\ kindOf unit = some value.kind := by
  cases value with
  | null => exact ⟨_, _, by rfl, by decide⟩
  | boolean flag =>
    cases flag with
    | true => exact ⟨_, _, by rfl, by decide⟩
    | false => exact ⟨_, _, by rfl, by decide⟩
  | number value =>
    cases written : digits value with
    | nil => exact absurd (List.map_eq_nil_iff.1 written) Nat.toDigits_ne_nil
    | cons unit text =>
      have digit : isDigitUnit unit = true := @digits_unit value unit (by rw [written]; simp)
      exact ⟨unit, text, by rw [stringify, written], by rw [kindOf, if_pos digit]; rfl⟩
  | text value => exact ⟨_, _, by rw [stringify, quote], by rw [Value.kind]; decide⟩
  | array items => exact ⟨_, _, by rw [stringify], by rw [Value.kind]; decide⟩
  | object fields => exact ⟨_, _, by rw [stringify], by rw [Value.kind]; decide⟩

theorem same_kind {value other : Value} {after rest : Units}
    (same : stringify value ++ after = stringify other ++ rest) : value.kind = other.kind := by
  obtain ⟨unit, _, written, kind⟩ := stringify_head value
  obtain ⟨first, _, spelled, sort⟩ := stringify_head other
  rw [written, spelled, List.cons_append, List.cons_append, List.cons.injEq] at same
  rw [same.1] at kind
  exact Option.some.inj (kind.symm.trans sort)

theorem head_apart {value : Value} {after rest : Units} {unit : UInt16} (none : kindOf unit = none) :
    Not (unit :: rest = stringify value ++ after) := by
  intro same
  obtain ⟨first, _, written, kind⟩ := stringify_head value
  rw [written, List.cons_append, List.cons.injEq] at same
  rw [<- same.1, none] at kind
  cases kind

theorem stops_items (items : List Value) (after : Units) :
    Stops (stringifyItems [comma] items ++ after) := by
  intro unit first
  cases items with
  | nil =>
    simp only [stringifyItems, List.cons_append, List.head?_cons, Option.some.injEq] at first
    rw [<- first]
    decide
  | cons item others =>
    simp only [stringifyItems, List.cons_append, List.head?_cons, Option.some.injEq] at first
    rw [<- first]
    decide

theorem stops_fields (fields : List (Units × Value)) (after : Units) :
    Stops (stringifyFields [comma] fields ++ after) := by
  intro unit first
  cases fields with
  | nil =>
    simp only [stringifyFields, List.cons_append, List.head?_cons, Option.some.injEq] at first
    rw [<- first]
    decide
  | cons field others =>
    simp only [stringifyFields, List.cons_append, List.head?_cons, Option.some.injEq] at first
    rw [<- first]
    decide

-- Items are separated by a comma, but for the first one.
def Separates (separator : Units) : Prop :=
  separator = [] \/ separator = [comma]

mutual

theorem stringify_unambiguous (value other : Value) {after rest : Units} (stops : Stops after)
    (ends : Stops rest) (same : stringify value ++ after = stringify other ++ rest) :
    value = other /\ after = rest := by
  have kinds := same_kind same
  cases value with
  | null =>
    cases other with
    | null => exact ⟨rfl, List.append_cancel_left same⟩
    | _ => cases kinds
  | boolean flag =>
    cases other with
    | boolean sign =>
      cases flag with
      | true =>
        cases sign with
        | true => exact ⟨rfl, List.append_cancel_left same⟩
        | false =>
          have heads : some (0x74 : UInt16) = some 0x66 := congrArg List.head? same
          exact absurd heads (by decide)
      | false =>
        cases sign with
        | true =>
          have heads : some (0x66 : UInt16) = some 0x74 := congrArg List.head? same
          exact absurd heads (by decide)
        | false => exact ⟨rfl, List.append_cancel_left same⟩
    | _ => cases kinds
  | number count =>
    cases other with
    | number amount =>
      simp only [stringify] at same
      obtain ⟨rfl, remaining⟩ := digits_unambiguous stops ends same
      exact ⟨rfl, remaining⟩
    | _ => cases kinds
  | text content =>
    cases other with
    | text words =>
      simp only [stringify] at same
      obtain ⟨rfl, remaining⟩ := quote_unambiguous same
      exact ⟨rfl, remaining⟩
    | _ => cases kinds
  | array items =>
    cases other with
    | array others =>
      simp only [stringify, List.cons_append, List.cons.injEq, true_and] at same
      obtain ⟨rfl, remaining⟩ := items_unambiguous items others (.inl rfl) same
      exact ⟨rfl, remaining⟩
    | _ => cases kinds
  | object fields =>
    cases other with
    | object others =>
      simp only [stringify, List.cons_append, List.cons.injEq, true_and] at same
      obtain ⟨rfl, remaining⟩ := fields_unambiguous fields others (.inl rfl) same
      exact ⟨rfl, remaining⟩
    | _ => cases kinds

theorem items_unambiguous (items others : List Value) {separator after rest : Units}
    (separates : Separates separator)
    (same : stringifyItems separator items ++ after = stringifyItems separator others ++ rest) :
    items = others /\ after = rest := by
  cases items with
  | nil =>
    cases others with
    | nil => exact ⟨rfl, List.append_cancel_left same⟩
    | cons item later =>
      simp only [stringifyItems, List.append_assoc, List.cons_append] at same
      cases separates with
      | inl first => rw [first] at same; exact absurd same (head_apart (by decide))
      | inr comma => rw [comma] at same; exact absurd (congrArg List.head? same) (by simp; decide)
  | cons item later =>
    cases others with
    | nil =>
      simp only [stringifyItems, List.append_assoc, List.cons_append] at same
      cases separates with
      | inl first => rw [first] at same; exact absurd same.symm (head_apart (by decide))
      | inr comma => rw [comma] at same; exact absurd (congrArg List.head? same) (by simp; decide)
    | cons other following =>
      simp only [stringifyItems, List.append_assoc] at same
      obtain ⟨rfl, tails⟩ := stringify_unambiguous item other (stops_items later after)
        (stops_items following rest) (List.append_cancel_left same)
      obtain ⟨rfl, remaining⟩ := items_unambiguous later following (.inr rfl) tails
      exact ⟨rfl, remaining⟩

theorem fields_unambiguous (fields others : List (Units × Value)) {separator after rest : Units}
    (separates : Separates separator)
    (same : stringifyFields separator fields ++ after = stringifyFields separator others ++ rest) :
    fields = others /\ after = rest := by
  cases fields with
  | nil =>
    cases others with
    | nil => exact ⟨rfl, List.append_cancel_left same⟩
    | cons field later =>
      simp only [stringifyFields, quote, List.append_assoc, List.cons_append] at same
      cases separates with
      | inl first => rw [first] at same; exact absurd (congrArg List.head? same) (by simp; decide)
      | inr comma => rw [comma] at same; exact absurd (congrArg List.head? same) (by simp; decide)
  | cons field later =>
    obtain ⟨key, value⟩ := field
    cases others with
    | nil =>
      simp only [stringifyFields, quote, List.append_assoc, List.cons_append] at same
      cases separates with
      | inl first => rw [first] at same; exact absurd (congrArg List.head? same) (by simp; decide)
      | inr comma => rw [comma] at same; exact absurd (congrArg List.head? same) (by simp; decide)
    | cons other following =>
      obtain ⟨name, content⟩ := other
      simp only [stringifyFields, List.append_assoc, List.cons_append] at same
      obtain ⟨rfl, values⟩ := quote_unambiguous (List.append_cancel_left same)
      obtain ⟨rfl, tails⟩ := stringify_unambiguous value content (stops_fields later after)
        (stops_fields following rest) (List.cons.inj values).2
      obtain ⟨rfl, remaining⟩ := fields_unambiguous later following (.inr rfl) tails
      exact ⟨rfl, remaining⟩

end

/-- Two values have one text only if they are one value. -/
theorem stringify_injective {value other : Value} (same : stringify value = stringify other) :
    value = other := by
  have stops : Stops [] := by intro unit first; cases first
  exact (stringify_unambiguous value other stops stops (by rw [same])).1

end Values

end VapeCommerce.Lib.Json
