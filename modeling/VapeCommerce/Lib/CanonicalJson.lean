import Mathlib.Data.List.Lex
import Mathlib.Data.List.Sort
import VapeCommerce.Lib.DecimalText

set_option autoImplicit false

-- A text of a JSON value that does not depend on the order of its keys, and which values share one.
namespace VapeCommerce.Lib.CanonicalJson

open PercentEncoding DecimalText
open Json (quote quotationMark comma colon isDigitUnit quote_unambiguous)

-- What `JSON.parse` reads: a number beyond the range of a double is infinite.
inductive Value where
  | null
  | boolean (value : Bool)
  | number (value : Number)
  | infinity (negative : Bool)
  | text (value : Units)
  | array (items : List Value)
  | object (fields : List (Units × Value))

section Induction

theorem Value.induction {motive : Value -> Prop} (null : motive .null)
    (boolean : forall value, motive (.boolean value)) (number : forall value, motive (.number value))
    (infinity : forall negative, motive (.infinity negative)) (text : forall value, motive (.text value))
    (array : forall items, (forall item, item ∈ items -> motive item) -> motive (.array items))
    (object : forall fields, (forall field, field ∈ fields -> motive field.2) -> motive (.object fields))
    (value : Value) : motive value :=
  @Value.rec motive (fun items => forall item, item ∈ items -> motive item)
    (fun fields => forall field, field ∈ fields -> motive field.2) (fun field => motive field.2)
    null boolean number infinity text array object
    (fun _ none => nomatch none) (fun _ _ first rest => List.forall_mem_cons.2 ⟨first, rest⟩)
    (fun _ none => nomatch none) (fun _ _ first rest => List.forall_mem_cons.2 ⟨first, rest⟩)
    (fun _ _ value => value) value

end Induction

section Text

-- `join(',')`
def joined : List Units -> Units
  | [] => []
  | [only] => only
  | first :: second :: rest => first ++ comma :: joined (second :: rest)

-- Keys in the order of their code units.
def byKey {A : Type} (left right : Units × A) : Prop :=
  left.1.map UInt16.toNat <= right.1.map UInt16.toNat

instance {A : Type} : DecidableRel (byKey : Units × A -> Units × A -> Prop) :=
  fun _ _ => inferInstanceAs (Decidable (_ <= _))

def fieldText (field : Units × Units) : Units :=
  quote field.1 ++ colon :: field.2

mutual

def canonicalJson : Value -> Units
  | .null => units "null".toList
  | .boolean true => units "true".toList
  | .boolean false => units "false".toList
  | .number value => numberText value
  | .infinity _ => units "null".toList
  | .text value => quote value
  | .array items => 0x5b :: (joined (canonicalItems items) ++ [0x5d])
  | .object fields =>
    0x7b :: (joined (((canonicalFields fields).insertionSort byKey).map fieldText) ++ [0x7d])

def canonicalItems : List Value -> List Units
  | [] => []
  | item :: rest => canonicalJson item :: canonicalItems rest

def canonicalFields : List (Units × Value) -> List (Units × Units)
  | [] => []
  | (key, value) :: rest => (key, canonicalJson value) :: canonicalFields rest

end

theorem canonicalItems_map (items : List Value) : canonicalItems items = items.map canonicalJson := by
  induction items with
  | nil => rfl
  | cons item rest ih => rw [canonicalItems, ih, List.map_cons]

theorem canonicalFields_map (fields : List (Units × Value)) :
    canonicalFields fields = fields.map fun field => (field.1, canonicalJson field.2) := by
  induction fields with
  | nil => rfl
  | cons field rest ih => rw [canonicalFields, ih, List.map_cons]

end Text

section Equality

mutual

-- No object has two fields of one key.
def wellFormed : Value -> Bool
  | .array items => wellFormedItems items
  | .object fields => decide (fields.map Prod.fst).Nodup && wellFormedFields fields
  | .null => true
  | .boolean _ => true
  | .number _ => true
  | .infinity _ => true
  | .text _ => true

def wellFormedItems : List Value -> Bool
  | [] => true
  | item :: rest => wellFormed item && wellFormedItems rest

def wellFormedFields : List (Units × Value) -> Bool
  | [] => true
  | (_, value) :: rest => wellFormed value && wellFormedFields rest

end

mutual

-- Equality of JSON values: objects by their keys, whatever the order of their fields.
def Same : Value -> Value -> Prop
  | .null, .null => True
  | .boolean value, .boolean other => value = other
  | .number value, .number other => value = other
  | .infinity negative, .infinity sign => negative = sign
  | .text value, .text other => value = other
  | .array items, .array others => SameItems items others
  | .object fields, .object others =>
    Included fields others /\ others.map Prod.fst ⊆ fields.map Prod.fst
  | _, _ => False

def SameItems : List Value -> List Value -> Prop
  | [], [] => True
  | item :: rest, other :: others => Same item other /\ SameItems rest others
  | _, _ => False

-- Every field is one of the others, with the same value.
def Included : List (Units × Value) -> List (Units × Value) -> Prop
  | [], _ => True
  | (key, value) :: rest, others =>
    (exists other, (key, other) ∈ others /\ Same value other) /\ Included rest others

end

mutual

-- The value with null wherever a number is infinite.
def nullified : Value -> Value
  | .infinity _ => .null
  | .array items => .array (nullifiedItems items)
  | .object fields => .object (nullifiedFields fields)
  | .null => .null
  | .boolean value => .boolean value
  | .number value => .number value
  | .text value => .text value

def nullifiedItems : List Value -> List Value
  | [] => []
  | item :: rest => nullified item :: nullifiedItems rest

def nullifiedFields : List (Units × Value) -> List (Units × Value)
  | [] => []
  | (key, value) :: rest => (key, nullified value) :: nullifiedFields rest

end

mutual

-- No number is infinite.
def finite : Value -> Bool
  | .infinity _ => false
  | .array items => finiteItems items
  | .object fields => finiteFields fields
  | .null => true
  | .boolean _ => true
  | .number _ => true
  | .text _ => true

def finiteItems : List Value -> Bool
  | [] => true
  | item :: rest => finite item && finiteItems rest

def finiteFields : List (Units × Value) -> Bool
  | [] => true
  | (_, value) :: rest => finite value && finiteFields rest

end

theorem wellFormed_items {items : List Value} :
    wellFormedItems items = true <-> forall item, item ∈ items -> wellFormed item = true := by
  induction items with
  | nil => simp [wellFormedItems]
  | cons item rest ih => simp [wellFormedItems, ih]

theorem wellFormed_fields {fields : List (Units × Value)} :
    wellFormedFields fields = true <-> forall field, field ∈ fields -> wellFormed field.2 = true := by
  induction fields with
  | nil => simp [wellFormedFields]
  | cons field rest ih => rw [wellFormedFields, Bool.and_eq_true, ih, List.forall_mem_cons]

theorem sameItems_iff {items others : List Value} :
    SameItems items others <-> List.Forall₂ Same items others := by
  induction items generalizing others with
  | nil => cases others <;> simp [SameItems]
  | cons item rest ih => cases others <;> simp [SameItems, ih]

theorem included_iff {fields others : List (Units × Value)} :
    Included fields others <-> forall field, field ∈ fields ->
      exists other, (field.1, other) ∈ others /\ Same field.2 other := by
  induction fields with
  | nil => simp [Included]
  | cons field rest ih => rw [Included, ih, List.forall_mem_cons]

theorem nullifiedItems_map (items : List Value) : nullifiedItems items = items.map nullified := by
  induction items with
  | nil => rfl
  | cons item rest ih => rw [nullifiedItems, ih, List.map_cons]

theorem nullifiedFields_map (fields : List (Units × Value)) :
    nullifiedFields fields = fields.map fun field => (field.1, nullified field.2) := by
  induction fields with
  | nil => rfl
  | cons field rest ih => rw [nullifiedFields, ih, List.map_cons]

theorem finiteItems_iff {items : List Value} :
    finiteItems items = true <-> forall item, item ∈ items -> finite item = true := by
  induction items with
  | nil => simp [finiteItems]
  | cons item rest ih => simp [finiteItems, ih]

theorem finiteFields_iff {fields : List (Units × Value)} :
    finiteFields fields = true <-> forall field, field ∈ fields -> finite field.2 = true := by
  induction fields with
  | nil => simp [finiteFields]
  | cons field rest ih => rw [finiteFields, Bool.and_eq_true, ih, List.forall_mem_cons]

theorem nullified_finite {value : Value} (only : finite value = true) : nullified value = value := by
  induction value using Value.induction with
  | infinity negative => cases only
  | array items each =>
    rw [finite, finiteItems_iff] at only
    rw [nullified, nullifiedItems_map, List.map_congr_left fun item member => each item member (only item member),
      List.map_id']
  | object fields each =>
    rw [finite, finiteFields_iff] at only
    have same : forall field, field ∈ fields -> (field.1, nullified field.2) = field :=
      fun field member => Prod.ext rfl (each field member (only field member))
    rw [nullified, nullifiedFields_map, List.map_congr_left same, List.map_id']
  | null => rfl
  | boolean value => rfl
  | number value => rfl
  | text value => rfl

theorem wellFormed_array {items : List Value} :
    wellFormed (.array items) = true <-> forall item, item ∈ items -> wellFormed item = true := by
  rw [wellFormed, wellFormed_items]

theorem wellFormed_object {fields : List (Units × Value)} :
    wellFormed (.object fields) = true <->
      (fields.map Prod.fst).Nodup /\ forall field, field ∈ fields -> wellFormed field.2 = true := by
  rw [wellFormed, Bool.and_eq_true, decide_eq_true_eq, wellFormed_fields]

theorem same_array {items others : List Value} :
    Same (nullified (.array items)) (nullified (.array others)) <->
      List.Forall₂ (fun item other => Same (nullified item) (nullified other)) items others := by
  rw [nullified, nullified, Same, sameItems_iff, nullifiedItems_map, nullifiedItems_map,
    List.forall₂_map_left_iff, List.forall₂_map_right_iff]

-- Two objects are equal when each field has its partner, and every key is there.
theorem same_object {fields others : List (Units × Value)} :
    Same (nullified (.object fields)) (nullified (.object others)) <->
      (forall field, field ∈ fields ->
        exists other, (field.1, other) ∈ others /\ Same (nullified field.2) (nullified other)) /\
      forall other, other ∈ others -> exists field, field ∈ fields /\ field.1 = other.1 := by
  rw [nullified, nullified, Same, included_iff, nullifiedFields_map, nullifiedFields_map]
  refine and_congr ?_ ?_
  next =>
    rw [List.forall_mem_map]
    refine forall_congr' fun field => forall_congr' fun _ => ?_
    simp only [List.mem_map, Prod.mk.injEq]
    constructor
    next =>
      rintro ⟨_, ⟨other, member, same, rfl⟩, alike⟩
      exact ⟨other.2, same ▸ member, alike⟩
    next =>
      rintro ⟨other, member, alike⟩
      exact ⟨nullified other, ⟨(field.1, other), member, rfl, rfl⟩, alike⟩
  next =>
    simp only [List.map_map, Function.comp_def, List.subset_def, List.mem_map]
    constructor
    next => exact fun keys other member => keys ⟨other, member, rfl⟩
    next =>
      rintro keys _ ⟨other, member, rfl⟩
      exact keys other member

end Equality

section Joined

variable {A B : Type} {written : A -> Units} {spelled : B -> Units} {close : UInt16}

theorem partner {alike : A -> B -> Prop} {items : List A} {others : List B}
    (paired : List.Forall₂ alike items others) {item : A} (member : item ∈ items) :
    exists other, other ∈ others /\ alike item other := by
  induction paired with
  | nil => cases member
  | cons first _ ih =>
    rcases List.mem_cons.1 member with rfl | later
    next => exact ⟨_, List.mem_cons_self .., first⟩
    next =>
      obtain ⟨other, there, alike⟩ := ih later
      exact ⟨other, List.mem_cons_of_mem _ there, alike⟩

-- What follows the first of several joined texts.
def followed (close : UInt16) (after : Units) : List Units -> Units
  | [] => close :: after
  | text :: rest => comma :: (joined (text :: rest) ++ close :: after)

theorem joined_cons (text : Units) (rest : List Units) (close : UInt16) (after : Units) :
    joined (text :: rest) ++ close :: after = text ++ followed close after rest := by
  cases rest with
  | nil => rfl
  | cons second rest => simp [joined, followed]

theorem followed_ends (closes : isNumberUnit close = false) (after : Units) (texts : List Units) :
    Ends (followed close after texts) := by
  intro unit first
  cases texts with
  | nil =>
    obtain rfl := Option.some.inj first
    exact closes
  | cons text rest =>
    obtain rfl := Option.some.inj first
    decide

-- Texts that are told apart one by one are told apart when joined, up to a unit that starts none.
theorem joined_unambiguous {alike : A -> B -> Prop} (closes : isNumberUnit close = false)
    (apart : close ≠ comma) (items : List A) (others : List B)
    (reads : forall item, item ∈ items -> forall other, other ∈ others -> forall after rest, Ends after ->
      Ends rest -> written item ++ after = spelled other ++ rest -> alike item other /\ after = rest)
    (starts : forall item, item ∈ items -> forall after rest, Not (written item ++ after = close :: rest))
    (opens : forall other, other ∈ others -> forall after rest, Not (spelled other ++ after = close :: rest))
    {after rest : Units}
    (same : joined (items.map written) ++ close :: after = joined (others.map spelled) ++ close :: rest) :
    List.Forall₂ alike items others /\ after = rest := by
  induction items generalizing others with
  | nil =>
    cases others with
    | nil => exact ⟨.nil, (List.cons.inj same).2⟩
    | cons other others =>
      rw [List.map_cons, joined_cons] at same
      exact absurd same.symm (opens other (List.mem_cons_self ..) _ _)
  | cons item items ih =>
    cases others with
    | nil =>
      rw [List.map_cons, joined_cons] at same
      exact absurd same (starts item (List.mem_cons_self ..) _ _)
    | cons other others =>
      rw [List.map_cons, List.map_cons, joined_cons, joined_cons] at same
      obtain ⟨alike, tails⟩ := reads item (List.mem_cons_self ..) other (List.mem_cons_self ..) _ _
        (followed_ends closes after _) (followed_ends closes rest _) same
      cases items with
      | nil =>
        cases others with
        | nil => exact ⟨.cons alike .nil, (List.cons.inj tails).2⟩
        | cons second others => exact absurd (List.cons.inj tails).1 apart
      | cons first items =>
        cases others with
        | nil => exact absurd (List.cons.inj tails).1.symm apart
        | cons second others =>
          obtain ⟨later, equal⟩ := ih (second :: others)
            (fun item member other there =>
              reads item (List.mem_cons_of_mem _ member) other (List.mem_cons_of_mem _ there))
            (fun item member => starts item (List.mem_cons_of_mem _ member))
            (fun other member => opens other (List.mem_cons_of_mem _ member)) (List.cons.inj tails).2
          exact ⟨.cons alike later, equal⟩

end Joined

section Heads

inductive Kind where
  | null
  | boolean
  | number
  | text
  | array
  | object
deriving DecidableEq

-- An infinite number shows as null.
def Value.kind : Value -> Kind
  | .null => .null
  | .boolean _ => .boolean
  | .number _ => .number
  | .infinity _ => .null
  | .text _ => .text
  | .array _ => .array
  | .object _ => .object

def kindOf (unit : UInt16) : Option Kind :=
  if isDigitUnit unit || unit == minus then some .number
  else if unit = 0x6e then some .null
  else if unit = 0x74 || unit = 0x66 then some .boolean
  else if unit = quotationMark then some .text
  else if unit = 0x5b then some .array
  else if unit = 0x7b then some .object
  else none

theorem canonicalJson_head (value : Value) :
    exists unit text, canonicalJson value = unit :: text /\ kindOf unit = some value.kind := by
  cases value with
  | null => exact ⟨_, _, by rfl, by decide⟩
  | boolean flag =>
    cases flag with
    | true => exact ⟨_, _, by rfl, by decide⟩
    | false => exact ⟨_, _, by rfl, by decide⟩
  | number value =>
    obtain ⟨first, rest, written, lead⟩ := numberText_head value
    refine ⟨first, rest, by rw [canonicalJson, written], ?_⟩
    rw [kindOf, if_pos (by simpa using lead)]
    rfl
  | infinity negative => exact ⟨_, _, by rfl, by rw [Value.kind]; decide⟩
  | text value => exact ⟨_, _, by rw [canonicalJson, quote], by rw [Value.kind]; decide⟩
  | array items => exact ⟨_, _, by rw [canonicalJson], by rw [Value.kind]; decide⟩
  | object fields => exact ⟨_, _, by rw [canonicalJson], by rw [Value.kind]; decide⟩

theorem same_kind {value other : Value} {after rest : Units}
    (same : canonicalJson value ++ after = canonicalJson other ++ rest) : value.kind = other.kind := by
  obtain ⟨unit, _, written, kind⟩ := canonicalJson_head value
  obtain ⟨first, _, spelled, sort⟩ := canonicalJson_head other
  rw [written, spelled, List.cons_append, List.cons_append, List.cons.injEq] at same
  rw [same.1] at kind
  exact Option.some.inj (kind.symm.trans sort)

theorem head_apart (value : Value) {unit : UInt16} (none : kindOf unit = none) (after rest : Units) :
    Not (canonicalJson value ++ after = unit :: rest) := by
  intro same
  obtain ⟨first, _, written, kind⟩ := canonicalJson_head value
  rw [written, List.cons_append, List.cons.injEq] at same
  rw [same.1, none] at kind
  cases kind

end Heads

section Fields

-- The sort sees the keys only.
theorem sorted_fields (fields : List (Units × Value)) :
    (canonicalFields fields).insertionSort byKey =
      (fields.insertionSort byKey).map fun field => (field.1, canonicalJson field.2) := by
  rw [canonicalFields_map]
  exact (List.map_insertionSort byKey byKey (fun field : Units × Value => (field.1, canonicalJson field.2))
    fields fun _ _ _ _ => Iff.rfl).symm

theorem byKey_trans {A : Type} (left middle right : Units × A) (first : byKey left middle)
    (second : byKey middle right) : byKey left right :=
  le_trans first second

instance {A : Type} : IsTrans (Units × A) byKey := ⟨byKey_trans⟩

instance {A : Type} : Std.Total (α := Units × A) byKey := ⟨fun _ _ => le_total _ _⟩

theorem toNat_injective {left right : Units} (same : left.map UInt16.toNat = right.map UInt16.toNat) :
    left = right :=
  List.map_injective_iff.2 (fun _ _ => UInt16.toNat_inj.1) same

-- Fields of distinct keys have one sorted order.
theorem sort_perm {A : Type} {fields others : List (Units × A)} (distinct : (fields.map Prod.fst).Nodup)
    (permuted : fields.Perm others) : fields.insertionSort byKey = others.insertionSort byKey := by
  have sorted := List.perm_insertionSort byKey fields
  have rest := List.perm_insertionSort byKey others
  refine List.Perm.eq_of_pairwise ?_ (List.pairwise_insertionSort byKey fields)
    (List.pairwise_insertionSort byKey others) (sorted.trans (permuted.trans rest.symm))
  intro left right leftMember rightMember before after
  have keys : left.1 = right.1 := toNat_injective (le_antisymm before after)
  exact List.inj_on_of_nodup_map distinct (sorted.mem_iff.1 leftMember)
    (permuted.mem_iff.2 (rest.mem_iff.1 rightMember)) keys

theorem fieldText_apart (field : Units × Units) (after rest : Units) :
    Not (fieldText field ++ after = 0x7d :: rest) := by
  intro same
  have heads : some quotationMark = some 0x7d := congrArg List.head? same
  exact absurd heads (by decide)

end Fields

section Injectivity

theorem canonical_object (fields : List (Units × Value)) (after : Units) :
    canonicalJson (.object fields) ++ after =
      0x7b :: (joined ((fields.insertionSort byKey).map fun field => fieldText (field.1, canonicalJson field.2)) ++
        0x7d :: after) := by
  rw [canonicalJson, sorted_fields, List.map_map]
  simp [Function.comp_def]

theorem canonical_array (items : List Value) (after : Units) :
    canonicalJson (.array items) ++ after = 0x5b :: (joined (items.map canonicalJson) ++ 0x5d :: after) := by
  simp [canonicalJson, canonicalItems_map]

-- What two values with one text have in common, with whatever follows them.
def Reads (value : Value) : Prop :=
  forall other after rest, wellFormed value = true -> wellFormed other = true -> Ends after -> Ends rest ->
    canonicalJson value ++ after = canonicalJson other ++ rest ->
    Same (nullified value) (nullified other) /\ after = rest

theorem field_reads {field : Units × Value} (reads : Reads field.2) (sound : wellFormed field.2 = true)
    (other : Units × Value) (formed : wellFormed other.2 = true) {after rest : Units} (ends : Ends after)
    (stops : Ends rest)
    (same : fieldText (field.1, canonicalJson field.2) ++ after =
      fieldText (other.1, canonicalJson other.2) ++ rest) :
    (field.1 = other.1 /\ Same (nullified field.2) (nullified other.2)) /\ after = rest := by
  simp only [fieldText, List.append_assoc, List.cons_append] at same
  obtain ⟨keys, values⟩ := quote_unambiguous same
  obtain ⟨alike, tails⟩ := reads other.2 after rest sound formed ends stops (List.cons.inj values).2
  exact ⟨⟨keys, alike⟩, tails⟩

theorem array_reads (items : List Value) (each : forall item, item ∈ items -> Reads item) :
    Reads (.array items) := by
  intro other after rest sound formed ends stops same
  have kinds := same_kind same
  cases other with
  | array others =>
    rw [canonical_array, canonical_array] at same
    rw [wellFormed_array] at sound formed
    rw [same_array]
    exact joined_unambiguous (by decide) (by decide) items others
      (fun item member other there after rest ends stops =>
        each item member other after rest (sound item member) (formed other there) ends stops)
      (fun item _ => head_apart item (by decide)) (fun other _ => head_apart other (by decide))
      (List.cons.inj same).2
  | _ => cases kinds

theorem object_reads (fields : List (Units × Value)) (each : forall field, field ∈ fields -> Reads field.2) :
    Reads (.object fields) := by
  intro other after rest sound formed ends stops same
  have kinds := same_kind same
  cases other with
  | object others =>
    rw [canonical_object, canonical_object] at same
    rw [wellFormed_object] at sound formed
    have mine (field : Units × Value) : field ∈ fields.insertionSort byKey <-> field ∈ fields :=
      List.mem_insertionSort byKey
    have theirs (field : Units × Value) : field ∈ others.insertionSort byKey <-> field ∈ others :=
      List.mem_insertionSort byKey
    obtain ⟨paired, tails⟩ := @joined_unambiguous _ _ _ _ _
      (fun field other : Units × Value => field.1 = other.1 /\ Same (nullified field.2) (nullified other.2))
      (by decide) (by decide) (fields.insertionSort byKey) (others.insertionSort byKey)
      (fun field member other there after rest ends stops =>
        field_reads (each field ((mine field).1 member)) (sound.2 field ((mine field).1 member)) other
          (formed.2 other ((theirs other).1 there)) ends stops)
      (fun field _ => fieldText_apart _) (fun other _ => fieldText_apart _) _ _ (List.cons.inj same).2
    refine ⟨same_object.2 ⟨fun field member => ?_, fun other there => ?_⟩, tails⟩
    next =>
      obtain ⟨other, there, keys, alike⟩ := partner paired ((mine field).2 member)
      exact ⟨other.2, keys ▸ (theirs other).1 there, alike⟩
    next =>
      obtain ⟨field, member, keys, -⟩ := partner paired.flip ((theirs other).2 there)
      exact ⟨field, (mine field).1 member, keys⟩
  | _ => cases kinds

theorem canonicalJson_reads (value : Value) : Reads value := by
  induction value using Value.induction with
  | null =>
    intro other after rest _ _ _ _ same
    have kinds := same_kind same
    cases other with
    | null => exact ⟨trivial, List.append_cancel_left same⟩
    | infinity negative => exact ⟨trivial, List.append_cancel_left same⟩
    | _ => cases kinds
  | infinity negative =>
    intro other after rest _ _ _ _ same
    have kinds := same_kind same
    cases other with
    | null => exact ⟨trivial, List.append_cancel_left same⟩
    | infinity sign => exact ⟨trivial, List.append_cancel_left same⟩
    | _ => cases kinds
  | boolean flag =>
    intro other after rest _ _ _ _ same
    have kinds := same_kind same
    cases other with
    | boolean sign =>
      cases flag with
      | true =>
        cases sign with
        | true => exact ⟨rfl, List.append_cancel_left same⟩
        | false =>
          have heads : some (0x74 : UInt16) = some 0x66 := congrArg List.head? same
          exact absurd heads (by decide)
      | false =>
        cases sign with
        | true =>
          have heads : some (0x66 : UInt16) = some 0x74 := congrArg List.head? same
          exact absurd heads (by decide)
        | false => exact ⟨rfl, List.append_cancel_left same⟩
    | _ => cases kinds
  | number count =>
    intro other after rest _ _ ends stops same
    have kinds := same_kind same
    cases other with
    | number amount =>
      rw [canonicalJson, canonicalJson] at same
      obtain ⟨rfl, tails⟩ := numberText_unambiguous ends stops same
      exact ⟨rfl, tails⟩
    | _ => cases kinds
  | text content =>
    intro other after rest _ _ _ _ same
    have kinds := same_kind same
    cases other with
    | text words =>
      rw [canonicalJson, canonicalJson] at same
      obtain ⟨rfl, tails⟩ := quote_unambiguous same
      exact ⟨rfl, tails⟩
    | _ => cases kinds
  | array items each => exact array_reads items each
  | object fields each => exact object_reads fields each

end Injectivity

section Independence

-- Equal values have one text.
def Agrees (value : Value) : Prop :=
  forall other, wellFormed value = true -> wellFormed other = true ->
    Same (nullified value) (nullified other) -> canonicalJson value = canonicalJson other

theorem array_agrees (items : List Value) (each : forall item, item ∈ items -> Agrees item) :
    Agrees (.array items) := by
  intro other sound formed same
  cases other with
  | array others =>
    rw [same_array] at same
    rw [wellFormed_array] at sound formed
    have texts : items.map canonicalJson = others.map canonicalJson := by
      induction same with
      | nil => rfl
      | cons first rest ih =>
        rw [List.forall_mem_cons] at each sound formed
        rw [List.map_cons, List.map_cons, each.1 _ sound.1 formed.1 first, ih each.2 sound.2 formed.2]
    rw [canonicalJson, canonicalJson, canonicalItems_map, canonicalItems_map, texts]
  | _ => exact absurd same (by simp [nullified, Same])

theorem object_agrees (fields : List (Units × Value)) (each : forall field, field ∈ fields -> Agrees field.2) :
    Agrees (.object fields) := by
  intro other sound formed same
  cases other with
  | object others =>
    rw [same_object] at same
    rw [wellFormed_object] at sound formed
    obtain ⟨partners, keys⟩ := same
    have distinct (fields : List (Units × Value)) (names : (fields.map Prod.fst).Nodup) :
        ((canonicalFields fields).map Prod.fst).Nodup := by
      rw [canonicalFields_map, List.map_map]
      exact names
    have pairs : (canonicalFields fields).Perm (canonicalFields others) := by
      rw [List.perm_ext_iff_of_nodup (List.Nodup.of_map _ (distinct fields sound.1))
        (List.Nodup.of_map _ (distinct others formed.1)), canonicalFields_map, canonicalFields_map]
      intro pair
      simp only [List.mem_map]
      constructor
      next =>
        rintro ⟨field, member, rfl⟩
        obtain ⟨other, there, alike⟩ := partners field member
        exact ⟨(field.1, other), there,
          by rw [each field member other (sound.2 field member) (formed.2 _ there) alike]⟩
      next =>
        rintro ⟨other, there, rfl⟩
        obtain ⟨field, member, named⟩ := keys other there
        obtain ⟨value, found, alike⟩ := partners field member
        have one : (field.1, value) = other := List.inj_on_of_nodup_map formed.1 found there named
        refine ⟨field, member, ?_⟩
        rw [each field member value (sound.2 field member) (formed.2 _ found) alike, <- one]
    rw [canonicalJson, canonicalJson, sort_perm (distinct fields sound.1) pairs]
  | _ => exact absurd same (by simp [nullified, Same])

theorem canonicalJson_agrees (value : Value) : Agrees value := by
  induction value using Value.induction with
  | null =>
    intro other _ _ same
    cases other with
    | null => rfl
    | infinity negative => rfl
    | _ => exact absurd same (by simp [nullified, Same])
  | infinity negative =>
    intro other _ _ same
    cases other with
    | null => rfl
    | infinity sign => rfl
    | _ => exact absurd same (by simp [nullified, Same])
  | boolean flag =>
    intro other _ _ same
    cases other with
    | boolean sign =>
      simp only [nullified, Same] at same
      rw [same]
    | _ => exact absurd same (by simp [nullified, Same])
  | number count =>
    intro other _ _ same
    cases other with
    | number amount =>
      simp only [nullified, Same] at same
      rw [same]
    | _ => exact absurd same (by simp [nullified, Same])
  | text content =>
    intro other _ _ same
    cases other with
    | text words =>
      simp only [nullified, Same] at same
      rw [same]
    | _ => exact absurd same (by simp [nullified, Same])
  | array items each => exact array_agrees items each
  | object fields each => exact object_agrees fields each

/-- Two values have one canonical text exactly when they are equal but for infinite numbers standing
    where the other has null. -/
theorem canonicalJson_iff {value other : Value} (sound : wellFormed value = true)
    (formed : wellFormed other = true) :
    canonicalJson value = canonicalJson other <-> Same (nullified value) (nullified other) := by
  have ends : Ends [] := by intro unit first; cases first
  constructor
  next =>
    intro same
    exact (canonicalJson_reads value other [] [] sound formed ends ends (by rw [same])).1
  next => exact canonicalJson_agrees value other sound formed

end Independence

end VapeCommerce.Lib.CanonicalJson
