import Mathlib.Data.List.Sort
import VapeCommerce.Checkout.Order
import VapeCommerce.Lib.Json

set_option autoImplicit false

-- checkout-order.helpers.ts: the fingerprint of a checkout request, from the text that is hashed
namespace VapeCommerce.Checkout.Fingerprint

open VapeCommerce.Lib.PercentEncoding VapeCommerce.Lib.Json

-- An optional property, as the body of a request has it; `@IsOptional` also lets null pass.
inductive Given (A : Type) where
  | omitted
  | null
  | value (content : A)
deriving DecidableEq

-- `??`
def Given.orElse {A : Type} (fallback : A) : Given A -> A
  | .omitted => fallback
  | .null => fallback
  | .value content => content

def idCharacter (unit : UInt16) : Bool :=
  (0x30 <= unit.toNat && unit.toNat <= 0x39) || (0x41 <= unit.toNat && unit.toNat <= 0x5a) ||
    (0x61 <= unit.toNat && unit.toNat <= 0x7a) || unit == 0x5f || unit == 0x2d

structure IdText where
  text : Units
  sized : 1 <= text.length /\ text.length <= 30
  pattern : text.all idCharacter = true
deriving DecidableEq

structure CheckoutQuoteItemDto where
  variantId : IdText
  quantity : Nat
  bounds : 1 <= quantity /\ quantity <= 20
deriving DecidableEq

structure CheckoutAddressDto where
  street : Units
  building : Given Units
  floor : Given Units
  apartment : Given Units
  landmark : Given Units
  postalCode : Given Units
  instructions : Given Units
deriving DecidableEq

structure CheckoutConsentDto where
  ageConfirmed : Bool
  termsAccepted : Bool
  privacyAccepted : Bool
  termsDocumentVersionId : Given IdText
  privacyDocumentVersionId : Given IdText
deriving DecidableEq

structure CheckoutOrderDto where
  items : List CheckoutQuoteItemDto
  sized : 1 <= items.length /\ items.length <= 50
  localityId : Given IdText
  pickupLocationId : Given IdText
  express : Given Bool
  customerName : Units
  phone : Units
  email : Given Units
  address : Given CheckoutAddressDto
  consent : CheckoutConsentDto
deriving DecidableEq

section Values

-- `undefined` entries, which canonicalization drops.
def defined (entries : List (Units × Option Value)) : List (Units × Value) :=
  entries.filterMap fun (key, value) => value.map fun content => (key, content)

def Given.json {A : Type} (content : A -> Value) : Given A -> Option Value
  | .omitted => none
  | .null => some .null
  | .value given => some (content given)

def IdText.json (id : IdText) : Value :=
  .text id.text

def CheckoutQuoteItemDto.entries (item : CheckoutQuoteItemDto) : List (Units × Option Value) :=
  [(units "variantId".toList, some item.variantId.json),
    (units "quantity".toList, some (.number item.quantity))]

def CheckoutAddressDto.entries (address : CheckoutAddressDto) : List (Units × Option Value) :=
  [(units "street".toList, some (.text address.street)),
    (units "building".toList, address.building.json .text),
    (units "floor".toList, address.floor.json .text),
    (units "apartment".toList, address.apartment.json .text),
    (units "landmark".toList, address.landmark.json .text),
    (units "postalCode".toList, address.postalCode.json .text),
    (units "instructions".toList, address.instructions.json .text)]

def CheckoutConsentDto.entries (consent : CheckoutConsentDto) : List (Units × Option Value) :=
  [(units "ageConfirmed".toList, some (.boolean consent.ageConfirmed)),
    (units "termsAccepted".toList, some (.boolean consent.termsAccepted)),
    (units "privacyAccepted".toList, some (.boolean consent.privacyAccepted)),
    (units "termsDocumentVersionId".toList, consent.termsDocumentVersionId.json IdText.json),
    (units "privacyDocumentVersionId".toList, consent.privacyDocumentVersionId.json IdText.json)]

def objectOf {A : Type} (entries : A -> List (Units × Option Value)) (content : A) : Value :=
  .object (defined (entries content))

def CheckoutOrderDto.entries (input : CheckoutOrderDto) : List (Units × Option Value) :=
  [(units "items".toList, some (.array (input.items.map (objectOf CheckoutQuoteItemDto.entries)))),
    (units "localityId".toList, input.localityId.json IdText.json),
    (units "pickupLocationId".toList, input.pickupLocationId.json IdText.json),
    (units "express".toList, input.express.json .boolean),
    (units "customerName".toList, some (.text input.customerName)),
    (units "phone".toList, some (.text input.phone)),
    (units "email".toList, input.email.json .text),
    (units "address".toList, input.address.json (objectOf CheckoutAddressDto.entries)),
    (units "consent".toList, some (objectOf CheckoutConsentDto.entries input.consent))]

end Values

variable (localeCompare : Units -> Units -> Ordering)

def notAfter (left right : Units) : Prop :=
  (localeCompare left right).isLE = true

instance (left right : Units) : Decidable (notAfter localeCompare left right) :=
  inferInstanceAs (Decidable (_ = true))

def sortedByKey (fields : List (Units × Value)) : List (Units × Value) :=
  fields.insertionSort fun left right => notAfter localeCompare left.1 right.1

-- The entries are canonicalized before they are sorted, which their order does not depend on.
mutual

def canonicalize : Value -> Value
  | .null => .null
  | .boolean value => .boolean value
  | .number value => .number value
  | .text value => .text value
  | .array items => .array (canonicalizeItems items)
  | .object fields => .object (sortedByKey localeCompare (canonicalizeFields fields))

def canonicalizeItems : List Value -> List Value
  | [] => []
  | item :: rest => canonicalize item :: canonicalizeItems rest

def canonicalizeFields : List (Units × Value) -> List (Units × Value)
  | [] => []
  | (key, value) :: rest => (key, canonicalize value) :: canonicalizeFields rest

end

def byVariant (items : List CheckoutQuoteItemDto) : List CheckoutQuoteItemDto :=
  items.insertionSort fun left right => notAfter localeCompare left.variantId.text right.variantId.text

def normalized (input : CheckoutOrderDto) : CheckoutOrderDto :=
  { input with
    express := .value (input.express.orElse false)
    items := byVariant localeCompare input.items
    sized := by simpa [byVariant, List.length_insertionSort] using input.sized }

def canonicalText (input : CheckoutOrderDto) : Units :=
  stringify (canonicalize localeCompare (objectOf CheckoutOrderDto.entries (normalized localeCompare input)))

def checkoutRequestFingerprint {Digest : Type} (sha256 : Units -> Digest) (input : CheckoutOrderDto) : Digest :=
  sha256 (canonicalText localeCompare input)

section Canonical

variable {localeCompare}

theorem canonicalizeItems_map (items : List Value) :
    canonicalizeItems localeCompare items = items.map (canonicalize localeCompare) := by
  induction items with
  | nil => rfl
  | cons item rest ih => rw [canonicalizeItems, ih, List.map_cons]

theorem canonicalizeFields_map (fields : List (Units × Value)) :
    canonicalizeFields localeCompare fields =
      fields.map fun field => (field.1, canonicalize localeCompare field.2) := by
  induction fields with
  | nil => rfl
  | cons field rest ih => rw [canonicalizeFields, ih, List.map_cons]

-- A canonical object still has the entry of each key.
theorem canonical_entry {entries : List (Units × Option Value)} (keys : (entries.map Prod.fst).Nodup)
    {key : Units} {value : Option Value} (entry : (key, value) ∈ entries) (content : Value) :
    (key, content) ∈ sortedByKey localeCompare (canonicalizeFields localeCompare (defined entries)) <->
      value.map (canonicalize localeCompare) = some content := by
  rw [sortedByKey, List.mem_insertionSort, canonicalizeFields_map]
  simp only [List.mem_map, defined, List.mem_filterMap, Option.map_eq_some_iff]
  constructor
  next =>
    rintro ⟨_, ⟨⟨name, given⟩, member, plain, present, rfl⟩, same⟩
    cases same
    cases List.inj_on_of_nodup_map keys member entry rfl
    exact ⟨plain, present, rfl⟩
  next =>
    rintro ⟨plain, present, rfl⟩
    exact ⟨(key, plain), ⟨(key, value), entry, plain, present, rfl⟩, rfl⟩

theorem same_entry {entries others : List (Units × Option Value)} (keys : (entries.map Prod.fst).Nodup)
    (names : (others.map Prod.fst).Nodup)
    (same : canonicalize localeCompare (.object (defined entries)) =
      canonicalize localeCompare (.object (defined others)))
    {key : Units} {value other : Option Value} (entry : (key, value) ∈ entries)
    (counterpart : (key, other) ∈ others) :
    value.map (canonicalize localeCompare) = other.map (canonicalize localeCompare) := by
  simp only [canonicalize, Value.object.injEq] at same
  apply Option.ext
  intro content
  have left := @canonical_entry localeCompare entries keys key value entry content
  rw [same, canonical_entry names counterpart content] at left
  exact left.symm

theorem same_at {entries others : List (Units × Option Value)} (keys : (entries.map Prod.fst).Nodup)
    (names : (others.map Prod.fst).Nodup)
    (same : canonicalize localeCompare (.object (defined entries)) =
      canonicalize localeCompare (.object (defined others)))
    (index : Nat) {key : Units} {value other : Option Value} (entry : entries[index]? = some (key, value))
    (counterpart : others[index]? = some (key, other)) :
    value.map (canonicalize localeCompare) = other.map (canonicalize localeCompare) :=
  same_entry keys names same (List.mem_of_getElem? entry) (List.mem_of_getElem? counterpart)

-- A part of a request that can be read from its canonical value.
structure Readable {A : Type} (json : A -> Value) : Prop where
  injective : forall content other,
    canonicalize localeCompare (json content) = canonicalize localeCompare (json other) -> content = other
  present : forall content, canonicalize localeCompare (json content) ≠ .null

theorem required_same {A : Type} {json : A -> Value} (readable : @Readable localeCompare A json) {content other : A}
    (same : (some (json content)).map (canonicalize localeCompare) =
      (some (json other)).map (canonicalize localeCompare)) : content = other :=
  readable.injective content other (Option.some.inj same)

theorem given_same {A : Type} {json : A -> Value} (readable : @Readable localeCompare A json)
    {content other : Given A}
    (same : (content.json json).map (canonicalize localeCompare) =
      (other.json json).map (canonicalize localeCompare)) : content = other := by
  cases content with
  | omitted =>
    cases other with
    | omitted => rfl
    | null => cases same
    | value given => cases same
  | null =>
    cases other with
    | omitted => cases same
    | null => rfl
    | value given =>
      simp only [Given.json, Option.map_some, Option.some.injEq, canonicalize] at same
      exact absurd same.symm (readable.present given)
  | value content =>
    cases other with
    | omitted => cases same
    | null =>
      simp only [Given.json, Option.map_some, Option.some.injEq, canonicalize] at same
      exact absurd same (readable.present content)
    | value given => rw [readable.injective content given (Option.some.inj same)]

theorem text_readable : @Readable localeCompare Units .text :=
  ⟨fun _ _ same => by simpa [canonicalize] using same, fun _ => by simp [canonicalize]⟩

theorem boolean_readable : @Readable localeCompare Bool .boolean :=
  ⟨fun _ _ same => by simpa [canonicalize] using same, fun _ => by simp [canonicalize]⟩

theorem number_readable : @Readable localeCompare Nat .number :=
  ⟨fun _ _ same => by simpa [canonicalize] using same, fun _ => by simp [canonicalize]⟩

theorem id_readable : @Readable localeCompare IdText IdText.json := by
  refine ⟨fun id other same => ?_, fun _ => by simp [IdText.json, canonicalize]⟩
  cases id
  cases other
  simp only [IdText.json, canonicalize, Value.text.injEq] at same
  cases same
  rfl

theorem array_readable {A : Type} {json : A -> Value} (readable : @Readable localeCompare A json) :
    @Readable localeCompare (List A) fun items => .array (items.map json) := by
  refine ⟨fun items others same => ?_, fun _ => by simp [canonicalize]⟩
  simp only [canonicalize, canonicalizeItems_map, List.map_map, Value.array.injEq] at same
  exact List.map_injective_iff.2 (fun item other => readable.injective item other) same

theorem item_readable : @Readable localeCompare CheckoutQuoteItemDto (objectOf CheckoutQuoteItemDto.entries) := by
  have keys : forall item : CheckoutQuoteItemDto, (item.entries.map Prod.fst).Nodup := by
    intro item
    simp only [CheckoutQuoteItemDto.entries, List.map_cons, List.map_nil]
    decide +kernel
  refine ⟨fun item other same => ?_, fun _ => by simp [objectOf, canonicalize]⟩
  have variantId := required_same id_readable (same_at (keys item) (keys other) same 0 rfl rfl)
  have quantity := required_same number_readable (same_at (keys item) (keys other) same 1 rfl rfl)
  cases item
  cases other
  cases variantId
  cases quantity
  rfl

theorem address_readable :
    @Readable localeCompare CheckoutAddressDto (objectOf CheckoutAddressDto.entries) := by
  have keys : forall address : CheckoutAddressDto, (address.entries.map Prod.fst).Nodup := by
    intro address
    simp only [CheckoutAddressDto.entries, List.map_cons, List.map_nil]
    decide +kernel
  refine ⟨fun address other same => ?_, fun _ => by simp [objectOf, canonicalize]⟩
  have street := required_same text_readable (same_at (keys address) (keys other) same 0 rfl rfl)
  have building := given_same text_readable (same_at (keys address) (keys other) same 1 rfl rfl)
  have floor := given_same text_readable (same_at (keys address) (keys other) same 2 rfl rfl)
  have apartment := given_same text_readable (same_at (keys address) (keys other) same 3 rfl rfl)
  have landmark := given_same text_readable (same_at (keys address) (keys other) same 4 rfl rfl)
  have postalCode := given_same text_readable (same_at (keys address) (keys other) same 5 rfl rfl)
  have instructions := given_same text_readable (same_at (keys address) (keys other) same 6 rfl rfl)
  cases address
  cases other
  simp_all only

theorem consent_readable :
    @Readable localeCompare CheckoutConsentDto (objectOf CheckoutConsentDto.entries) := by
  have keys : forall consent : CheckoutConsentDto, (consent.entries.map Prod.fst).Nodup := by
    intro consent
    simp only [CheckoutConsentDto.entries, List.map_cons, List.map_nil]
    decide +kernel
  refine ⟨fun consent other same => ?_, fun _ => by simp [objectOf, canonicalize]⟩
  have age := required_same boolean_readable (same_at (keys consent) (keys other) same 0 rfl rfl)
  have terms := required_same boolean_readable (same_at (keys consent) (keys other) same 1 rfl rfl)
  have privacy := required_same boolean_readable (same_at (keys consent) (keys other) same 2 rfl rfl)
  have termsDocument := given_same id_readable (same_at (keys consent) (keys other) same 3 rfl rfl)
  have privacyDocument := given_same id_readable (same_at (keys consent) (keys other) same 4 rfl rfl)
  cases consent
  cases other
  simp_all only

theorem order_readable : @Readable localeCompare CheckoutOrderDto (objectOf CheckoutOrderDto.entries) := by
  have keys : forall input : CheckoutOrderDto, (input.entries.map Prod.fst).Nodup := by
    intro input
    simp only [CheckoutOrderDto.entries, List.map_cons, List.map_nil]
    decide +kernel
  refine ⟨fun input other same => ?_, fun _ => by simp [objectOf, canonicalize]⟩
  have items := required_same (array_readable item_readable) (same_at (keys input) (keys other) same 0 rfl rfl)
  have localityId := given_same id_readable (same_at (keys input) (keys other) same 1 rfl rfl)
  have pickupLocationId := given_same id_readable (same_at (keys input) (keys other) same 2 rfl rfl)
  have express := given_same boolean_readable (same_at (keys input) (keys other) same 3 rfl rfl)
  have customerName := required_same text_readable (same_at (keys input) (keys other) same 4 rfl rfl)
  have phone := required_same text_readable (same_at (keys input) (keys other) same 5 rfl rfl)
  have email := given_same text_readable (same_at (keys input) (keys other) same 6 rfl rfl)
  have address := given_same address_readable (same_at (keys input) (keys other) same 7 rfl rfl)
  have consent := required_same consent_readable (same_at (keys input) (keys other) same 8 rfl rfl)
  cases input
  cases other
  simp_all only

end Canonical

section Requests

-- What the documentation of `localeCompare` says; ids of ASCII letters, digits and marks differ for it.
structure Collates : Prop where
  swapped : forall left right, localeCompare left right = (localeCompare right left).swap
  trans : forall first second third, notAfter localeCompare first second ->
    notAfter localeCompare second third -> notAfter localeCompare first third
  ids : forall left right : IdText, localeCompare left.text right.text = .eq -> left = right

-- One request, whatever the order of its items; no `express` is `false`.
structure SameRequest (left right : CheckoutOrderDto) : Prop where
  items : left.items.Perm right.items
  localityId : left.localityId = right.localityId
  pickupLocationId : left.pickupLocationId = right.pickupLocationId
  express : left.express.orElse false = right.express.orElse false
  customerName : left.customerName = right.customerName
  phone : left.phone = right.phone
  email : left.email = right.email
  address : left.address = right.address
  consent : left.consent = right.consent

-- What order creation asks for before it takes the fingerprint.
def DistinctItems (input : CheckoutOrderDto) : Prop :=
  (input.items.map CheckoutQuoteItemDto.variantId).Nodup

variable {localeCompare}

theorem same_of_normalized {left right : CheckoutOrderDto}
    (same : normalized localeCompare left = normalized localeCompare right) : SameRequest left right := by
  simp only [normalized, CheckoutOrderDto.mk.injEq, Given.value.injEq] at same
  obtain ⟨items, locality, pickup, express, name, phone, email, address, consent⟩ := same
  have permuted : left.items.Perm right.items := by
    have there := List.perm_insertionSort (fun left right : CheckoutQuoteItemDto =>
      notAfter localeCompare left.variantId.text right.variantId.text) left.items
    have here := List.perm_insertionSort (fun left right : CheckoutQuoteItemDto =>
      notAfter localeCompare left.variantId.text right.variantId.text) right.items
    unfold byVariant at items
    rw [items] at there
    exact there.symm.trans here
  exact ⟨permuted, locality, pickup, express, name, phone, email, address, consent⟩

-- Items of distinct variants have one order.
theorem byVariant_perm (collates : Collates localeCompare) {items others : List CheckoutQuoteItemDto}
    (distinct : (items.map CheckoutQuoteItemDto.variantId).Nodup) (permuted : items.Perm others) :
    byVariant localeCompare items = byVariant localeCompare others := by
  let before := fun left right : CheckoutQuoteItemDto =>
    notAfter localeCompare left.variantId.text right.variantId.text
  have total : Std.Total before := by
    refine ⟨fun left right => ?_⟩
    have swapped := collates.swapped left.variantId.text right.variantId.text
    simp only [before, notAfter]
    cases order : localeCompare right.variantId.text left.variantId.text <;> simp_all
  have trans : IsTrans _ before := ⟨fun _ _ _ => collates.trans _ _ _⟩
  have sorted := List.perm_insertionSort before items
  have ordered := List.perm_insertionSort before others
  refine List.Perm.eq_of_pairwise ?_ (List.pairwise_insertionSort before items)
    (List.pairwise_insertionSort before others) (sorted.trans (permuted.trans ordered.symm))
  intro left right here there first second
  have equal : localeCompare left.variantId.text right.variantId.text = .eq := by
    have swapped := collates.swapped left.variantId.text right.variantId.text
    simp only [before, notAfter] at first second
    cases order : localeCompare right.variantId.text left.variantId.text <;> simp_all
  exact List.inj_on_of_nodup_map distinct (sorted.mem_iff.1 here)
    (permuted.mem_iff.2 (ordered.mem_iff.1 there)) (collates.ids _ _ equal)

theorem normalized_of_same (collates : Collates localeCompare) {left right : CheckoutOrderDto}
    (distinct : DistinctItems left) (same : SameRequest left right) :
    normalized localeCompare left = normalized localeCompare right := by
  simp only [normalized, CheckoutOrderDto.mk.injEq, Given.value.injEq]
  exact ⟨byVariant_perm collates distinct same.items, same.localityId, same.pickupLocationId, same.express,
    same.customerName, same.phone, same.email, same.address, same.consent⟩

theorem fingerprint_same {Digest : Type} {sha256 : Units -> Digest} (injective : Function.Injective sha256)
    {left right : CheckoutOrderDto} :
    checkoutRequestFingerprint localeCompare sha256 left = checkoutRequestFingerprint localeCompare sha256 right <->
      normalized localeCompare left = normalized localeCompare right := by
  constructor
  next => exact fun equal => order_readable.injective _ _ (stringify_injective (injective equal))
  next =>
    intro same
    rw [checkoutRequestFingerprint, checkoutRequestFingerprint, canonicalText, canonicalText, same]

/--
Requests whose items are of distinct variants have one fingerprint exactly if they are one
request up to the order of the items and a missing `express`; other requests with one
fingerprint are one request too.
-/
theorem fingerprint_exact {Digest : Type} {sha256 : Units -> Digest} (collates : Collates localeCompare)
    (injective : Function.Injective sha256) (left right : CheckoutOrderDto) :
    (checkoutRequestFingerprint localeCompare sha256 left = checkoutRequestFingerprint localeCompare sha256 right ->
      SameRequest left right) /\
    (DistinctItems left ->
      (checkoutRequestFingerprint localeCompare sha256 left =
          checkoutRequestFingerprint localeCompare sha256 right <-> SameRequest left right)) := by
  rw [fingerprint_same injective]
  refine ⟨same_of_normalized, fun distinct => ⟨same_of_normalized, fun same => ?_⟩⟩
  exact normalized_of_same collates distinct same

-- The requests of the order service, as the bodies they came from.
section Orders

open VapeCommerce.Database VapeCommerce.Schema

variable (spelled : Id -> IdText)

def Given.ofOption {A B : Type} (written : A -> B) : Option A -> Given B
  | none => .omitted
  | some content => .value (written content)

def writtenText (text : Text) : Units :=
  units text

def writtenItem (item : CheckoutItem) : CheckoutQuoteItemDto where
  variantId := spelled item.variantId
  quantity := item.quantity.toNat
  bounds := by have := item.bounds; omega

def writtenAddress (address : CheckoutAddress) : CheckoutAddressDto where
  street := writtenText address.street
  building := .ofOption writtenText address.building
  floor := .ofOption writtenText address.floor
  apartment := .ofOption writtenText address.apartment
  landmark := .ofOption writtenText address.landmark
  postalCode := .ofOption writtenText address.postalCode
  instructions := .ofOption writtenText address.instructions

def writtenConsent (consent : CheckoutConsent) : CheckoutConsentDto where
  ageConfirmed := consent.ageConfirmed
  termsAccepted := consent.termsAccepted
  privacyAccepted := consent.privacyAccepted
  termsDocumentVersionId := .ofOption spelled consent.termsDocumentVersionId
  privacyDocumentVersionId := .ofOption spelled consent.privacyDocumentVersionId

def writtenOrder (input : CheckoutOrder) : CheckoutOrderDto where
  items := input.items.map (writtenItem spelled)
  sized := by simpa using input.sized
  localityId := .ofOption spelled input.localityId
  pickupLocationId := .ofOption spelled input.pickupLocationId
  express := .ofOption id input.express
  customerName := writtenText input.customerName
  phone := writtenText input.phone
  email := .ofOption writtenText input.email
  address := .ofOption writtenAddress input.address
  consent := writtenConsent spelled input.consent

variable {spelled}

theorem ofOption_injective {A B : Type} {written : A -> B} (injective : Function.Injective written) :
    Function.Injective (Given.ofOption written) := by
  intro content other same
  cases content with
  | none => cases other with
    | none => rfl
    | some _ => cases same
  | some content => cases other with
    | none => cases same
    | some other => rw [injective (Given.value.inj same)]

theorem writtenItem_injective (injective : Function.Injective spelled) :
    Function.Injective (writtenItem spelled) := by
  intro item other same
  have variantId := injective (congrArg CheckoutQuoteItemDto.variantId same)
  have quantity : item.quantity.toNat = other.quantity.toNat := congrArg CheckoutQuoteItemDto.quantity same
  have low := item.bounds
  have high := other.bounds
  cases item
  cases other
  simp only [CheckoutItem.mk.injEq] at *
  exact ⟨variantId, by omega⟩

theorem writtenAddress_injective : Function.Injective writtenAddress := by
  intro address other same
  have given := @ofOption_injective Text Units writtenText units_injective
  cases address
  cases other
  simp only [writtenAddress, CheckoutAddressDto.mk.injEq, CheckoutAddress.mk.injEq] at same ⊢
  obtain ⟨street, building, floor, apartment, landmark, postalCode, instructions⟩ := same
  exact ⟨units_injective street, given building, given floor, given apartment, given landmark,
    given postalCode, given instructions⟩

theorem writtenConsent_injective (injective : Function.Injective spelled) :
    Function.Injective (writtenConsent spelled) := by
  intro consent other same
  cases consent
  cases other
  simp only [writtenConsent, CheckoutConsentDto.mk.injEq, CheckoutConsent.mk.injEq] at same ⊢
  obtain ⟨age, terms, privacy, termsDocument, privacyDocument⟩ := same
  exact ⟨age, terms, privacy, ofOption_injective injective termsDocument,
    ofOption_injective injective privacyDocument⟩

theorem byVariant_same {items others : List CheckoutItem} (distinct : (items.map (·.variantId)).Nodup) :
    Order.byVariant items = Order.byVariant others <-> items.Perm others := by
  let before := fun left right : CheckoutItem => left.variantId <= right.variantId
  have total : Std.Total before := ⟨fun left right => Nat.le_total _ _⟩
  have trans : IsTrans _ before := ⟨fun _ _ _ => Nat.le_trans⟩
  have sorted := List.perm_insertionSort before items
  have ordered := List.perm_insertionSort before others
  constructor
  next =>
    intro same
    change List.insertionSort before items = List.insertionSort before others at same
    rw [same] at sorted
    exact sorted.symm.trans ordered
  next =>
    intro permuted
    refine List.Perm.eq_of_pairwise ?_ (List.pairwise_insertionSort before items)
      (List.pairwise_insertionSort before others) (sorted.trans (permuted.trans ordered.symm))
    intro left right here there first second
    exact List.inj_on_of_nodup_map distinct (sorted.mem_iff.1 here)
      (permuted.mem_iff.2 (ordered.mem_iff.1 there)) (Nat.le_antisymm first second)

theorem writtenOrder_same (injective : Function.Injective spelled) {left right : CheckoutOrder}
    (distinct : (left.items.map (·.variantId)).Nodup) :
    SameRequest (writtenOrder spelled left) (writtenOrder spelled right) <->
      Order.checkoutRequestFingerprint left = Order.checkoutRequestFingerprint right := by
  have express : forall input : CheckoutOrder,
      (writtenOrder spelled input).express.orElse false = input.express.getD false := by
    intro input
    rw [writtenOrder]
    cases input.express <;> rfl
  have ids := ofOption_injective injective
  have texts := @ofOption_injective Text Units writtenText units_injective
  simp only [Order.checkoutRequestFingerprint, CheckoutOrder.mk.injEq, byVariant_same distinct,
    Option.some.injEq]
  constructor
  next =>
    intro same
    have given := same.express
    rw [express, express] at given
    exact ⟨(List.map_perm_map_iff (writtenItem_injective injective)).1 same.items, ids same.localityId,
      ids same.pickupLocationId, given, units_injective same.customerName, units_injective same.phone,
      texts same.email, ofOption_injective writtenAddress_injective same.address,
      writtenConsent_injective injective same.consent⟩
  next =>
    rintro ⟨items, locality, pickup, given, name, phone, email, address, consent⟩
    refine ⟨items.map _, ?_, ?_, ?_, ?_, ?_, ?_, ?_, ?_⟩
    next => exact congrArg (Given.ofOption spelled) locality
    next => exact congrArg (Given.ofOption spelled) pickup
    next => rw [express, express, given]
    next => exact congrArg writtenText name
    next => exact congrArg writtenText phone
    next => exact congrArg (Given.ofOption writtenText) email
    next => exact congrArg (Given.ofOption writtenAddress) address
    next => exact congrArg (writtenConsent spelled) consent

/-- The order service may compare requests instead of the digests of their texts. -/
theorem fingerprint_of_order {Digest : Type} {sha256 : Units -> Digest} (collates : Collates localeCompare)
    (hashed : Function.Injective sha256) (injective : Function.Injective spelled) {left right : CheckoutOrder}
    (distinct : (left.items.map (·.variantId)).Nodup) :
    checkoutRequestFingerprint localeCompare sha256 (writtenOrder spelled left) =
        checkoutRequestFingerprint localeCompare sha256 (writtenOrder spelled right) <->
      Order.checkoutRequestFingerprint left = Order.checkoutRequestFingerprint right := by
  have items : DistinctItems (writtenOrder spelled left) := by
    have names := distinct.map injective
    rw [List.map_map] at names
    unfold DistinctItems
    rw [writtenOrder, List.map_map]
    exact names
  rw [<- writtenOrder_same injective distinct, fingerprint_same hashed]
  exact ⟨same_of_normalized, normalized_of_same collates items⟩

end Orders

-- Comparing unit by unit, as the real order does on ids of one case.
def byUnits (left right : Units) : Ordering :=
  compare left right

theorem byUnits_collates : Collates byUnits := by
  constructor
  next => exact fun left right => @Std.OrientedCmp.eq_swap Units compare _ left right
  next => exact fun first second third => @Std.TransCmp.isLE_trans Units compare _ first second third
  next =>
    intro left right equal
    cases left
    cases right
    cases @Std.LawfulEqCmp.eq_of_compare Units compare _ _ _ equal
    rfl

def variant (name : String) (sized : 1 <= (units name.toList).length /\ (units name.toList).length <= 30)
    (pattern : (units name.toList).all idCharacter = true) : IdText :=
  { text := units name.toList, sized, pattern }

def ordered (items : List CheckoutQuoteItemDto) (sized : 1 <= items.length /\ items.length <= 50)
    (express : Given Bool) : CheckoutOrderDto where
  items := items
  sized := sized
  localityId := .value (variant "locality-1" (by decide +kernel) (by decide +kernel))
  pickupLocationId := .omitted
  express := express
  customerName := units "Customer Name".toList
  phone := units "+21620111222".toList
  email := .omitted
  address := .value {
    street := units "1 Example Street".toList
    building := .omitted
    floor := .omitted
    apartment := .omitted
    landmark := .omitted
    postalCode := .value (units "1000".toList)
    instructions := .omitted }
  consent := {
    ageConfirmed := true
    termsAccepted := true
    privacyAccepted := true
    termsDocumentVersionId := .omitted
    privacyDocumentVersionId := .omitted }

def lineOf (name : String) (sized : 1 <= (units name.toList).length /\ (units name.toList).length <= 30)
    (pattern : (units name.toList).all idCharacter = true) (quantity : Nat)
    (bounds : 1 <= quantity /\ quantity <= 20) : CheckoutQuoteItemDto :=
  { variantId := variant name sized pattern, quantity, bounds }

def variantA : CheckoutQuoteItemDto := lineOf "variant-a" (by decide +kernel) (by decide +kernel) 1 (by decide)
def variantB : CheckoutQuoteItemDto := lineOf "variant-b" (by decide +kernel) (by decide +kernel) 2 (by decide)
def moreOfA : CheckoutQuoteItemDto := lineOf "variant-a" (by decide +kernel) (by decide +kernel) 2 (by decide)

theorem ordered_same {items others : List CheckoutQuoteItemDto} {sized : 1 <= items.length /\ items.length <= 50}
    {within : 1 <= others.length /\ others.length <= 50} {express given : Given Bool}
    (permuted : items.Perm others) (same : express.orElse false = given.orElse false) :
    SameRequest (ordered items sized express) (ordered others within given) :=
  ⟨permuted, rfl, rfl, same, rfl, rfl, rfl, rfl, rfl⟩

theorem reordered_request_replays :
    checkoutRequestFingerprint byUnits id (ordered [variantB, variantA] (by decide) .omitted) =
      checkoutRequestFingerprint byUnits id (ordered [variantA, variantB] (by decide) (.value false)) := by
  refine ((fingerprint_exact byUnits_collates Function.injective_id _ _).2 ?_).2 ?_
  next =>
    unfold DistinctItems
    decide +kernel
  next => exact ordered_same (List.Perm.swap _ _ _) rfl

-- Two lines of one variant keep their order.
theorem repeated_variant_kept_apart :
    [variantA, moreOfA].Perm [moreOfA, variantA] /\
      checkoutRequestFingerprint byUnits id (ordered [variantA, moreOfA] (by decide) .omitted) ≠
        checkoutRequestFingerprint byUnits id (ordered [moreOfA, variantA] (by decide) .omitted) :=
  ⟨List.Perm.swap _ _ _, by decide +kernel⟩

end Requests

end VapeCommerce.Checkout.Fingerprint
