import Mathlib.Data.List.Induction
import VapeCommerce.Lib.Outcome
import VapeCommerce.Lib.Utf8

set_option autoImplicit false

-- backup-format.mjs: the authentication of a backup manifest.
namespace VapeCommerce.Recovery.ManifestAuthentication

open VapeCommerce.Lib.Outcome VapeCommerce.Lib.CanonicalJson VapeCommerce.Lib.Utf8
open VapeCommerce.Lib.PercentEncoding (Units units)
open VapeCommerce.Lib.Json (hexUnit hexValue)

section Code

abbrev Bytes := List UInt8

structure Digest where
  bytes : Bytes
  size : bytes.length = 32
deriving DecidableEq

-- node:crypto
structure Crypto where
  hkdfSha256 : (key salt info : Bytes) -> (length : Nat) -> Bytes
  hmacSha256 : (key data : Bytes) -> Digest

structure Manifest where
  fields : List (Units × Value)
  distinct : wellFormed (.object fields) = true

def Manifest.value (manifest : Manifest) : Value :=
  .object manifest.fields

def written (text : String) : Units :=
  units text.toList

def manifestAuthenticationInfo : Bytes :=
  utf8 (written "tunisia-vape-backup-manifest-v2")

-- A property that is read with `?.`: undefined unless an object has it.
def property (name : String) : Value -> Option Value
  | .object fields => fields.lookup (written name)
  | _ => none

def authenticatedManifest (manifest : Manifest) : Manifest where
  fields := manifest.fields.filter fun field => field.1 != written "manifestAuthentication"
  distinct := by
    obtain ⟨names, each⟩ := wellFormed_object.1 manifest.distinct
    exact wellFormed_object.2 ⟨names.sublist (List.filter_sublist.map Prod.fst),
      fun field member => each field (List.mem_filter.1 member).1⟩

-- `digest('hex')`
def hex (bytes : Bytes) : Units :=
  bytes.flatMap fun byte => [hexUnit (byte.toNat / 16), hexUnit (byte.toNat % 16)]

-- `Buffer.from(text, 'hex')` of a text of hexadecimal digits.
def fromHex : Units -> Bytes
  | high :: low :: rest => UInt8.ofNat (16 * hexValue high + hexValue low) :: fromHex rest
  | _ => []

def isHexUnit (unit : UInt16) : Bool :=
  (0x61 <= unit.toNat && unit.toNat <= 0x66) || (0x30 <= unit.toNat && unit.toNat <= 0x39)

-- The test of `value`: 64 units of a-f and 0-9.
def isDigestText (text : Units) : Bool :=
  text.length == 64 && text.all isHexUnit

variable (crypto : Crypto)

def authenticationKey (key : Bytes) : Bytes :=
  crypto.hkdfSha256 key [] manifestAuthenticationInfo 32

def signedBytes (manifest : Manifest) : Bytes :=
  utf8 (canonicalJson (authenticatedManifest manifest).value)

def manifestAuthenticationValue (manifest : Manifest) (key : Bytes) : Units :=
  hex (crypto.hmacSha256 (authenticationKey crypto key) (signedBytes manifest)).bytes

def createManifestAuthentication (manifest : Manifest) (key : Bytes) : Value :=
  .object [
    (written "algorithm", .text (written "HMAC-SHA256")),
    (written "value", .text (manifestAuthenticationValue crypto manifest key))]

def textOf? : Option Value -> Option Units
  | some (.text value) => some value
  | _ => none

def verifyManifestAuthentication (manifest : Manifest) (key : Bytes) : Except String Unit := do
  let authentication := property "manifestAuthentication" manifest.value
  let supplied <- orThrow (textOf? (authentication.bind (property "value")))
    "Backup manifest authentication is missing or invalid"
  throwIf (textOf? (authentication.bind (property "algorithm")) ≠ some (written "HMAC-SHA256") \/
      isDigestText supplied = false)
    "Backup manifest authentication is missing or invalid"
  let actual := fromHex supplied
  let expected := fromHex (manifestAuthenticationValue crypto manifest key)
  throwIf (actual.length ≠ expected.length \/ actual ≠ expected) "Backup manifest authentication failed"

end Code

section Statement

variable (crypto : Crypto) (key : Bytes)

-- The two texts that are signed do not collide under the key.
def CollisionFree (first second : Manifest) : Prop :=
  crypto.hmacSha256 (authenticationKey crypto key) (signedBytes first) =
      crypto.hmacSha256 (authenticationKey crypto key) (signedBytes second) ->
    signedBytes first = signedBytes second

-- Equal but for the authentication field, an infinite number counting as null.
def Equal (first second : Manifest) : Prop :=
  Same (nullified (authenticatedManifest first).value) (nullified (authenticatedManifest second).value)

def authenticationOf (manifest : Manifest) : Option Value :=
  property "manifestAuthentication" manifest.value

-- The authentication field holds the algorithm and the value that were produced.
structure Carries (manifest : Manifest) (produced : Value) : Prop where
  algorithm : (authenticationOf manifest).bind (property "algorithm") = property "algorithm" produced
  value : (authenticationOf manifest).bind (property "value") = property "value" produced

end Statement

section Hexadecimal

theorem hexUnit_read : forall digit : Fin 16,
    isHexUnit (hexUnit digit) = true /\ hexValue (hexUnit digit) = digit.val := by
  decide

theorem fromHex_hex (bytes : Bytes) : fromHex (hex bytes) = bytes := by
  induction bytes with
  | nil => rfl
  | cons byte rest ih =>
    have bound : byte.toNat < 256 := byte.toNat_lt
    have high := (hexUnit_read ⟨byte.toNat / 16, by omega⟩).2
    have low := (hexUnit_read ⟨byte.toNat % 16, by omega⟩).2
    simp only at high low
    have whole : 16 * (byte.toNat / 16) + byte.toNat % 16 = byte.toNat := Nat.div_add_mod _ _
    have split : hex (byte :: rest) =
        hexUnit (byte.toNat / 16) :: hexUnit (byte.toNat % 16) :: hex rest := rfl
    rw [split, fromHex, ih, high, low, whole, UInt8.ofNat_toNat]

theorem hexUnit_value {unit : UInt16} (is : isHexUnit unit = true) :
    hexValue unit < 16 /\ hexUnit (hexValue unit) = unit := by
  simp only [isHexUnit, Bool.or_eq_true, Bool.and_eq_true, decide_eq_true_eq] at is
  rcases is with ⟨least, most⟩ | ⟨least, most⟩
  next =>
    have value : hexValue unit = unit.toNat - 0x57 := if_neg (by omega)
    have back : 0x57 + (unit.toNat - 0x57) = unit.toNat := by omega
    rw [hexUnit, value, if_neg (by omega), back, UInt16.ofNat_toNat]
    exact ⟨by omega, rfl⟩
  next =>
    have value : hexValue unit = unit.toNat - 0x30 := if_pos (by omega)
    have back : 0x30 + (unit.toNat - 0x30) = unit.toNat := by omega
    rw [hexUnit, value, if_pos (by omega), back, UInt16.ofNat_toNat]
    exact ⟨by omega, rfl⟩

theorem hex_fromHex {text : Units} (even : text.length % 2 = 0)
    (digits : forall unit, unit ∈ text -> isHexUnit unit = true) : hex (fromHex text) = text := by
  induction text using List.twoStepInduction with
  | nil => rfl
  | singleton high => simp at even
  | cons_cons high low rest ih _ =>
    simp only [List.forall_mem_cons] at digits
    obtain ⟨first, second, later⟩ := digits
    obtain ⟨highBound, highBack⟩ := hexUnit_value first
    obtain ⟨lowBound, lowBack⟩ := hexUnit_value second
    have byte : (UInt8.ofNat (16 * hexValue high + hexValue low)).toNat =
        16 * hexValue high + hexValue low := by
      rw [UInt8.toNat_ofNat']
      exact Nat.mod_eq_of_lt (by omega)
    have leading : (16 * hexValue high + hexValue low) / 16 = hexValue high := by omega
    have trailing : (16 * hexValue high + hexValue low) % 16 = hexValue low := by omega
    have split : hex (fromHex (high :: low :: rest)) =
        hexUnit ((UInt8.ofNat (16 * hexValue high + hexValue low)).toNat / 16) ::
          hexUnit ((UInt8.ofNat (16 * hexValue high + hexValue low)).toNat % 16) :: hex (fromHex rest) := rfl
    rw [split, byte, leading, trailing, highBack, lowBack,
      ih (by simp only [List.length_cons] at even; omega) later]

theorem hex_digestText (digest : Digest) : isDigestText (hex digest.bytes) = true := by
  have units : forall bytes : Bytes, (hex bytes).length = 2 * bytes.length /\
      forall unit, unit ∈ hex bytes -> isHexUnit unit = true := by
    intro bytes
    induction bytes with
    | nil => exact ⟨rfl, by simp [hex]⟩
    | cons byte rest ih =>
      have bound : byte.toNat < 256 := byte.toNat_lt
      have split : hex (byte :: rest) =
          hexUnit (byte.toNat / 16) :: hexUnit (byte.toNat % 16) :: hex rest := rfl
      rw [split]
      constructor
      next =>
        simp only [List.length_cons, ih.1]
        omega
      next =>
        exact List.forall_mem_cons.2 ⟨(hexUnit_read ⟨byte.toNat / 16, by omega⟩).1,
          List.forall_mem_cons.2 ⟨(hexUnit_read ⟨byte.toNat % 16, by omega⟩).1, ih.2⟩⟩
  obtain ⟨length, all⟩ := units digest.bytes
  rw [isDigestText, Bool.and_eq_true, beq_iff_eq, length, digest.size, List.all_eq_true]
  exact ⟨rfl, all⟩

-- The bytes of a text that passes the test are those of a digest only if it is the digest's text.
theorem fromHex_digest {text : Units} (digits : isDigestText text = true) (digest : Digest) :
    fromHex text = digest.bytes <-> text = hex digest.bytes := by
  rw [isDigestText, Bool.and_eq_true, beq_iff_eq, List.all_eq_true] at digits
  constructor
  next =>
    intro same
    rw [<- same, hex_fromHex (by omega) digits.2]
  next =>
    rintro rfl
    exact fromHex_hex _

theorem hex_injective {left right : Digest} (same : hex left.bytes = hex right.bytes) : left = right := by
  have bytes : left.bytes = right.bytes := by
    rw [<- fromHex_hex left.bytes, same, fromHex_hex]
  cases left
  cases right
  cases bytes
  rfl

end Hexadecimal

section Authentication

variable {crypto : Crypto} {key : Bytes}

theorem signed_iff (first second : Manifest) :
    signedBytes first = signedBytes second <-> Equal first second := by
  have texts := canonicalJson_iff (authenticatedManifest first).distinct (authenticatedManifest second).distinct
  refine Iff.trans ?_ texts
  constructor
  next => exact utf8_injective (paired_canonicalJson _) (paired_canonicalJson _)
  next => exact congrArg utf8

theorem value_iff {first second : Manifest} (free : CollisionFree crypto key first second) :
    manifestAuthenticationValue crypto first key = manifestAuthenticationValue crypto second key <->
      Equal first second := by
  rw [<- signed_iff]
  constructor
  next => exact fun same => free (hex_injective same)
  next =>
    intro same
    rw [manifestAuthenticationValue, manifestAuthenticationValue, same]

theorem created_algorithm (manifest : Manifest) :
    property "algorithm" (createManifestAuthentication crypto manifest key) =
      some (.text (written "HMAC-SHA256")) := by
  simp [property, createManifestAuthentication]

theorem created_value (manifest : Manifest) :
    property "value" (createManifestAuthentication crypto manifest key) =
      some (.text (manifestAuthenticationValue crypto manifest key)) := by
  have apart : (written "value" == written "algorithm") = false := by decide
  simp only [property, createManifestAuthentication, List.lookup_cons, apart, beq_self_eq_true]

theorem created_iff (first second : Manifest) :
    createManifestAuthentication crypto first key = createManifestAuthentication crypto second key <->
      manifestAuthenticationValue crypto first key = manifestAuthenticationValue crypto second key := by
  simp [createManifestAuthentication]

theorem textOf_iff (value : Option Value) (text : Units) :
    textOf? value = some text <-> value = some (.text text) := by
  unfold textOf?
  split
  next => simp
  next others =>
    simp only [false_iff, reduceCtorEq]
    exact others text

theorem carries_iff (manifest produced : Manifest) :
    Carries manifest (createManifestAuthentication crypto produced key) <->
      (authenticationOf manifest).bind (property "algorithm") = some (.text (written "HMAC-SHA256")) /\
        (authenticationOf manifest).bind (property "value") =
          some (.text (manifestAuthenticationValue crypto produced key)) := by
  rw [<- @created_algorithm crypto key produced, <- created_value]
  exact ⟨fun carries => ⟨carries.algorithm, carries.value⟩, fun parts => ⟨parts.1, parts.2⟩⟩

/-- A manifest is accepted exactly when it carries what would be produced for it. -/
theorem verify_iff (manifest : Manifest) :
    verifyManifestAuthentication crypto manifest key = .ok () <->
      Carries manifest (createManifestAuthentication crypto manifest key) := by
  rw [carries_iff]
  simp only [verifyManifestAuthentication, bind_ok, orThrow_ok, throwIf_ok, textOf_iff, not_or, ne_eq, not_not,
    Bool.not_eq_false]
  constructor
  next =>
    rintro ⟨supplied, given, ⟨⟩, ⟨algorithm, digits⟩, -, same⟩
    rw [manifestAuthenticationValue, fromHex_hex] at same
    obtain rfl := (fromHex_digest digits _).1 same
    exact ⟨algorithm, given⟩
  next =>
    rintro ⟨algorithm, given⟩
    exact ⟨_, given, (), ⟨algorithm, hex_digestText _⟩, rfl, rfl⟩

theorem carries_equal {manifest produced : Manifest} (equal : Equal manifest produced) :
    Carries manifest (createManifestAuthentication crypto produced key) <->
      Carries manifest (createManifestAuthentication crypto manifest key) := by
  have bytes := (signed_iff manifest produced).2 equal
  rw [carries_iff, carries_iff, manifestAuthenticationValue, manifestAuthenticationValue, bytes]

/-- Manifests share an authentication exactly when they are equal without their authentication field,
    whatever the order of their keys; a manifest is accepted exactly when the algorithm and the value it
    carries were produced from an equal one. -/
theorem manifest_authentication (crypto : Crypto) (key : Bytes) :
    (forall first second, CollisionFree crypto key first second ->
        (createManifestAuthentication crypto first key = createManifestAuthentication crypto second key <->
            Equal first second) /\
          (finite (authenticatedManifest first).value = true ->
            finite (authenticatedManifest second).value = true ->
            (createManifestAuthentication crypto first key = createManifestAuthentication crypto second key <->
              Same (authenticatedManifest first).value (authenticatedManifest second).value))) /\
      (forall manifest, verifyManifestAuthentication crypto manifest key = .ok () <->
        exists produced, Equal manifest produced /\
          Carries manifest (createManifestAuthentication crypto produced key)) /\
      forall manifest produced, CollisionFree crypto key manifest produced ->
        Carries manifest (createManifestAuthentication crypto produced key) ->
        (verifyManifestAuthentication crypto manifest key = .ok () <-> Equal manifest produced) := by
  refine ⟨fun first second free => ?_, fun manifest => ?_, fun manifest produced free carries => ?_⟩
  next =>
    have shared := (@created_iff crypto key first second).trans (value_iff free)
    refine ⟨shared, fun only also => ?_⟩
    rw [shared, Equal, nullified_finite only, nullified_finite also]
  next =>
    rw [verify_iff]
    constructor
    next => exact fun carries => ⟨manifest, (signed_iff manifest manifest).1 rfl, carries⟩
    next =>
      rintro ⟨produced, equal, carries⟩
      exact (carries_equal equal).1 carries
  next =>
    rw [verify_iff]
    constructor
    next =>
      intro own
      have value := own.value.symm.trans carries.value
      rw [created_value, created_value, Option.some.injEq, Value.text.injEq] at value
      exact (value_iff free).1 value
    next => exact fun equal => (carries_equal equal).1 carries

end Authentication

namespace Sample

def derivedKey : Bytes :=
  [153, 64, 19, 43, 250, 231, 83, 216, 217, 247, 249, 166, 181, 17, 142, 187, 235, 21, 50, 220, 49, 5, 171, 81,
    8, 197, 212, 64, 163, 1, 140, 172]

def digestOfOne : Digest where
  bytes := [232, 217, 143, 26, 41, 183, 71, 177, 246, 53, 93, 233, 165, 109, 38, 89, 43, 50, 222, 39, 61, 223,
    255, 21, 203, 44, 3, 174, 28, 52, 167, 28]
  size := by decide

def digestOfTwo : Digest where
  bytes := [160, 126, 5, 160, 171, 122, 153, 195, 110, 98, 194, 130, 97, 5, 68, 181, 111, 108, 206, 243, 158, 67,
    101, 110, 158, 217, 173, 252, 179, 219, 163, 101]
  size := by decide

def digestOfNull : Digest where
  bytes := [94, 12, 28, 214, 228, 102, 15, 158, 119, 220, 91, 138, 107, 230, 113, 246, 154, 238, 177, 176, 20, 129,
    204, 91, 208, 212, 232, 44, 121, 182, 161, 42]
  size := by decide

-- The values of the key of 32 zero bytes.
def crypto : Crypto where
  hkdfSha256 _ _ _ _ := derivedKey
  hmacSha256 _ data :=
    if data = utf8 (written "\x7b\"a\":1\x7d") then digestOfOne
    else if data = utf8 (written "\x7b\"a\":1,\"b\":[true]\x7d") then digestOfTwo
    else digestOfNull

def key : Bytes :=
  List.replicate 32 0

def one : Value :=
  .number (.decimal false { value := 1, shortest := by decide } 0)

def small : Manifest where
  fields := [(written "a", one)]
  distinct := by decide +kernel

-- The keys in another order, with an authentication.
def turned : Manifest where
  fields := [(written "b", .array [.boolean true]),
    (written "manifestAuthentication", .object [(written "algorithm", .text (written "HMAC-SHA256")),
      (written "value", .text (hex digestOfTwo.bytes))]), (written "a", one)]
  distinct := by decide +kernel

def straight : Manifest where
  fields := [(written "a", one), (written "b", .array [.boolean true])]
  distinct := by decide +kernel

-- The authentication of `small` with one more member.
def annotated : Manifest where
  fields := [(written "a", one),
    (written "manifestAuthentication", .object [(written "algorithm", .text (written "HMAC-SHA256")),
      (written "value", .text (hex digestOfOne.bytes)), (written "note", .null)])]
  distinct := by decide +kernel

def absent : Manifest where
  fields := [(written "a", .null)]
  distinct := by decide +kernel

-- `JSON.parse` reads 1e999 as an infinity.
def beyond : Manifest where
  fields := [(written "a", .infinity false)]
  distinct := by decide +kernel

theorem signed_straight : signedBytes turned = signedBytes straight := by
  decide +kernel

theorem digests_apart : CollisionFree crypto key small straight := by
  unfold CollisionFree
  decide +kernel

end Sample

theorem turned_manifest_accepted :
    verifyManifestAuthentication Sample.crypto Sample.turned Sample.key = .ok () /\
      createManifestAuthentication Sample.crypto Sample.turned Sample.key =
        createManifestAuthentication Sample.crypto Sample.straight Sample.key /\
      createManifestAuthentication Sample.crypto Sample.small Sample.key ≠
        createManifestAuthentication Sample.crypto Sample.straight Sample.key := by
  obtain ⟨shared, accepted, -⟩ := manifest_authentication Sample.crypto Sample.key
  have equal : Equal Sample.turned Sample.straight := (signed_iff _ _).1 Sample.signed_straight
  have produced : createManifestAuthentication Sample.crypto Sample.turned Sample.key =
      createManifestAuthentication Sample.crypto Sample.straight Sample.key :=
    (shared Sample.turned Sample.straight fun _ => Sample.signed_straight).1.2 equal
  refine ⟨(accepted Sample.turned).2 ⟨Sample.straight, equal, ?_⟩, produced, ?_⟩
  next => exact ⟨by rfl, by rfl⟩
  next =>
    intro same
    have texts := (signed_iff _ _).2 ((shared Sample.small Sample.straight Sample.digests_apart).1.1 same)
    exact absurd texts (by decide +kernel)

-- An infinite number passes for null, and the authentication field may hold more than was produced.
theorem authentication_leaves_gaps :
    Not (forall crypto key first second, CollisionFree crypto key first second ->
      (createManifestAuthentication crypto first key = createManifestAuthentication crypto second key <->
        Same (authenticatedManifest first).value (authenticatedManifest second).value)) /\
    Not (forall crypto key manifest, verifyManifestAuthentication crypto manifest key = .ok () <->
      exists produced, Same (authenticatedManifest manifest).value (authenticatedManifest produced).value /\
        authenticationOf manifest = some (createManifestAuthentication crypto produced key)) := by
  constructor
  next =>
    intro always
    have signed : signedBytes Sample.beyond = signedBytes Sample.absent := by decide +kernel
    have same := (always Sample.crypto Sample.key Sample.beyond Sample.absent fun _ => signed).1
      ((created_iff _ _).2 (by rw [manifestAuthenticationValue, manifestAuthenticationValue, signed]))
    have fields : (authenticatedManifest Sample.beyond).value = .object [(written "a", .infinity false)] /\
        (authenticatedManifest Sample.absent).value = .object [(written "a", .null)] := ⟨rfl, rfl⟩
    rw [fields.1, fields.2, Same, included_iff] at same
    obtain ⟨other, member, alike⟩ := same.1 (written "a", .infinity false) (List.mem_singleton_self _)
    obtain ⟨-, rfl⟩ := Prod.mk.inj (List.mem_singleton.1 member)
    exact alike
  next =>
    intro always
    have accepted : verifyManifestAuthentication Sample.crypto Sample.annotated Sample.key = .ok () := by
      decide +kernel
    obtain ⟨produced, -, carried⟩ := (always Sample.crypto Sample.key Sample.annotated).1 accepted
    have field : authenticationOf Sample.annotated =
        some (.object [(written "algorithm", .text (written "HMAC-SHA256")),
          (written "value", .text (hex Sample.digestOfOne.bytes)), (written "note", .null)]) := rfl
    rw [field] at carried
    simp [createManifestAuthentication] at carried

end VapeCommerce.Recovery.ManifestAuthentication
