import Mathlib.Data.Bool.AllAny
import VapeCommerce.Lib.Numerals
import VapeCommerce.Schema

set_option autoImplicit false

-- common/security/ip-allowlist.ts: which clients a rule of the allowlist admits
namespace VapeCommerce.Access.IpAllowlist

open VapeCommerce.Lib.Numerals VapeCommerce.Schema

-- An integer that `Number` reads, up to a bound.
def integerUpTo (bound : Nat) (text : Text) : Option Nat :=
  ((readNumber (trim text)).bind Reading.natural?).filter fun value => value <= bound

def mappedPrefix : Text := "::ffff:".toList

def joinOctets (octets : List Nat) : BitVec 32 :=
  octets.foldl (fun result octet => (result <<< 8) ||| BitVec.ofNat 32 octet) 0

def ipv4ToInteger (value : Text) : Option (BitVec 32) :=
  let normalized := if mappedPrefix.isPrefixOf value then value.drop 7 else value
  let parts := normalized.splitOn '.'
  if parts.length = 4 then (parts.mapM (integerUpTo 255)).map joinOctets else none

def prefixMask (length : Nat) : BitVec 32 :=
  if length = 0 then 0 else BitVec.allOnes 32 <<< (32 - length)

variable (toLocaleLowerCase : Text -> Text)

def normalize (text : Text) : Text :=
  toLocaleLowerCase (trim text)

-- The two parts of a rule that `split('/')` names, whatever comes after them.
def ruleParts (rule : Text) : Text × Text :=
  match rule.splitOn '/' with
  | network :: prefixText :: _ => (network, prefixText)
  | [network] => (network, [])
  | [] => ([], [])

def ipMatchesRule (ipAddress rule : Text) : Bool :=
  let candidate := normalize toLocaleLowerCase ipAddress
  let normalizedRule := normalize toLocaleLowerCase rule
  if normalizedRule.contains '/' = false then candidate == normalizedRule
  else
    let (network, prefixText) := ruleParts normalizedRule
    match ipv4ToInteger candidate, ipv4ToInteger network, integerUpTo 32 prefixText with
    | some addressValue, some networkValue, some length =>
      addressValue &&& prefixMask length == networkValue &&& prefixMask length
    | _, _, _ => false

def isIpAllowed (ipAddress : Text) (rules : List Text) : Bool :=
  rules.isEmpty || rules.any (ipMatchesRule toLocaleLowerCase ipAddress)

-- An IPv4 address, as its four octets.
structure Ipv4 where
  first : Fin 256
  second : Fin 256
  third : Fin 256
  fourth : Fin 256
deriving DecidableEq

def Ipv4.octets (address : Ipv4) : List Nat :=
  [address.first, address.second, address.third, address.fourth]

def Ipv4.text (address : Ipv4) : Text :=
  ['.'].intercalate (address.octets.map decimal)

def Ipv4.value (address : Ipv4) : BitVec 32 :=
  BitVec.ofNat 32 (positional 256 address.octets)

-- A client as it is written: plain, or mapped into IPv6.
def clientText (mapped : Bool) (address : Ipv4) : Text :=
  if mapped then mappedPrefix ++ address.text else address.text

def cidrText (network : Ipv4) (length : Fin 33) : Text :=
  network.text ++ '/' :: decimal length

def sameLeadingBits (length : Nat) (left right : BitVec 32) : Prop :=
  left >>> (32 - length) = right >>> (32 - length)

section Octets

def digitCharacters : Text := "0123456789".toList

theorem decimal_octet (octet : Fin 256) :
    (decimal octet).all (fun char => char ∈ digitCharacters) = true /\
      integerUpTo 255 (decimal octet) = some octet.val := by
  revert octet
  decide +kernel

theorem decimal_length (length : Fin 33) :
    (decimal length).all (fun char => char ∈ digitCharacters) = true /\
      integerUpTo 32 (decimal length) = some length.val /\ decimal length ≠ [] := by
  revert length
  decide +kernel

theorem octet_joined (result : BitVec 32) (octet : Fin 256) (small : result.toNat < 2 ^ 24) :
    ((result <<< 8) ||| BitVec.ofNat 32 octet).toNat = 256 * result.toNat + octet := by
  have fits : octet.val < 2 ^ 8 := octet.isLt
  have shifted : result.toNat <<< 8 % 2 ^ 32 = result.toNat <<< 8 := by
    apply Nat.mod_eq_of_lt
    rw [Nat.shiftLeft_eq]
    omega
  rw [BitVec.toNat_or, BitVec.toNat_shiftLeft, BitVec.toNat_ofNat, shifted,
    Nat.mod_eq_of_lt (by omega : octet.val < 2 ^ 32), <- Nat.shiftLeft_add_eq_or_of_lt fits,
    Nat.shiftLeft_eq]
  omega

theorem joinOctets_value (address : Ipv4) : joinOctets address.octets = address.value := by
  have first := octet_joined 0 address.first (by decide)
  have second := octet_joined _ address.second (by rw [first]; simp; omega)
  have third := octet_joined _ address.third (by rw [second, first]; simp; omega)
  have fourth := octet_joined _ address.fourth (by rw [third, second, first]; simp; omega)
  apply BitVec.eq_of_toNat_eq
  simp only [joinOctets, Ipv4.octets, List.foldl_cons, List.foldl_nil, Ipv4.value, positional,
    BitVec.toNat_ofNat]
  rw [fourth, third, second, first]
  simp
  omega

theorem every_value (value : BitVec 32) : exists address : Ipv4, address.value = value := by
  have bound := value.isLt
  refine ⟨{
    first := ⟨value.toNat / 16777216, by omega⟩
    second := ⟨value.toNat / 65536 % 256, by omega⟩
    third := ⟨value.toNat / 256 % 256, by omega⟩
    fourth := ⟨value.toNat % 256, by omega⟩ }, ?_⟩
  apply BitVec.eq_of_toNat_eq
  simp only [Ipv4.value, Ipv4.octets, positional, List.foldl_cons, List.foldl_nil, BitVec.toNat_ofNat]
  omega

-- Masking compares the leading bits.
theorem masked_iff (length : Nat) (left right : BitVec 32) :
    left &&& prefixMask length = right &&& prefixMask length <->
      sameLeadingBits length left right := by
  have mask : forall index, index < 32 ->
      (prefixMask length).getLsbD index = decide (32 - length <= index) := by
    intro index inside
    unfold prefixMask
    split
    next none =>
      have outside : Not (32 - length <= index) := by omega
      simp [outside]
    next =>
      rw [BitVec.getLsbD_shiftLeft, BitVec.getLsbD_allOnes]
      by_cases leading : 32 - length <= index
      next =>
        have shifted : index - (32 - length) < 32 := by omega
        simp [inside, leading, Nat.not_lt.2 leading, shifted]
      next => simp [leading, Nat.not_le.1 leading]
  unfold sameLeadingBits
  constructor
  next =>
    intro same
    apply BitVec.eq_of_getLsbD_eq
    intro index inside
    rw [BitVec.getLsbD_ushiftRight, BitVec.getLsbD_ushiftRight]
    by_cases within : 32 - length + index < 32
    next =>
      have bits := congrArg (fun value => value.getLsbD (32 - length + index)) same
      simpa [mask _ within] using bits
    next => rw [BitVec.getLsbD_of_ge left _ (by omega), BitVec.getLsbD_of_ge right _ (by omega)]
  next =>
    intro same
    apply BitVec.eq_of_getLsbD_eq
    intro index inside
    rw [BitVec.getLsbD_and, BitVec.getLsbD_and, mask index inside]
    by_cases leading : 32 - length <= index
    next =>
      have bits := congrArg (fun value => value.getLsbD (index - (32 - length))) same
      simp only [BitVec.getLsbD_ushiftRight] at bits
      rw [Nat.add_sub_cancel' leading] at bits
      rw [bits]
    next => simp [leading]

end Octets

section Texts

-- Every character of a client or a rule that is written as it should be.
def writtenCharacters : Text := "0123456789.:f/".toList

theorem written_plain : forall char, char ∈ writtenCharacters ->
    isSpace char = false /\ char.toNat < 128 /\ char.toLower = char :=
  List.all_iff_forall_prop.1 (by decide)

def Written (text : Text) : Prop :=
  forall char, char ∈ text -> char ∈ writtenCharacters

theorem digits_written : forall char, char ∈ digitCharacters -> char ∈ writtenCharacters :=
  List.all_iff_forall_prop.1 (by decide)

theorem digits_apart : forall char, char ∈ digitCharacters -> char ≠ '.' /\ char ≠ '/' /\ char ≠ ':' :=
  List.all_iff_forall_prop.1 (by decide)

theorem Written.append {left right : Text} (first : Written left) (second : Written right) :
    Written (left ++ right) := by
  intro char member
  cases List.mem_append.1 member with
  | inl here => exact first char here
  | inr there => exact second char there

theorem octet_digits (octet : Fin 256) {char : Char} (member : char ∈ decimal octet) :
    char ∈ digitCharacters := by
  simpa using List.all_eq_true.1 (decimal_octet octet).1 char member

theorem length_digits (length : Fin 33) {char : Char} (member : char ∈ decimal length) :
    char ∈ digitCharacters := by
  simpa using List.all_eq_true.1 (decimal_length length).1 char member

theorem text_characters (address : Ipv4) {char : Char} (member : char ∈ address.text) :
    char ∈ digitCharacters \/ char = '.' := by
  simp only [Ipv4.text, Ipv4.octets, List.map_cons, List.map_nil, List.intercalate, List.intersperse,
    List.flatten_cons, List.flatten_nil, List.append_nil, List.mem_append, List.mem_singleton] at member
  rcases member with here | here | here | here | here | here | here
  all_goals first | exact .inl (octet_digits _ here) | exact .inr here

theorem text_written (address : Ipv4) : Written address.text := by
  intro char member
  cases text_characters address member with
  | inl digit => exact digits_written char digit
  | inr dot => rw [dot]; decide

theorem clientText_written (mapped : Bool) (address : Ipv4) : Written (clientText mapped address) := by
  unfold clientText
  split
  next => exact Written.append (List.all_iff_forall_prop.1 (by decide)) (text_written address)
  next => exact text_written address

theorem cidrText_written (network : Ipv4) (length : Fin 33) : Written (cidrText network length) := by
  refine Written.append (text_written network) fun char member => ?_
  cases List.mem_cons.1 member with
  | inl slash => rw [slash]; decide
  | inr digit => exact digits_written char (length_digits length digit)

theorem trim_written {text : Text} (plain : Written text) : trim text = text := by
  have kept : forall characters : Text, Written characters -> characters.dropWhile isSpace = characters := by
    intro characters each
    cases characters with
    | nil => rfl
    | cons first rest => simp [(written_plain first (each first (by simp))).1]
  have reversed : Written text.reverse := fun char member => plain char (List.mem_reverse.1 member)
  rw [trim, kept text plain, kept text.reverse reversed, List.reverse_reverse]

-- What lowering does to ASCII text, whatever the locale does elsewhere.
def LowersAscii : Prop :=
  forall text : Text, (forall char, char ∈ text -> char.toNat < 128) ->
    toLocaleLowerCase text = text.map Char.toLower

variable {toLocaleLowerCase}

theorem normalize_written (lowers : LowersAscii toLocaleLowerCase) {text : Text} (plain : Written text) :
    normalize toLocaleLowerCase text = text := by
  rw [normalize, trim_written plain, lowers text fun char member => (written_plain char (plain char member)).2.1]
  exact (List.map_congr_left fun char member => (written_plain char (plain char member)).2.2).trans
    (List.map_id text)

theorem text_parts (address : Ipv4) : address.text.splitOn '.' = address.octets.map decimal := by
  refine List.splitOn_intercalate '.' (fun part member dotted => ?_) (by simp [Ipv4.octets])
  obtain ⟨octet, present, rfl⟩ := List.mem_map.1 member
  simp only [Ipv4.octets, List.mem_cons, List.not_mem_nil, or_false] at present
  rcases present with rfl | rfl | rfl | rfl
  all_goals exact (digits_apart '.' (octet_digits _ dotted)).1 rfl

theorem octets_read (address : Ipv4) :
    (address.octets.map decimal).mapM (integerUpTo 255) = some address.octets := by
  simp [Ipv4.octets, (decimal_octet _).2]

theorem ipv4ToInteger_text (mapped : Bool) (address : Ipv4) :
    ipv4ToInteger (clientText mapped address) = some address.value := by
  have unmapped : mappedPrefix.isPrefixOf address.text = false := by
    cases shape : address.text with
    | nil => rfl
    | cons first rest =>
      have apart : first ≠ ':' := by
        have member : first ∈ address.text := by simp [shape]
        cases text_characters address member with
        | inl digit => exact (digits_apart first digit).2.2
        | inr dot => rw [dot]; decide
      have different : (':' == first) = false := by simpa using apart.symm
      simp [mappedPrefix, List.isPrefixOf, different]
  have normalized : (if mappedPrefix.isPrefixOf (clientText mapped address) then
      (clientText mapped address).drop 7 else clientText mapped address) = address.text := by
    cases mapped with
    | false => simp [clientText, unmapped]
    | true => simp [clientText, mappedPrefix, List.isPrefixOf]
  unfold ipv4ToInteger
  dsimp only
  rw [normalized, text_parts, octets_read, Option.map_some, joinOctets_value]
  rfl

theorem ruleParts_cidr (network : Ipv4) (length : Fin 33) :
    (cidrText network length).contains '/' = true /\
      ruleParts (cidrText network length) = (network.text, decimal length) := by
  have plain : Not ('/' ∈ network.text) := by
    intro slash
    cases text_characters network slash with
    | inl digit => exact (digits_apart '/' digit).2.1 rfl
    | inr dot => exact absurd dot (by decide)
  have digits : Not ('/' ∈ decimal length) := fun slash =>
    (digits_apart '/' (length_digits length slash)).2.1 rfl
  refine ⟨by simp [cidrText], ?_⟩
  unfold ruleParts cidrText
  rw [List.splitOn_append_cons_self_of_not_mem plain, List.splitOn_eq_singleton digits]

end Texts

section Rules

-- What `Number` makes of the client and of the rule puts the one in the range of the other.
def InRange (candidate rule : Text) : Prop :=
  exists address network length, ipv4ToInteger candidate = some address /\
    ipv4ToInteger (ruleParts rule).1 = some network /\
    integerUpTo 32 (ruleParts rule).2 = some length /\ sameLeadingBits length address network

-- A rule with a slash admits exactly the well-formed clients in its well-formed range.
def CidrPrecise (ipAddress rule : Text) : Prop :=
  (normalize toLocaleLowerCase rule).contains '/' = true ->
    (ipMatchesRule toLocaleLowerCase ipAddress rule = true <->
      exists mapped client network length,
        normalize toLocaleLowerCase ipAddress = clientText mapped client /\
          normalize toLocaleLowerCase rule = cidrText network length /\
          sameLeadingBits length client.value network.value)

structure Precise (ipAddress rule : Text) : Prop where
  cidr : CidrPrecise toLocaleLowerCase ipAddress rule
  exact : forall address : Ipv4, normalize toLocaleLowerCase rule = address.text ->
    ipMatchesRule toLocaleLowerCase ipAddress rule =
      ipMatchesRule toLocaleLowerCase ipAddress (cidrText address 32)
  other : (normalize toLocaleLowerCase rule).contains '/' = false ->
    ipMatchesRule toLocaleLowerCase ipAddress rule = true ->
    normalize toLocaleLowerCase rule = normalize toLocaleLowerCase ipAddress

structure WrittenAsRead (ipAddress rule : Text) : Prop where
  -- A client that coercion puts in the range of a rule is a dotted quad, and so is the rule.
  cidr : (normalize toLocaleLowerCase rule).contains '/' = true ->
    InRange (normalize toLocaleLowerCase ipAddress) (normalize toLocaleLowerCase rule) ->
    exists mapped client network length,
      normalize toLocaleLowerCase ipAddress = clientText mapped client /\
        normalize toLocaleLowerCase rule = cidrText network length
  -- A client with the address of an exact rule is spelled as the rule is.
  exact : forall address : Ipv4, normalize toLocaleLowerCase rule = address.text ->
    ipv4ToInteger (normalize toLocaleLowerCase ipAddress) = some address.value ->
    normalize toLocaleLowerCase ipAddress = address.text

-- Coercion reads nothing from a rule that is not written as a range.
def PlainRule (rule : Text) : Prop :=
  (normalize toLocaleLowerCase rule).contains '/' = true -> forall network length,
    ipv4ToInteger (ruleParts (normalize toLocaleLowerCase rule)).1 = some network ->
    integerUpTo 32 (ruleParts (normalize toLocaleLowerCase rule)).2 = some length ->
    exists address bits, normalize toLocaleLowerCase rule = cidrText address bits

def PlainClient (ipAddress : Text) : Prop :=
  forall address, ipv4ToInteger (normalize toLocaleLowerCase ipAddress) = some address ->
    exists mapped client, normalize toLocaleLowerCase ipAddress = clientText mapped client

variable {toLocaleLowerCase}

theorem cidr_matches {ipAddress rule : Text}
    (cidr : (normalize toLocaleLowerCase rule).contains '/' = true) :
    ipMatchesRule toLocaleLowerCase ipAddress rule = true <->
      InRange (normalize toLocaleLowerCase ipAddress) (normalize toLocaleLowerCase rule) := by
  unfold ipMatchesRule InRange
  simp only [cidr, Bool.true_eq_false, if_false]
  cases candidate : ipv4ToInteger (normalize toLocaleLowerCase ipAddress) with
  | none => simp
  | some address =>
    cases range : ipv4ToInteger (ruleParts (normalize toLocaleLowerCase rule)).1 with
    | none => simp
    | some network =>
      cases bits : integerUpTo 32 (ruleParts (normalize toLocaleLowerCase rule)).2 with
      | none => simp
      | some length =>
        simp [masked_iff]

theorem exact_matches {ipAddress rule : Text}
    (exact : (normalize toLocaleLowerCase rule).contains '/' = false) :
    ipMatchesRule toLocaleLowerCase ipAddress rule = true <->
      normalize toLocaleLowerCase ipAddress = normalize toLocaleLowerCase rule := by
  unfold ipMatchesRule
  simp only [exact, if_true, beq_iff_eq]

theorem text_unslashed (address : Ipv4) : address.text.contains '/' = false := by
  simp only [List.contains_eq_mem, decide_eq_false_iff_not]
  intro slash
  cases text_characters address slash with
  | inl digit => exact (digits_apart '/' digit).2.1 rfl
  | inr dot => exact absurd dot (by decide)

-- Well-formed texts are read as what they say.
theorem inRange_written (mapped : Bool) (client network : Ipv4) (length : Fin 33) :
    InRange (clientText mapped client) (cidrText network length) <->
      sameLeadingBits length client.value network.value := by
  have parts := (ruleParts_cidr network length).2
  have range : ipv4ToInteger (ruleParts (cidrText network length)).1 = some network.value := by
    rw [parts]
    exact ipv4ToInteger_text false network
  have bits : integerUpTo 32 (ruleParts (cidrText network length)).2 = some length.val := by
    rw [parts]
    exact (decimal_length length).2.1
  unfold InRange
  rw [ipv4ToInteger_text, range, bits]
  simp

theorem cidrPrecise_iff (ipAddress rule : Text) :
    CidrPrecise toLocaleLowerCase ipAddress rule <->
      ((normalize toLocaleLowerCase rule).contains '/' = true ->
        InRange (normalize toLocaleLowerCase ipAddress) (normalize toLocaleLowerCase rule) ->
        exists mapped client network length,
          normalize toLocaleLowerCase ipAddress = clientText mapped client /\
            normalize toLocaleLowerCase rule = cidrText network length) := by
  unfold CidrPrecise
  refine forall_congr' fun cidr => ?_
  rw [cidr_matches cidr]
  constructor
  next =>
    intro same inRange
    obtain ⟨mapped, client, network, length, candidate, range, -⟩ := same.1 inRange
    exact ⟨mapped, client, network, length, candidate, range⟩
  next =>
    intro spelled
    constructor
    next =>
      intro inRange
      obtain ⟨mapped, client, network, length, candidate, range⟩ := spelled inRange
      refine ⟨mapped, client, network, length, candidate, range, ?_⟩
      rw [candidate, range] at inRange
      exact (inRange_written mapped client network length).1 inRange
    next =>
      rintro ⟨mapped, client, network, length, candidate, range, same⟩
      rw [candidate, range]
      exact (inRange_written mapped client network length).2 same

theorem exactPrecise_iff (lowers : LowersAscii toLocaleLowerCase) {ipAddress rule : Text} {address : Ipv4}
    (exact : normalize toLocaleLowerCase rule = address.text) :
    ipMatchesRule toLocaleLowerCase ipAddress rule =
        ipMatchesRule toLocaleLowerCase ipAddress (cidrText address 32) <->
      (ipv4ToInteger (normalize toLocaleLowerCase ipAddress) = some address.value ->
        normalize toLocaleLowerCase ipAddress = address.text) := by
  have unslashed : (normalize toLocaleLowerCase rule).contains '/' = false :=
    exact ▸ text_unslashed address
  have range := normalize_written lowers (cidrText_written address 32)
  have slashed : (normalize toLocaleLowerCase (cidrText address 32)).contains '/' = true :=
    by rw [range]; exact (ruleParts_cidr address 32).1
  have whole : InRange (normalize toLocaleLowerCase ipAddress) (cidrText address 32) <->
      ipv4ToInteger (normalize toLocaleLowerCase ipAddress) = some address.value := by
    have network : ipv4ToInteger (ruleParts (cidrText address 32)).1 = some address.value := by
      rw [(ruleParts_cidr address 32).2]
      exact ipv4ToInteger_text false address
    have bits : integerUpTo 32 (ruleParts (cidrText address 32)).2 = some 32 := by
      rw [(ruleParts_cidr address 32).2]
      exact (decimal_length 32).2.1
    unfold InRange
    rw [network, bits]
    simp [sameLeadingBits]
  rw [Bool.eq_iff_iff, exact_matches unslashed, cidr_matches slashed, range, whole, exact]
  constructor
  next => exact fun same => same.2
  next =>
    intro spelled
    refine ⟨fun same => ?_, spelled⟩
    rw [same]
    exact ipv4ToInteger_text false address

theorem cidr_of_plainRule {rule : Text} (plain : PlainRule toLocaleLowerCase rule)
    (lowers : LowersAscii toLocaleLowerCase) (mapped : Bool) (client : Ipv4) :
    CidrPrecise toLocaleLowerCase (clientText mapped client) rule := by
  refine (cidrPrecise_iff _ _).2 fun slashed inRange => ?_
  obtain ⟨_, network, length, -, range, bits, -⟩ := inRange
  obtain ⟨written, prefixLength, spelled⟩ := plain slashed network length range bits
  exact ⟨mapped, client, written, prefixLength,
    normalize_written lowers (clientText_written mapped client), spelled⟩

-- The client at the network's own address shows whatever coercion reads from the rule.
theorem plainRule_of_cidr {rule : Text} (lowers : LowersAscii toLocaleLowerCase)
    (precise : forall client, CidrPrecise toLocaleLowerCase (clientText false client) rule) :
    PlainRule toLocaleLowerCase rule := by
  intro slashed network length range bits
  obtain ⟨client, same⟩ := every_value network
  have spelled := (cidrPrecise_iff _ _).1 (precise client) slashed
  rw [normalize_written lowers (clientText_written false client)] at spelled
  have read : ipv4ToInteger (clientText false client) = some network :=
    same ▸ ipv4ToInteger_text false client
  obtain ⟨_, _, written, prefixLength, -, spelling⟩ := spelled ⟨network, network, length, read, range, bits, rfl⟩
  exact ⟨written, prefixLength, spelling⟩

theorem cidr_of_plainClient {ipAddress : Text} (plain : PlainClient toLocaleLowerCase ipAddress)
    (lowers : LowersAscii toLocaleLowerCase) (network : Ipv4) (length : Fin 33) :
    CidrPrecise toLocaleLowerCase ipAddress (cidrText network length) := by
  refine (cidrPrecise_iff _ _).2 fun _ inRange => ?_
  obtain ⟨address, _, _, read, -⟩ := inRange
  obtain ⟨mapped, client, spelled⟩ := plain address read
  exact ⟨mapped, client, network, length, spelled, normalize_written lowers (cidrText_written network length)⟩

-- The range of all addresses shows whatever coercion reads from the client.
theorem plainClient_of_cidr {ipAddress : Text} (lowers : LowersAscii toLocaleLowerCase)
    (precise : forall network, CidrPrecise toLocaleLowerCase ipAddress (cidrText network 0)) :
    PlainClient toLocaleLowerCase ipAddress := by
  intro address read
  obtain ⟨network, same⟩ := every_value address
  have parts := ruleParts_cidr network 0
  have spelled := (cidrPrecise_iff _ _).1 (precise network)
  rw [normalize_written lowers (cidrText_written network 0)] at spelled
  have range : ipv4ToInteger (ruleParts (cidrText network 0)).1 = some network.value := by
    rw [parts.2]
    exact ipv4ToInteger_text false network
  have bits : integerUpTo 32 (ruleParts (cidrText network 0)).2 = some 0 := by
    rw [parts.2]
    exact (decimal_length 0).2.1
  obtain ⟨mapped, client, _, _, spelling, -⟩ :=
    spelled parts.1 ⟨address, network.value, 0, read, range, bits, same ▸ rfl⟩
  exact ⟨mapped, client, spelling⟩

/--
A rule admits exactly the clients it says if and only if coercion puts no other text in its
range and the client of an exact rule is spelled as the rule is. A rule is right for every
client, and a client for every rule, exactly if coercion reads it only where it is written
as an address.
-/
theorem rules_read_as_written (lowers : LowersAscii toLocaleLowerCase) :
    (forall ipAddress rule,
      Precise toLocaleLowerCase ipAddress rule <-> WrittenAsRead toLocaleLowerCase ipAddress rule) /\
    (forall rule,
      (forall mapped client, CidrPrecise toLocaleLowerCase (clientText mapped client) rule) <->
        PlainRule toLocaleLowerCase rule) /\
    forall ipAddress,
      (forall network length, CidrPrecise toLocaleLowerCase ipAddress (cidrText network length)) <->
        PlainClient toLocaleLowerCase ipAddress := by
  refine ⟨fun ipAddress rule => ?_, fun rule => ?_, fun ipAddress => ?_⟩
  next =>
    constructor
    next =>
      intro precise
      constructor
      next => exact (cidrPrecise_iff ipAddress rule).1 precise.cidr
      next => exact fun address spelled => (exactPrecise_iff lowers spelled).1 (precise.exact address spelled)
    next =>
      intro written
      constructor
      next => exact (cidrPrecise_iff ipAddress rule).2 written.cidr
      next => exact fun address spelled => (exactPrecise_iff lowers spelled).2 (written.exact address spelled)
      next => exact fun unslashed admitted => ((exact_matches unslashed).1 admitted).symm
  next =>
    constructor
    next => exact fun precise => plainRule_of_cidr lowers (precise false)
    next => exact fun plain mapped client => cidr_of_plainRule plain lowers mapped client
  next =>
    constructor
    next => exact fun precise => plainClient_of_cidr lowers fun network => precise network 0
    next => exact fun plain network length => cidr_of_plainClient plain lowers network length

-- Lowering ASCII letters only.
def asciiLower (text : Text) : Text :=
  text.map Char.toLower

theorem private_network_written :
    WrittenAsRead asciiLower "10.1.2.3".toList "10.0.0.0/8".toList /\
      Precise asciiLower "10.1.2.3".toList "10.0.0.0/8".toList := by
  have written : WrittenAsRead asciiLower "10.1.2.3".toList "10.0.0.0/8".toList := by
    constructor
    next =>
      intro _ _
      exact ⟨false, ⟨10, 1, 2, 3⟩, ⟨10, 0, 0, 0⟩, 8, by decide +kernel, by decide +kernel⟩
    next =>
      intro address spelled
      have slashed := text_unslashed address
      rw [<- spelled] at slashed
      exact absurd slashed (by decide +kernel)
  exact ⟨written, ((rules_read_as_written fun _ _ => rfl).1 _ _).2 written⟩

-- A rule whose prefix length is missing is read as the range of all addresses.
theorem missing_length_admits_all :
    ipMatchesRule asciiLower "203.0.113.9".toList "10.0.0.0/".toList = true /\
      Not (Precise asciiLower "203.0.113.9".toList "10.0.0.0/".toList) := by
  have admitted : ipMatchesRule asciiLower "203.0.113.9".toList "10.0.0.0/".toList = true := by
    decide +kernel
  refine ⟨admitted, fun precise => ?_⟩
  obtain ⟨_, _, network, length, -, spelled, -⟩ := (precise.cidr (by decide +kernel)).1 admitted
  have parts := (ruleParts_cidr network length).2
  rw [<- spelled] at parts
  have missing : (ruleParts (normalize asciiLower "10.0.0.0/".toList)).2 = [] := by decide +kernel
  exact (decimal_length length).2.2 ((congrArg Prod.snd parts).symm.trans missing)

end Rules

end VapeCommerce.Access.IpAllowlist
