import Mathlib.Data.List.TakeWhile
import Mathlib.Tactic.Tauto
import VapeCommerce.Access.IpAllowlist

set_option autoImplicit false

-- catalog-media-source.ts: which addresses a catalogue image may be fetched from
namespace VapeCommerce.Catalog.MediaAddress

open VapeCommerce.Lib.Numerals VapeCommerce.Schema
open VapeCommerce.Access.IpAllowlist (Ipv4 integerUpTo)

section Spelling

-- net.isIP takes dotted decimals without leading zeros.
def octet? (piece : Text) : Option (Fin 256) :=
  (List.finRange 256).find? fun octet => decimal octet == piece

def ipv4? (text : Text) : Option Ipv4 :=
  match text.splitOn '.' with
  | [a, b, c, d] => do
    let first <- octet? a
    let second <- octet? b
    let third <- octet? c
    let fourth <- octet? d
    return { first, second, third, fourth }
  | _ => none

def hexGroup (piece : Text) : Option Nat :=
  if piece.length <= 4 then digitsValue 16 piece else none

-- Groups up to the end of an address, where an IPv4 address stands for the last two.
def groupsOf : List Text -> Option (List Nat)
  | [] => none
  | [last] =>
    match ipv4? last with
    | some address =>
      some [address.first * 256 + address.second, address.third * 256 + address.fourth]
    | none => (hexGroup last).map fun group => [group]
  | piece :: rest => do
    let group <- hexGroup piece
    let groups <- groupsOf rest
    return group :: groups

-- What is behind an empty piece: at the beginning of an address it is the second empty one.
def behindCompression (before behind : List Text) : Option (List Text) :=
  match before, behind with
  | [], [] :: rest => some rest
  | [], _ => none
  | _, rest => some rest

-- Nothing but the end of the address may follow a trailing `::`.
def groupsBehind (after : List Text) : Option (List Nat) :=
  if after = [[]] then some [] else groupsOf after

-- The pieces between colons; `::` stands for at least one group of zeros.
def ipv6Groups (pieces : List Text) : Option (List Nat) :=
  let before := pieces.takeWhile (· != [])
  match pieces.dropWhile (· != []) with
  | [] => (groupsOf before).filter fun groups => groups.length = 8
  | _ :: behind => do
    let after <- behindCompression before behind
    let left <- before.mapM hexGroup
    let right <- groupsBehind after
    if left.length + right.length <= 7 then
      return left ++ List.replicate (8 - (left.length + right.length)) 0 ++ right
    else none

def isZoneCharacter (char : Char) : Bool :=
  char.isAlphanum || char == '-' || char == '.' || char == ':'

-- address.toLowerCase().split('%', 1)[0]
def normalized (text : Text) : Text :=
  (text.map Char.toLower).takeWhile (· != '%')

def zoneAllowed (text : Text) : Bool :=
  match text.dropWhile (· != '%') with
  | [] => true
  | _ :: zone => zone != [] && zone.all isZoneCharacter

-- Hexadecimal digits are read in either case.
def ipv6? (text : Text) : Option (List Nat) :=
  if zoneAllowed text then ipv6Groups ((normalized text).splitOn ':') else none

-- The address a text spells; the zone is no part of it.
inductive Address
  | v4 (address : Ipv4)
  | v6 (groups : List Nat)
deriving DecidableEq

def address? (text : Text) : Option Address :=
  match ipv4? text with
  | some address => some (.v4 address)
  | none => (ipv6? text).map .v6

def isIP (text : Text) : Nat :=
  match address? text with
  | some (.v4 _) => 4
  | some (.v6 _) => 6
  | none => 0

end Spelling

section Classification

def publicIpv4 (address : Text) : Bool :=
  match (address.splitOn '.').mapM (integerUpTo 255) with
  | some [first, second, third, _] =>
    if first = 0 || first = 10 || first = 127 || first >= 224 then false
    else if first = 100 && second >= 64 && second <= 127 then false
    else if first = 169 && second = 254 then false
    else if first = 172 && second >= 16 && second <= 31 then false
    else if first = 192 && second = 168 then false
    else if first = 192 && second = 0 && (third = 0 || third = 2) then false
    else if first = 198 && (second = 18 || second = 19) then false
    else if first = 198 && second = 51 && third = 100 then false
    else if first = 203 && second = 0 && third = 113 then false
    else true
  | _ => false

def documentationPrefix : Text := "2001:db8:".toList

def publicIpv6 (address : Text) : Bool :=
  let normalized := normalized address
  if normalized == "::".toList || normalized == "::1".toList ||
      "::ffff:".toList.isPrefixOf normalized then false
  else if documentationPrefix.isPrefixOf normalized then false
  else "2".toList.isPrefixOf normalized || "3".toList.isPrefixOf normalized

def isPublicCatalogMediaAddress (address : Text) : Bool :=
  if isIP address = 4 then publicIpv4 address
  else if isIP address = 6 then publicIpv6 address
  else false

end Classification

section Ranges

-- The bits an IPv4 address has in front, and the reserved blocks.
structure Block where
  base : Nat
  bits : Nat

def octetsValue (a b c d : Nat) : Nat :=
  positional 256 [a, b, c, d]

def reservedBlocks : List Block :=
  [⟨octetsValue 0 0 0 0, 8⟩, ⟨octetsValue 10 0 0 0, 8⟩, ⟨octetsValue 127 0 0 0, 8⟩,
    ⟨octetsValue 224 0 0 0, 3⟩, ⟨octetsValue 100 64 0 0, 10⟩, ⟨octetsValue 169 254 0 0, 16⟩,
    ⟨octetsValue 172 16 0 0, 12⟩, ⟨octetsValue 192 168 0 0, 16⟩, ⟨octetsValue 192 0 0 0, 24⟩,
    ⟨octetsValue 192 0 2 0, 24⟩, ⟨octetsValue 198 18 0 0, 15⟩, ⟨octetsValue 198 51 100 0, 24⟩,
    ⟨octetsValue 203 0 113 0, 24⟩]

def Block.Has (block : Block) (address : Ipv4) : Prop :=
  positional 256 address.octets / 2 ^ (32 - block.bits) = block.base / 2 ^ (32 - block.bits)

def leadingBits (bits : Nat) (groups : List Nat) : Nat :=
  positional 65536 groups / 2 ^ (128 - bits)

-- 2000::/3 and 2001:db8::/32
def GlobalUnicast (groups : List Nat) : Prop := leadingBits 3 groups = 1

def Documentation (groups : List Nat) : Prop := leadingBits 32 groups = 0x20010db8

/-- The text is classified by the address it spells, as the ranges of the addresses say. -/
structure ClassifiedByValue (text : Text) (address : Address) : Prop where
  spelling : forall other, address? other = some address ->
    isPublicCatalogMediaAddress other = isPublicCatalogMediaAddress text
  ipv6 : forall groups, address = .v6 groups -> isPublicCatalogMediaAddress text = true ->
    GlobalUnicast groups /\ Not (Documentation groups)
  ipv4 : forall ipv4, address = .v4 ipv4 -> (isPublicCatalogMediaAddress text = true <->
    forall block, block ∈ reservedBlocks -> Not (block.Has ipv4))

-- A first group of fewer than four digits, without leading zeros, that begins with 2 or 3.
def ShortLead (groups : List Nat) : Prop :=
  exists lead rest scale, groups = lead :: rest /\ scale ∈ [1, 16, 256] /\
    (lead / scale = 2 \/ lead / scale = 3)

def Unambiguous : Address -> Prop
  | .v4 _ => True
  | .v6 groups => Not (ShortLead groups) /\ Not (Documentation groups)

end Ranges

section Ipv4

open VapeCommerce.Access.IpAllowlist (text_parts octets_read)

theorem octet?_some {piece : Text} {octet : Fin 256} (read : octet? piece = some octet) :
    piece = decimal octet := by
  have same : decimal octet = piece := by simpa using List.find?_some read
  exact same.symm

/-- An IPv4 address has one spelling. -/
theorem ipv4?_some {text : Text} {address : Ipv4} (read : ipv4? text = some address) :
    text = address.text := by
  unfold ipv4? at read
  split at read
  next a b c d pieces =>
    simp only [Option.bind_eq_bind, Option.bind_eq_some_iff, Option.pure_def,
      Option.some.injEq] at read
    obtain ⟨first, readFirst, second, readSecond, third, readThird, fourth, readFourth, rfl⟩ := read
    have joined : ['.'].intercalate (text.splitOn '.') = text := List.intercalate_splitOn '.'
    rw [pieces, octet?_some readFirst, octet?_some readSecond, octet?_some readThird,
      octet?_some readFourth] at joined
    exact joined.symm
  next => simp at read

theorem octetsValue_sum (a b c d : Nat) :
    octetsValue a b c d = a * 16777216 + b * 65536 + c * 256 + d := by
  simp only [octetsValue, positional, List.foldl_cons, List.foldl_nil]
  omega

section Prefixes

variable {a b c d x y z w : Nat} (smallB : b < 256) (smallC : c < 256) (smallD : d < 256)
  (smallY : y < 256) (smallZ : z < 256) (smallW : w < 256)

include smallB smallC smallD smallY smallZ smallW

-- What addresses share when they agree in the bits that a prefix leaves.
theorem same_second (bits scale : Nat)
    (listed : (bits, scale) ∈ [(22, 64), (20, 16), (17, 2), (16, 1)]) :
    octetsValue a b c d / 2 ^ bits = octetsValue x y z w / 2 ^ bits <->
      a = x /\ b / scale = y / scale := by
  rw [octetsValue_sum, octetsValue_sum]
  simp only [List.mem_cons, Prod.mk.injEq, List.not_mem_nil, or_false] at listed
  rcases listed with ⟨rfl, rfl⟩ | ⟨rfl, rfl⟩ | ⟨rfl, rfl⟩ | ⟨rfl, rfl⟩ <;> omega

theorem same_third :
    octetsValue a b c d / 2 ^ (32 - 24) = octetsValue x y z w / 2 ^ (32 - 24) <->
      a = x /\ b = y /\ c = z := by
  rw [octetsValue_sum, octetsValue_sum]
  omega

theorem same_first (bits scale : Nat) (listed : (bits, scale) ∈ [(24, 1), (29, 32)]) :
    octetsValue a b c d / 2 ^ bits = octetsValue x y z w / 2 ^ bits <-> a / scale = x / scale := by
  rw [octetsValue_sum, octetsValue_sum]
  simp only [List.mem_cons, Prod.mk.injEq, List.not_mem_nil, or_false] at listed
  rcases listed with ⟨rfl, rfl⟩ | ⟨rfl, rfl⟩ <;> omega

end Prefixes

theorem refused_iff (refused : Prop) [Decidable refused] (rest : Bool) :
    (if refused then false else rest) = true <-> Not refused /\ rest = true := by
  by_cases refused <;> simp [*]

theorem publicIpv4_octets (first second third fourth : Nat) (low1 : first < 256)
    (low2 : second < 256) (low3 : third < 256) (low4 : fourth < 256) :
    (if first = 0 || first = 10 || first = 127 || first >= 224 then false
      else if first = 100 && second >= 64 && second <= 127 then false
      else if first = 169 && second = 254 then false
      else if first = 172 && second >= 16 && second <= 31 then false
      else if first = 192 && second = 168 then false
      else if first = 192 && second = 0 && (third = 0 || third = 2) then false
      else if first = 198 && (second = 18 || second = 19) then false
      else if first = 198 && second = 51 && third = 100 then false
      else if first = 203 && second = 0 && third = 113 then false
      else true) = true <->
    forall block, block ∈ reservedBlocks ->
      Not (octetsValue first second third fourth / 2 ^ (32 - block.bits) =
        block.base / 2 ^ (32 - block.bits)) := by
  have firstOctets := fun (x bits scale : Nat) listed =>
    @same_first first second third fourth x 0 0 0 low2 low3 low4 (by decide) (by decide) (by decide)
      bits scale listed
  have secondOctets := fun (x y bits scale : Nat) (small : y < 256) listed =>
    @same_second first second third fourth x y 0 0 low2 low3 low4 small (by decide) (by decide)
      bits scale listed
  have thirdOctets := fun (x y z : Nat) (small : y < 256) (small' : z < 256) =>
    @same_third first second third fourth x y z 0 low2 low3 low4 small small' (by decide)
  simp only [reservedBlocks, List.forall_mem_cons, List.not_mem_nil, false_implies, implies_true,
    and_true]
  rw [firstOctets 0 24 1 (by decide), firstOctets 10 24 1 (by decide),
    firstOctets 127 24 1 (by decide), firstOctets 224 29 32 (by decide),
    secondOctets 100 64 22 64 (by decide) (by decide),
    secondOctets 169 254 16 1 (by decide) (by decide),
    secondOctets 172 16 20 16 (by decide) (by decide),
    secondOctets 192 168 16 1 (by decide) (by decide),
    thirdOctets 192 0 0 (by decide) (by decide), thirdOctets 192 0 2 (by decide) (by decide),
    secondOctets 198 18 17 2 (by decide) (by decide),
    thirdOctets 198 51 100 (by decide) (by decide), thirdOctets 203 0 113 (by decide) (by decide)]
  have multicast : first / 32 = 224 / 32 <-> 224 <= first := by omega
  have shared : second / 64 = 64 / 64 <-> 64 <= second /\ second <= 127 := by omega
  have private12 : second / 16 = 16 / 16 <-> 16 <= second /\ second <= 31 := by omega
  have benchmark : second / 2 = 18 / 2 <-> second = 18 \/ second = 19 := by omega
  rw [multicast, shared, private12, benchmark]
  simp only [refused_iff, Nat.div_one, Bool.and_eq_true, Bool.or_eq_true, decide_eq_true_eq,
    ge_iff_le, and_or_left, not_or, and_assoc, and_true]

theorem publicIpv4_text (address : Ipv4) : publicIpv4 address.text = true <->
    forall block, block ∈ reservedBlocks -> Not (block.Has address) := by
  unfold publicIpv4
  rw [text_parts, octets_read]
  exact publicIpv4_octets address.first address.second address.third address.fourth
    address.first.isLt address.second.isLt address.third.isLt address.fourth.isLt

end Ipv4

section Groups

theorem mapM_some {A B : Type} {read : A -> Option B} {items : List A} {values : List B}
    (reads : items.mapM read = some values) :
    values.length = items.length /\ forall value, value ∈ values -> exists item,
      item ∈ items /\ read item = some value := by
  induction items generalizing values with
  | nil =>
    obtain rfl : values = [] := by simpa using reads.symm
    simp
  | cons item items ih =>
    simp only [List.mapM_cons, Option.bind_eq_bind, Option.bind_eq_some_iff, Option.pure_def,
      Option.some.injEq] at reads
    obtain ⟨value, first, later, rest, rfl⟩ := reads
    obtain ⟨length, each⟩ := ih rest
    refine ⟨by simp [length], ?_⟩
    intro other inside
    rcases List.mem_cons.1 inside with rfl | inside
    next => exact ⟨item, List.mem_cons_self .., first⟩
    next =>
      obtain ⟨item', member, found⟩ := each other inside
      exact ⟨item', List.mem_cons_of_mem _ member, found⟩

theorem mapM_each {A B : Type} {read : A -> Option B} {items : List A} {values : List B}
    (reads : items.mapM read = some values) {item : A} (inside : item ∈ items) :
    exists value, read item = some value := by
  induction items generalizing values with
  | nil => simp at inside
  | cons first items ih =>
    simp only [List.mapM_cons, Option.bind_eq_bind, Option.bind_eq_some_iff, Option.pure_def,
      Option.some.injEq] at reads
    obtain ⟨value, found, later, rest, _⟩ := reads
    rcases List.mem_cons.1 inside with rfl | inside
    next => exact ⟨value, found⟩
    next => exact ih rest inside

-- A group by its first digit.
theorem hexGroup_cons {char : Char} {chars : Text} {group : Nat}
    (read : hexGroup (char :: chars) = some group) :
    exists digit rest, digitValue 16 char = some digit /\ chars.length <= 3 /\
      rest < 16 ^ chars.length /\ group = digit * 16 ^ chars.length + rest := by
  simp only [hexGroup, digitsValue, List.isEmpty_cons, Bool.false_eq_true, if_false,
    Option.ite_none_right_eq_some, List.mapM_cons, Option.bind_eq_bind, Option.pure_def,
    Option.map_eq_some_iff, Option.bind_eq_some_iff, Option.some.injEq, List.length_cons] at read
  obtain ⟨short, digits, ⟨digit, first, later, rest, rfl⟩, rfl⟩ := read
  obtain ⟨length, each⟩ := mapM_some rest
  have small : forall value, value ∈ later -> value < 16 := by
    intro value inside
    obtain ⟨_, _, read⟩ := each value inside
    exact digitValue_lt read
  refine ⟨digit, positional 16 later, first, by omega, ?_, ?_⟩
  next =>
    rw [<- length]
    exact positional_lt small
  next => rw [<- length, positional_cons]

theorem hexGroup_nil : hexGroup [] = none := rfl

theorem hexGroup_lt {piece : Text} {group : Nat} (read : hexGroup piece = some group) :
    group < 65536 := by
  cases piece with
  | nil => simp [hexGroup_nil] at read
  | cons char chars =>
    obtain ⟨digit, rest, first, short, small, rfl⟩ := hexGroup_cons read
    have lead : digit < 16 := digitValue_lt first
    have power : 16 ^ chars.length <= 4096 := Nat.pow_le_pow_right (by decide) short
    have bound : digit * 16 ^ chars.length <= 15 * 16 ^ chars.length :=
      Nat.mul_le_mul_right _ (Nat.le_of_lt_succ lead)
    omega

theorem groupsOf_cons (piece : Text) (rest : List Text) (more : rest ≠ []) :
    groupsOf (piece :: rest) =
      (hexGroup piece).bind fun group => (groupsOf rest).map fun groups => group :: groups := by
  obtain ⟨next, later, rfl⟩ := List.exists_cons_of_ne_nil more
  rw [groupsOf.eq_3 piece (next :: later) more]
  cases hexGroup piece <;> cases groupsOf (next :: later) <;> rfl

theorem groupsOf_lt {pieces : List Text} {groups : List Nat} (read : groupsOf pieces = some groups) :
    forall group, group ∈ groups -> group < 65536 := by
  induction pieces generalizing groups with
  | nil => simp [groupsOf] at read
  | cons piece rest ih =>
    by_cases more : rest = []
    next =>
      subst more
      simp only [groupsOf] at read
      split at read
      next address _ =>
        obtain rfl := Option.some.inj read
        have low1 := address.first.isLt
        have low2 := address.second.isLt
        have low3 := address.third.isLt
        have low4 := address.fourth.isLt
        simp only [List.mem_cons, List.not_mem_nil, or_false]
        rintro group (rfl | rfl) <;> omega
      next =>
        obtain ⟨group, found, rfl⟩ := Option.map_eq_some_iff.1 read
        intro other inside
        obtain rfl := List.mem_singleton.1 inside
        exact hexGroup_lt found
    next =>
      rw [groupsOf_cons piece rest more] at read
      simp only [Option.bind_eq_some_iff, Option.map_eq_some_iff] at read
      obtain ⟨group, first, groups, later, rfl⟩ := read
      intro other inside
      rcases List.mem_cons.1 inside with rfl | inside
      next => exact hexGroup_lt first
      next => exact ih later other inside

-- The ways an address is made of its pieces.
inductive Shape (pieces : List Text) (groups : List Nat) : Prop
  | whole (filled : forall piece, piece ∈ pieces -> piece ≠ []) (read : groupsOf pieces = some groups)
    (eight : groups.length = 8)
  | compressed (before behind : List Text) (left right : List Nat) (zeros : Nat)
    (cut : pieces = before ++ [] :: behind) (read : before.mapM hexGroup = some left)
    (same : groups = left ++ List.replicate zeros 0 ++ right) (some : 0 < zeros)
    (small : forall group, group ∈ right -> group < 65536) (eight : groups.length = 8)

theorem ipv6Groups_shape {pieces : List Text} {groups : List Nat}
    (read : ipv6Groups pieces = some groups) : Shape pieces groups := by
  have cut := List.takeWhile_append_dropWhile (p := (· != [])) (l := pieces)
  unfold ipv6Groups at read
  dsimp only at read
  split at read
  next none =>
    simp only [Option.filter_eq_some_iff, decide_eq_true_eq] at read
    rw [none, List.append_nil] at cut
    rw [cut] at read
    refine .whole ?_ read.1 read.2
    intro piece inside
    rw [<- cut] at inside
    simpa using List.all_eq_true.1 List.all_takeWhile piece inside
  next first behind rest =>
    have empty : first = [] := by
      have stops := List.head?_dropWhile_not (· != []) pieces
      rw [rest] at stops
      simpa using stops
    subst empty
    simp only [Option.bind_eq_bind, Option.bind_eq_some_iff, Option.pure_def,
      Option.ite_none_right_eq_some, Option.some.injEq] at read
    obtain ⟨after, _, left, readLeft, right, readRight, few, rfl⟩ := read
    refine .compressed _ behind left right (8 - (left.length + right.length))
      (by rw [<- rest, cut]) readLeft rfl (by omega) ?_ ?_
    next =>
      unfold groupsBehind at readRight
      split at readRight
      next =>
        obtain rfl := Option.some.inj readRight
        simp
      next => exact groupsOf_lt readRight
    next =>
      simp only [List.length_append, List.length_replicate]
      omega

theorem Shape.eight {pieces : List Text} {groups : List Nat} (shape : Shape pieces groups) :
    groups.length = 8 := by
  cases shape <;> assumption

theorem Shape.small {pieces : List Text} {groups : List Nat} (shape : Shape pieces groups) :
    forall group, group ∈ groups -> group < 65536 := by
  cases shape with
  | whole _ read _ => exact groupsOf_lt read
  | compressed before behind left right zeros cut read same some small _ =>
    subst same
    intro group inside
    simp only [List.mem_append, List.mem_replicate] at inside
    rcases inside with (inside | ⟨_, rfl⟩) | inside
    next =>
      obtain ⟨piece, _, found⟩ := (mapM_some read).2 group inside
      exact hexGroup_lt found
    next => decide
    next => exact small group inside

-- The first group is what the first piece says, or zero in front of a leading `::`.
theorem Shape.lead {piece : Text} {rest : List Text} {groups : List Nat}
    (shape : Shape (piece :: rest) groups) :
    exists lead later, groups = lead :: later /\
      (piece = [] /\ lead = 0 \/ piece ≠ [] /\ hexGroup piece = some lead) := by
  cases shape with
  | whole filled read eight =>
    have more : rest ≠ [] := by
      rintro rfl
      simp only [groupsOf] at read
      split at read
      next =>
        obtain rfl := Option.some.inj read
        simp at eight
      next =>
        obtain ⟨group, _, rfl⟩ := Option.map_eq_some_iff.1 read
        simp at eight
    rw [groupsOf_cons piece rest more] at read
    simp only [Option.bind_eq_some_iff, Option.map_eq_some_iff] at read
    obtain ⟨group, first, later, _, rfl⟩ := read
    exact ⟨group, later, rfl, .inr ⟨filled piece (List.mem_cons_self ..), first⟩⟩
  | compressed before behind left right zeros cut read same some small eight =>
    cases before with
    | nil =>
      obtain ⟨rfl, _⟩ := List.cons.inj cut
      obtain rfl : left = [] := by simpa using read.symm
      obtain ⟨zeros, rfl⟩ := Nat.exists_eq_succ_of_ne_zero (Nat.pos_iff_ne_zero.1 some)
      exact ⟨0, List.replicate zeros 0 ++ right, by simp [same, List.replicate_succ], .inl ⟨rfl, rfl⟩⟩
    | cons first before =>
      obtain ⟨rfl, _⟩ := List.cons.inj cut
      simp only [List.mapM_cons, Option.bind_eq_bind, Option.bind_eq_some_iff, Option.pure_def,
        Option.some.injEq] at read
      obtain ⟨group, found, later, _, rfl⟩ := read
      refine ⟨group, later ++ List.replicate zeros 0 ++ right, by simp [same], .inr ⟨?_, found⟩⟩
      rintro rfl
      simp [hexGroup_nil] at found

-- The second group of an address that goes on behind it.
theorem Shape.second {first second third : Text} {rest : List Text} {groups : List Nat}
    (shape : Shape (first :: second :: third :: rest) groups) (filled : first ≠ [])
    (filled' : second ≠ []) :
    exists lead next later, groups = lead :: next :: later /\ hexGroup first = some lead /\
      hexGroup second = some next := by
  cases shape with
  | whole _ read _ =>
    rw [groupsOf_cons first _ (by simp), groupsOf_cons second _ (by simp)] at read
    simp only [Option.bind_eq_some_iff, Option.map_eq_some_iff] at read
    obtain ⟨lead, readFirst, _, ⟨next, readSecond, later, _, rfl⟩, rfl⟩ := read
    exact ⟨lead, next, later, rfl, readFirst, readSecond⟩
  | compressed before behind left right zeros cut read same _ _ _ =>
    rcases before with _ | ⟨piece, _ | ⟨piece', before⟩⟩
    next => exact absurd (List.cons.inj cut).1 filled
    next => exact absurd (List.cons.inj (List.cons.inj cut).2).1 filled'
    next =>
      obtain ⟨rfl, later⟩ := List.cons.inj cut
      obtain ⟨rfl, _⟩ := List.cons.inj later
      clear cut later
      simp only [List.mapM_cons, Option.bind_eq_bind, Option.bind_eq_some_iff, Option.pure_def,
        Option.some.injEq] at read
      obtain ⟨lead, readFirst, _, ⟨next, readSecond, later, _, rfl⟩, rfl⟩ := read
      exact ⟨lead, next, later ++ List.replicate zeros 0 ++ right, by simp [same], readFirst, readSecond⟩

end Groups

section Leading

theorem leadingBits_groups {lead next : Nat} {rest : List Nat} (eight : rest.length = 6)
    (small : forall group, group ∈ lead :: next :: rest -> group < 65536) :
    leadingBits 3 (lead :: next :: rest) = lead / 8192 /\
      leadingBits 32 (lead :: next :: rest) = lead * 65536 + next := by
  have tail := positional_lt fun group inside =>
    small group (List.mem_cons_of_mem _ (List.mem_cons_of_mem _ inside))
  have second := small next (by simp)
  rw [eight] at tail
  simp only [leadingBits, positional_cons, List.length_cons, eight]
  constructor <;> omega

theorem groups_split {pieces : List Text} {lead : Nat} {later : List Nat}
    (shape : Shape pieces (lead :: later)) :
    exists next rest, later = next :: rest /\ rest.length = 6 := by
  have eight := shape.eight
  obtain _ | ⟨next, rest⟩ := later
  next => simp at eight
  next => exact ⟨next, rest, rfl, by simpa using eight⟩

theorem unicast_iff {pieces : List Text} {lead : Nat} {later : List Nat}
    (shape : Shape pieces (lead :: later)) : GlobalUnicast (lead :: later) <-> lead / 8192 = 1 := by
  obtain ⟨next, rest, rfl, eight⟩ := groups_split shape
  rw [GlobalUnicast, (leadingBits_groups eight shape.small).1]

theorem documentation_iff {pieces : List Text} {lead next : Nat} {rest : List Nat}
    (shape : Shape pieces (lead :: next :: rest)) :
    Documentation (lead :: next :: rest) <-> lead = 0x2001 /\ next = 0xdb8 := by
  have eight : rest.length = 6 := by simpa using shape.eight
  have small := shape.small next (by simp)
  rw [Documentation, (leadingBits_groups eight shape.small).2]
  omega

theorem normalized_joined (text : Text) :
    [':'].intercalate ((normalized text).splitOn ':') = normalized text :=
  List.intercalate_splitOn ':'

theorem address?_v6 {text : Text} {groups : List Nat} (read : address? text = some (.v6 groups)) :
    Shape ((normalized text).splitOn ':') groups /\
      isPublicCatalogMediaAddress text = publicIpv6 text := by
  have six : isIP text = 6 := by rw [isIP, read]
  refine ⟨?_, by simp [isPublicCatalogMediaAddress, six]⟩
  unfold address? at read
  split at read
  next => simp at read
  next =>
    obtain ⟨found, parsed, same⟩ := Option.map_eq_some_iff.1 read
    obtain rfl := Address.v6.inj same
    unfold ipv6? at parsed
    split at parsed
    next => exact ipv6Groups_shape parsed
    next => simp at parsed

theorem publicIpv6_head {text : Text} {char : Char} {rest : Text}
    (head : normalized text = char :: rest) :
    publicIpv6 text = true <->
      (char = '2' \/ char = '3') /\ documentationPrefix.isPrefixOf (normalized text) = false := by
  unfold publicIpv6
  dsimp only
  rw [head]
  by_cases colon : char = ':'
  next =>
    subst colon
    simp
  next =>
    have others : forall others : Text, (char :: rest == ':' :: others) = false := by
      intro others
      simp [colon]
    have notPrefix : forall others : Text, (':' :: others).isPrefixOf (char :: rest) = false := by
      intro others
      simp [List.isPrefixOf, Ne.symm colon]
    have zero : (char :: rest == "::".toList) = false := others [':']
    have loopback : (char :: rest == "::1".toList) = false := others [':', '1']
    have mapped : "::ffff:".toList.isPrefixOf (char :: rest) = false :=
      notPrefix [':', 'f', 'f', 'f', 'f', ':']
    rw [zero, loopback, mapped]
    have digit : "2".toList.isPrefixOf (char :: rest) = (char == '2') := by
      simp [List.isPrefixOf, BEq.comm]
    have digit' : "3".toList.isPrefixOf (char :: rest) = (char == '3') := by
      simp [List.isPrefixOf, BEq.comm]
    rw [digit, digit']
    generalize documentationPrefix.isPrefixOf (char :: rest) = documented
    cases documented <;> simp

theorem digit_read {char : Char} {digit : Nat} (read : digitValue 16 char = some digit)
    (small : digit < 10) : char.toNat = 48 + digit := by
  simp only [digitValue, Option.ite_none_right_eq_some, Option.some.injEq, Bool.and_eq_true,
    decide_eq_true_eq, Char.le_def, UInt32.le_iff_toNat_le] at read
  obtain ⟨_, same⟩ := read
  have zero : ('0' : Char).val.toNat = 48 := rfl
  have nine : ('9' : Char).val.toNat = 57 := rfl
  have value : char.toNat = char.val.toNat := rfl
  split at same
  next decimal =>
    have base : ('0' : Char).toNat = 48 := rfl
    omega
  next =>
    split at same
    next => omega
    next => split at same <;> omega

theorem digit_lead {char : Char} {digit : Nat} (read : digitValue 16 char = some digit) :
    (char = '2' \/ char = '3') <-> (digit = 2 \/ digit = 3) := by
  constructor
  next =>
    rintro (rfl | rfl)
    next => exact .inl (Option.some.inj (read.symm.trans rfl))
    next => exact .inr (Option.some.inj (read.symm.trans rfl))
  next =>
    rintro (rfl | rfl)
    next => exact .inl (Char.toNat_inj.1 (digit_read read (by decide)))
    next => exact .inr (Char.toNat_inj.1 (digit_read read (by decide)))

theorem publicIpv6_colon {text : Text} {others : List Text}
    (pieces : (normalized text).splitOn ':' = [] :: others) : publicIpv6 text = false := by
  have joined := normalized_joined text
  rw [pieces] at joined
  cases others with
  | nil =>
    have none : normalized text = [] := joined.symm
    unfold publicIpv6
    rw [none]
    decide +kernel
  | cons other others =>
    have head : normalized text = ':' :: [':'].intercalate (other :: others) := joined.symm
    rw [Bool.eq_false_iff, ne_eq, publicIpv6_head head]
    simp

theorem pieces_cons {text : Text} {char : Char} {chars : Text} {others : List Text}
    (pieces : (normalized text).splitOn ':' = (char :: chars) :: others) :
    exists rest, normalized text = char :: rest := by
  have joined := normalized_joined text
  rw [pieces] at joined
  cases others with
  | nil => exact ⟨chars, by simpa using joined.symm⟩
  | cons other others => exact ⟨_, joined.symm⟩

theorem documentationPrefix_chars :
    documentationPrefix = ['2', '0', '0', '1', ':', 'd', 'b', '8', ':'] := by
  decide +kernel

theorem pieces_documentation {text : Text}
    (begins : documentationPrefix.isPrefixOf (normalized text) = true) :
    exists third rest, (normalized text).splitOn ':' =
      ['2', '0', '0', '1'] :: ['d', 'b', '8'] :: third :: rest := by
  obtain ⟨rest, same⟩ := List.isPrefixOf_iff_prefix.1 begins
  have first : Not (':' ∈ ['2', '0', '0', '1']) := by decide
  have second : Not (':' ∈ ['d', 'b', '8']) := by decide
  have split : normalized text =
      ['2', '0', '0', '1'] ++ ':' :: (['d', 'b', '8'] ++ ':' :: rest) := by
    rw [<- same, documentationPrefix_chars]
    rfl
  rw [split, List.splitOn_append_cons_self_of_not_mem first,
    List.splitOn_append_cons_self_of_not_mem second]
  obtain ⟨third, later, shape⟩ := List.exists_cons_of_ne_nil (List.splitOn_ne_nil ':' rest)
  exact ⟨third, later, by rw [shape]⟩

/-- An address without two readings of its spellings is public exactly in 2000::/3. -/
theorem public_iff_unicast {text : Text} {groups : List Nat}
    (read : address? text = some (.v6 groups)) (fair : Unambiguous (.v6 groups)) :
    isPublicCatalogMediaAddress text = true <-> GlobalUnicast groups := by
  obtain ⟨shape, family⟩ := address?_v6 read
  obtain ⟨unshortened, undocumented⟩ := fair
  rw [family]
  obtain ⟨piece, others, pieces⟩ := List.exists_cons_of_ne_nil (List.splitOn_ne_nil ':' (normalized text))
  have shape' := shape
  rw [pieces] at shape'
  obtain ⟨lead, later, rfl, first⟩ := shape'.lead
  rw [unicast_iff shape]
  rcases first with ⟨rfl, rfl⟩ | ⟨filled, hex⟩
  next => simp [publicIpv6_colon pieces]
  next =>
    obtain ⟨char, chars, rfl⟩ := List.exists_cons_of_ne_nil filled
    obtain ⟨rest, head⟩ := pieces_cons pieces
    obtain ⟨digit, low, readDigit, short, small, same⟩ := hexGroup_cons hex
    have unlisted : documentationPrefix.isPrefixOf (normalized text) = false := by
      rw [Bool.eq_false_iff]
      intro begins
      obtain ⟨third, rest', split⟩ := pieces_documentation begins
      have second := shape
      rw [split] at second
      obtain ⟨lead', next, later', groups, readLead, readNext⟩ :=
        second.second (by decide) (by decide)
      obtain rfl : lead' = 0x2001 := Option.some.inj (readLead.symm.trans (by decide))
      obtain rfl : next = 0xdb8 := Option.some.inj (readNext.symm.trans (by decide))
      rw [groups] at undocumented shape
      exact undocumented ((documentation_iff shape).2 ⟨rfl, rfl⟩)
    rw [publicIpv6_head head, digit_lead readDigit]
    simp only [unlisted, and_true]
    have lead16 : digit < 16 := digitValue_lt readDigit
    have unshort : forall scale, scale ∈ [1, 16, 256] -> Not (lead / scale = 2 \/ lead / scale = 3) :=
      fun scale listed shortened => unshortened ⟨lead, later, scale, rfl, listed, shortened⟩
    have one := unshort 1 (by decide)
    have two := unshort 16 (by decide)
    have three := unshort 256 (by decide)
    -- Fewer than four digits are either a short lead or below 2000.
    obtain few | few | few | few : chars.length = 0 \/ chars.length = 1 \/ chars.length = 2 \/
      chars.length = 3 := by omega
    all_goals
      rw [few] at small same
      omega

end Leading

section Spelled

def hexCharacters : Text := ['0', '1', '2', '3', '4', '5', '6', '7', '8', '9', 'a', 'b', 'c', 'd', 'e', 'f']

def hexChar (value : Nat) : Char :=
  hexCharacters.getD value '0'

-- A group written with a number of digits.
def hexText : Nat -> Nat -> Text
  | 0, _ => []
  | width + 1, value => hexText width (value / 16) ++ [hexChar (value % 16)]

theorem hexCharacters_plain : forall char, char ∈ hexCharacters ->
    char ≠ ':' /\ char ≠ '.' /\ char ≠ '%' /\ char.toLower = char :=
  List.all_iff_forall_prop.1 (by decide)

theorem hexChar_read : forall value : Fin 16,
    digitValue 16 (hexChar value) = some value.val /\ hexChar value ∈ hexCharacters := by
  decide

theorem hexText_plain (width value : Nat) :
    forall char, char ∈ hexText width value -> char ∈ hexCharacters := by
  induction width generalizing value with
  | zero => simp [hexText]
  | succ width ih =>
    intro char inside
    rcases List.mem_append.1 inside with inside | inside
    next => exact ih (value / 16) char inside
    next =>
      obtain rfl := List.mem_singleton.1 inside
      exact (hexChar_read ⟨value % 16, Nat.mod_lt _ (by decide)⟩).2

theorem hexText_length (width value : Nat) : (hexText width value).length = width := by
  induction width generalizing value with
  | zero => rfl
  | succ width ih => simp [hexText, ih]

theorem hexText_digits (width value : Nat) :
    exists digits, (hexText width value).mapM (digitValue 16) = some digits /\
      positional 16 digits = value % 16 ^ width := by
  induction width generalizing value with
  | zero => exact ⟨[], by simp [hexText], by simp [positional, Nat.mod_one]⟩
  | succ width ih =>
    obtain ⟨digits, read, same⟩ := ih (value / 16)
    have last := (hexChar_read ⟨value % 16, Nat.mod_lt _ (by decide)⟩).1
    refine ⟨digits ++ [value % 16], by simp [hexText, List.mapM_append, read, last], ?_⟩
    rw [positional_append, same, Nat.pow_succ', Nat.mod_mul, Nat.add_comm]

theorem hexGroup_hexText {width value : Nat} (some' : 0 < width) (short : width <= 4)
    (fits : value < 16 ^ width) : hexGroup (hexText width value) = some value := by
  obtain ⟨digits, read, same⟩ := hexText_digits width value
  have length := hexText_length width value
  have filled : (hexText width value).isEmpty = false := by
    rw [List.isEmpty_eq_false_iff, <- List.length_pos_iff, length]
    exact some'
  rw [hexGroup, if_pos (by omega), digitsValue, filled, read, Option.map_some, same,
    Nat.mod_eq_of_lt fits]
  rfl

theorem joined_characters {pieces : List Text} {char : Char}
    (inside : char ∈ [':'].intercalate pieces) : char = ':' \/ exists piece, piece ∈ pieces /\ char ∈ piece := by
  induction pieces with
  | nil => simp [List.intercalate] at inside
  | cons piece rest ih =>
    cases rest with
    | nil => exact .inr ⟨piece, List.mem_cons_self .., by simpa [List.intercalate] using inside⟩
    | cons next later =>
      have whole : [':'].intercalate (piece :: next :: later) =
          piece ++ ':' :: [':'].intercalate (next :: later) := rfl
      rw [whole, List.mem_append, List.mem_cons] at inside
      rcases inside with inside | rfl | inside
      next => exact .inr ⟨piece, List.mem_cons_self .., inside⟩
      next => exact .inl rfl
      next =>
        rcases ih inside with colon | ⟨found, member, inside⟩
        next => exact .inl colon
        next => exact .inr ⟨found, List.mem_cons_of_mem _ member, inside⟩

theorem ipv4?_undotted {text : Text} (undotted : Not ('.' ∈ text)) : ipv4? text = none := by
  rw [ipv4?, List.splitOn_eq_singleton undotted]

theorem groupsOf_hex {pieces : List Text} {groups : List Nat} (some' : pieces ≠ [])
    (undotted : forall piece, piece ∈ pieces -> Not ('.' ∈ piece))
    (read : pieces.mapM hexGroup = some groups) : groupsOf pieces = some groups := by
  induction pieces generalizing groups with
  | nil => exact absurd rfl some'
  | cons piece rest ih =>
    simp only [List.mapM_cons, Option.bind_eq_bind, Option.bind_eq_some_iff, Option.pure_def,
      Option.some.injEq] at read
    obtain ⟨group, first, later, reads, rfl⟩ := read
    by_cases more : rest = []
    next =>
      subst more
      obtain rfl : later = [] := by simpa using reads.symm
      simp [groupsOf, ipv4?_undotted (undotted piece (List.mem_cons_self ..)), first]
    next =>
      have tail := ih more (fun each inside => undotted each (List.mem_cons_of_mem _ inside)) reads
      rw [groupsOf_cons piece rest more, first, tail]
      rfl

/-- Eight groups, each written with any number of digits, spell their address. -/
theorem address?_joined {pieces : List Text} {groups : List Nat}
    (plain : forall piece, piece ∈ pieces -> forall char, char ∈ piece -> char ∈ hexCharacters)
    (read : pieces.mapM hexGroup = some groups) (eight : groups.length = 8) :
    address? ([':'].intercalate pieces) = some (.v6 groups) /\
      normalized ([':'].intercalate pieces) = [':'].intercalate pieces := by
  have characters : forall char, char ∈ [':'].intercalate pieces ->
      char ≠ '.' /\ char ≠ '%' /\ char.toLower = char := by
    intro char inside
    rcases joined_characters inside with rfl | ⟨piece, member, inside⟩
    next => decide
    next => exact (hexCharacters_plain char (plain piece member char inside)).2
  have lower : normalized ([':'].intercalate pieces) = [':'].intercalate pieces := by
    have same : ([':'].intercalate pieces).map Char.toLower = [':'].intercalate pieces :=
      (List.map_congr_left fun char inside => (characters char inside).2.2).trans (List.map_id _)
    rw [normalized, same, List.takeWhile_eq_self_iff]
    intro char inside
    simpa using (characters char inside).2.1
  have zone : zoneAllowed ([':'].intercalate pieces) = true := by
    have none : ([':'].intercalate pieces).dropWhile (· != '%') = [] := by
      rw [List.dropWhile_eq_nil_iff]
      intro char inside
      simpa using (characters char inside).2.1
    rw [zoneAllowed, none]
  have filled : forall piece, piece ∈ pieces -> piece ≠ [] := by
    rintro piece inside rfl
    obtain ⟨group, found⟩ := mapM_each read inside
    simp [hexGroup_nil] at found
  have several : pieces ≠ [] := by
    rintro rfl
    obtain rfl : groups = [] := by simpa using read.symm
    simp at eight
  have uncolon : forall piece, piece ∈ pieces -> Not (':' ∈ piece) := fun piece member colon =>
    (hexCharacters_plain ':' (plain piece member ':' colon)).1 rfl
  have undotted : forall piece, piece ∈ pieces -> Not ('.' ∈ piece) := fun piece member dot =>
    (hexCharacters_plain '.' (plain piece member '.' dot)).2.1 rfl
  refine ⟨?_, lower⟩
  have parts : (normalized ([':'].intercalate pieces)).splitOn ':' = pieces := by
    rw [lower, List.splitOn_intercalate ':' uncolon several]
  have before : pieces.takeWhile (· != []) = pieces := by
    rw [List.takeWhile_eq_self_iff]
    intro piece inside
    simpa using filled piece inside
  have behind : pieces.dropWhile (· != []) = [] := by
    rw [List.dropWhile_eq_nil_iff]
    intro piece inside
    simpa using filled piece inside
  have found : ipv6? ([':'].intercalate pieces) = some groups := by
    rw [ipv6?, if_pos zone, parts, ipv6Groups, before, behind]
    simp [groupsOf_hex several undotted read, eight]
  rw [address?, ipv4?_undotted fun dot => (characters '.' dot).1 rfl, found]
  rfl

-- An address with its first groups written as given and the others in full.
def spelled (leading : List Text) (rest : List Nat) : Text :=
  [':'].intercalate (leading ++ rest.map (hexText 4))

theorem spelled_address {leading : List Text} {values rest : List Nat}
    (plain : forall piece, piece ∈ leading -> forall char, char ∈ piece -> char ∈ hexCharacters)
    (read : leading.mapM hexGroup = some values) (eight : (values ++ rest).length = 8)
    (small : forall group, group ∈ values ++ rest -> group < 65536) :
    address? (spelled leading rest) = some (.v6 (values ++ rest)) /\
      normalized (spelled leading rest) = spelled leading rest := by
  have others : (rest.map (hexText 4)).mapM hexGroup = some rest := by
    have each : forall group, group ∈ rest -> hexGroup (hexText 4 group) = some group :=
      fun group inside => hexGroup_hexText (by decide) (by decide)
        (small group (List.mem_append_right _ inside))
    clear eight small
    induction rest with
    | nil => rfl
    | cons group rest ih =>
      have first := each group (List.mem_cons_self ..)
      have later := ih fun other inside => each other (List.mem_cons_of_mem _ inside)
      simp [first, later]
  refine address?_joined ?_ (by simp [List.mapM_append, read, others]) eight
  intro piece inside
  rcases List.mem_append.1 inside with inside | inside
  next => exact plain piece inside
  next =>
    obtain ⟨group, _, rfl⟩ := List.mem_map.1 inside
    exact hexText_plain 4 group

theorem spelled_cons (piece : Text) (leading : List Text) (next : Nat) (rest : List Nat) :
    exists tail, spelled (piece :: leading) (next :: rest) = piece ++ ':' :: tail := by
  cases leading with
  | nil => exact ⟨_, rfl⟩
  | cons first leading => exact ⟨_, rfl⟩

end Spelled

section Agreement

-- Two spellings of one address that are answered differently.
def Ambiguous (groups : List Nat) : Prop :=
  exists first second, address? first = some (.v6 groups) /\ address? second = some (.v6 groups) /\
    isPublicCatalogMediaAddress first = true /\ isPublicCatalogMediaAddress second = false

theorem answered_iff {text : Text} {groups : List Nat} {char : Char} {tail : Text}
    (read : address? text = some (.v6 groups)) (same : normalized text = text)
    (head : text = char :: tail) : isPublicCatalogMediaAddress text = true <->
      (char = '2' \/ char = '3') /\ documentationPrefix.isPrefixOf text = false := by
  rw [(address?_v6 read).2, publicIpv6_head (same.trans head), same]

-- The digits of a short first group end before those of the prefix do.
theorem shortened_answered {lead scale width : Nat} (tail : Text)
    (listed : (scale, width) ∈ [(1, 1), (16, 2), (256, 3)])
    (shortened : lead / scale = 2 \/ lead / scale = 3) :
    exists char rest, hexText width lead ++ ':' :: tail = char :: rest /\ (char = '2' \/ char = '3') /\
      documentationPrefix.isPrefixOf (hexText width lead ++ ':' :: tail) = false := by
  have digit : hexChar (lead / scale % 16) = '2' \/ hexChar (lead / scale % 16) = '3' := by
    rcases shortened with same | same
    next => exact .inl (by rw [same]; rfl)
    next => exact .inr (by rw [same]; rfl)
  simp only [List.mem_cons, Prod.mk.injEq, List.not_mem_nil, or_false] at listed
  rw [documentationPrefix_chars]
  rcases listed with ⟨rfl, rfl⟩ | ⟨rfl, rfl⟩ | ⟨rfl, rfl⟩
  next =>
    rw [Nat.div_one] at digit
    exact ⟨_, _, rfl, digit, by simp [hexText, List.isPrefixOf]⟩
  next => exact ⟨_, _, rfl, digit, by simp [hexText, List.isPrefixOf]⟩
  next =>
    rw [show (256 : Nat) = 16 * 16 from rfl, <- Nat.div_div_eq_div_mul] at digit
    exact ⟨_, _, rfl, digit, by simp [hexText, List.isPrefixOf]⟩

theorem ambiguous_short {lead next : Nat} {rest : List Nat} {scale : Nat}
    (eight : (lead :: next :: rest).length = 8)
    (small : forall group, group ∈ lead :: next :: rest -> group < 65536)
    (listed : scale ∈ [1, 16, 256]) (shortened : lead / scale = 2 \/ lead / scale = 3) :
    Ambiguous (lead :: next :: rest) := by
  obtain ⟨width, paired, fits⟩ : exists width, (scale, width) ∈ [(1, 1), (16, 2), (256, 3)] /\
      lead < 16 ^ width := by
    simp only [List.mem_cons, List.not_mem_nil, or_false] at listed
    rcases listed with rfl | rfl | rfl
    next => exact ⟨1, by decide, by omega⟩
    next => exact ⟨2, by decide, by omega⟩
    next => exact ⟨3, by decide, by omega⟩
  have bounds : 0 < width /\ width <= 3 := by
    simp only [List.mem_cons, Prod.mk.injEq, List.not_mem_nil, or_false] at paired
    omega
  have short : lead < 4096 := Nat.lt_of_lt_of_le fits (Nat.pow_le_pow_right (by decide) bounds.2)
  have plain : forall width piece, piece ∈ [hexText width lead] -> forall char, char ∈ piece ->
      char ∈ hexCharacters := by
    intro width piece inside
    obtain rfl := List.mem_singleton.1 inside
    exact hexText_plain width lead
  obtain ⟨read, same⟩ := @spelled_address [hexText width lead] [lead] (next :: rest) (plain width)
    (by simp [hexGroup_hexText bounds.1 (by omega) fits]) eight small
  obtain ⟨read', same'⟩ := @spelled_address [hexText 4 lead] [lead] (next :: rest) (plain 4)
    (by simp [hexGroup_hexText (by decide) (by decide) (show lead < 16 ^ 4 by omega)]) eight small
  refine ⟨_, _, read, read', ?_, ?_⟩
  next =>
    obtain ⟨tail, text⟩ := spelled_cons (hexText width lead) [] next rest
    obtain ⟨char, rest', head, digit, unlisted⟩ := shortened_answered tail paired shortened
    rw [answered_iff read same (text.trans head), text]
    exact ⟨digit, unlisted⟩
  next =>
    obtain ⟨tail, text⟩ := spelled_cons (hexText 4 lead) [] next rest
    have zero : hexChar (lead / 16 / 16 / 16 % 16) = '0' := by
      rw [show lead / 16 / 16 / 16 % 16 = 0 by omega]
      rfl
    have head : spelled [hexText 4 lead] (next :: rest) = hexChar (lead / 16 / 16 / 16 % 16) :: _ := text
    rw [Bool.eq_false_iff, ne_eq, answered_iff read' same' head, zero]
    rintro ⟨digit, _⟩
    exact absurd digit (by decide)

theorem ambiguous_documentation {rest : List Nat} (eight : (0x2001 :: 0xdb8 :: rest).length = 8)
    (small : forall group, group ∈ 0x2001 :: 0xdb8 :: rest -> group < 65536) :
    Ambiguous (0x2001 :: 0xdb8 :: rest) := by
  obtain ⟨next, later, rfl⟩ : exists next later, rest = next :: later :=
    List.exists_cons_of_ne_nil (by rintro rfl; simp at eight)
  have plain : forall piece, piece ∈ [hexText 4 0x2001, hexText 4 0xdb8] \/
      piece ∈ [hexText 4 0x2001, hexText 3 0xdb8] -> forall char, char ∈ piece ->
      char ∈ hexCharacters := by
    simp only [List.mem_cons, List.not_mem_nil, or_false]
    rintro piece ((rfl | rfl) | rfl | rfl) <;> exact hexText_plain _ _
  obtain ⟨read, same⟩ := @spelled_address [hexText 4 0x2001, hexText 4 0xdb8] [0x2001, 0xdb8]
    (next :: later) (fun piece inside => plain piece (.inl inside)) (by decide) eight small
  obtain ⟨read', same'⟩ := @spelled_address [hexText 4 0x2001, hexText 3 0xdb8] [0x2001, 0xdb8]
    (next :: later) (fun piece inside => plain piece (.inr inside)) (by decide) eight small
  refine ⟨_, _, read, read', ?_, ?_⟩
  next =>
    have head : spelled [hexText 4 0x2001, hexText 4 0xdb8] (next :: later) =
        '2' :: '0' :: '0' :: '1' :: ':' :: '0' :: _ := rfl
    rw [answered_iff read same head]
    refine ⟨.inl rfl, ?_⟩
    rw [head, documentationPrefix_chars]
    simp [List.isPrefixOf]
  next =>
    have head : spelled [hexText 4 0x2001, hexText 3 0xdb8] (next :: later) =
        '2' :: '0' :: '0' :: '1' :: ':' :: 'd' :: 'b' :: '8' :: ':' :: _ := rfl
    rw [Bool.eq_false_iff, ne_eq, answered_iff read' same' head]
    rintro ⟨_, unlisted⟩
    rw [head, documentationPrefix_chars] at unlisted
    simp [List.isPrefixOf] at unlisted

theorem Ambiguous.not_classified {text : Text} {groups : List Nat} (ambiguous : Ambiguous groups) :
    Not (ClassifiedByValue text (.v6 groups)) := by
  obtain ⟨first, second, read, read', answered, refused⟩ := ambiguous
  intro classified
  have same := (classified.spelling first read).trans (classified.spelling second read').symm
  rw [answered, refused] at same
  exact absurd same (by decide)

/-- An address is classified by its value exactly when no short first group and no documentation
prefix lets its spelling decide. -/
theorem classified_iff_unambiguous {text : Text} {address : Address}
    (read : address? text = some address) :
    ClassifiedByValue text address <-> Unambiguous address := by
  cases address with
  | v4 address =>
    refine ⟨fun _ => trivial, fun _ => ?_⟩
    have spells : forall other, address? other = some (.v4 address) -> other = address.text := by
      intro other read
      unfold address? at read
      split at read
      next found parsed =>
        obtain rfl := Address.v4.inj (Option.some.inj read)
        exact ipv4?_some parsed
      next => simp at read
    have four : isIP text = 4 := by rw [isIP, read]
    have same := spells text read
    refine ⟨?_, by simp, ?_⟩
    next =>
      intro other read'
      rw [spells other read', same]
    next =>
      rintro ipv4 ⟨⟩
      rw [isPublicCatalogMediaAddress, if_pos four, same]
      exact publicIpv4_text address
  | v6 groups =>
    constructor
    next =>
      intro classified
      obtain ⟨shape, _⟩ := address?_v6 read
      obtain ⟨lead, next, rest, rfl⟩ : exists lead next rest, groups = lead :: next :: rest := by
        have eight := shape.eight
        obtain _ | ⟨lead, _ | ⟨next, rest⟩⟩ := groups
        next => simp at eight
        next => simp at eight
        next => exact ⟨lead, next, rest, rfl⟩
      refine ⟨?_, ?_⟩
      next =>
        rintro ⟨_, _, scale, ⟨⟩, listed, shortened⟩
        exact (ambiguous_short shape.eight shape.small listed shortened).not_classified classified
      next =>
        intro documented
        obtain ⟨rfl, rfl⟩ := (documentation_iff shape).1 documented
        exact (ambiguous_documentation shape.eight shape.small).not_classified classified
    next =>
      intro fair
      refine ⟨?_, ?_, by simp⟩
      next =>
        intro other read'
        rw [Bool.eq_iff_iff, public_iff_unicast read' fair, public_iff_unicast read fair]
      next =>
        rintro _ ⟨⟩ accepted
        exact ⟨(public_iff_unicast read fair).1 accepted, fair.2⟩

theorem resolver_address_classified :
    ClassifiedByValue "2606:4700:4700::1111".toList
      (.v6 [0x2606, 0x4700, 0x4700, 0, 0, 0, 0, 0x1111]) := by
  refine (classified_iff_unambiguous (by decide +kernel)).2 ⟨?_, ?_⟩
  next =>
    rintro ⟨lead, rest, scale, ⟨⟩, listed, shortened⟩
    revert listed shortened
    simp only [List.mem_cons, List.not_mem_nil, or_false]
    rintro (rfl | rfl | rfl) <;> decide
  next =>
    unfold Documentation
    decide +kernel

-- A leading zero admits the documentation range, and two digits an address far below 2000::/3.
theorem spelling_decides :
    (address? "2001:0db8::1".toList = some (.v6 [0x2001, 0xdb8, 0, 0, 0, 0, 0, 1]) /\
      Not (ClassifiedByValue "2001:0db8::1".toList (.v6 [0x2001, 0xdb8, 0, 0, 0, 0, 0, 1]))) /\
      address? "2::1".toList = some (.v6 [2, 0, 0, 0, 0, 0, 0, 1]) /\
        Not (ClassifiedByValue "2::1".toList (.v6 [2, 0, 0, 0, 0, 0, 0, 1])) := by
  refine ⟨⟨by decide +kernel, fun classified => ?_⟩, by decide +kernel, fun classified => ?_⟩
  next =>
    have documented : Documentation [0x2001, 0xdb8, 0, 0, 0, 0, 0, 1] := by
      unfold Documentation
      decide +kernel
    exact (classified.ipv6 _ rfl (by decide +kernel)).2 documented
  next =>
    have outside : Not (GlobalUnicast [2, 0, 0, 0, 0, 0, 0, 1]) := by
      unfold GlobalUnicast
      decide +kernel
    exact outside (classified.ipv6 _ rfl (by decide +kernel)).1

end Agreement

end VapeCommerce.Catalog.MediaAddress
