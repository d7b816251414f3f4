import VapeCommerce.Lib.Outcome
import VapeCommerce.Lib.PercentEncoding
import VapeCommerce.Schema

set_option autoImplicit false

-- delivery/courier-whatsapp.ts: the message a courier gets about an order, and the link that sends it
namespace VapeCommerce.Delivery.CourierWhatsapp

open VapeCommerce.Lib.Outcome VapeCommerce.Lib.PercentEncoding VapeCommerce.Schema

def templateMaxLength : Nat := 2000

def renderedMaxLength : Nat := 4000

inductive Token where
  | orderNumber
  | customerName
  | customerPhone
  | deliveryAddress
  | governorate
  | delegation
  | locality
  | amountToCollect
  | orderNotes
deriving DecidableEq, Repr

def templateTokens : List (Token × Units) :=
  [(.orderNumber, units "orderNumber".toList), (.customerName, units "customerName".toList),
    (.customerPhone, units "customerPhone".toList), (.deliveryAddress, units "deliveryAddress".toList),
    (.governorate, units "governorate".toList), (.delegation, units "delegation".toList),
    (.locality, units "locality".toList), (.amountToCollect, units "amountToCollect".toList),
    (.orderNotes, units "orderNotes".toList)]

-- `none` is a value that is not a string.
abbrev TemplateValues := Token -> Option Units

structure LinkInput where
  courierPhoneE164 : Text
  template : Units
  values : TemplateValues

structure Link where
  renderedMessage : Units
  url : Text
deriving DecidableEq, Repr

inductive ErrorCode where
  | phoneInvalid
  | templateEmpty
  | templateTooLong
  | templateTokenMalformed
  | templateTokenUnknown
  | valueInvalid
  | messageEmpty
  | messageTooLong
  | messageInvalidUnicode
deriving DecidableEq, Repr

def isDigit (char : Char) : Bool :=
  '0' <= char && char <= '9'

def e164PhonePattern : Text -> Bool
  | '+' :: first :: digits =>
    '1' <= first && first <= '9' && digits.all isDigit && 7 <= digits.length && digits.length <= 14
  | _ => false

def tunisianPhonePattern : Text -> Bool
  | '+' :: '2' :: '1' :: '6' :: first :: digits =>
    "24579".toList.contains first && digits.all isDigit && digits.length == 7
  | _ => false

def lineFeed : UInt16 := 0x0a
def openBrace : UInt16 := 0x7b
def closeBrace : UInt16 := 0x7d

def between (first last : Nat) (unit : UInt16) : Bool :=
  first <= unit.toNat && unit.toNat <= last

def isLetter (unit : UInt16) : Bool :=
  between 0x41 0x5a unit || between 0x61 0x7a unit

def isNameUnit (unit : UInt16) : Bool :=
  isLetter unit || between 0x30 0x39 unit

def hasBrace (text : Units) : Bool :=
  text.contains openBrace || text.contains closeBrace

def isUnsafeFormatCharacter (unit : UInt16) : Bool :=
  unit == 0x00ad || unit == 0x061c || unit == 0x200b || unit == 0x200e || unit == 0x200f ||
    between 0x202a 0x202e unit || between 0x2060 0x206f unit || unit == 0xfeff

def joinLineBreaks : Units -> Units
  | 0x0d :: 0x0a :: rest => lineFeed :: joinLineBreaks rest
  | unit :: rest => unit :: joinLineBreaks rest
  | [] => []

def lineBreak (unit : UInt16) : UInt16 :=
  if unit == 0x0d || unit == 0x85 || unit == 0x2028 || unit == 0x2029 then lineFeed else unit

-- No surrogate is dropped, so that walking units drops what walking code points does.
def sanitizeMessageText (value : Units) : Units :=
  ((joinLineBreaks value).map lineBreak).filter fun unit =>
    unit == lineFeed ||
      !(between 0 0x1f unit || between 0x7f 0x9f unit || isUnsafeFormatCharacter unit)

def appendWithinRenderedLimit (current value : Units) : Except ErrorCode Units := do
  throwIf (renderedMaxLength < current.length + value.length) .messageTooLong
  pure (current ++ value)

-- A token at the very start: its name and what comes after it.
def tokenAt : Units -> Option (Units × Units)
  | first :: second :: rest =>
    match rest.takeWhile isNameUnit, rest.dropWhile isNameUnit with
    | initial :: name, third :: fourth :: after =>
      if first == openBrace && second == openBrace && isLetter initial && third == closeBrace &&
          fourth == closeBrace then
        some (initial :: name, after)
      else none
    | _, _ => none
  | _ => none

-- The next match of the token pattern, with the literal before it.
def nextToken : Units -> Option (Units × Units × Units)
  | [] => none
  | unit :: rest =>
    match tokenAt (unit :: rest) with
    | some (name, after) => some ([], name, after)
    | none => (nextToken rest).map fun (literal, name, after) => (unit :: literal, name, after)

def allowedToken (name : Units) : Option Token :=
  (templateTokens.find? fun entry => entry.2 == name).map Prod.fst

theorem tokenAt_source {text name after : Units} (found : tokenAt text = some (name, after)) :
    text = openBrace :: openBrace :: (name ++ closeBrace :: closeBrace :: after) := by
  unfold tokenAt at found
  split at found
  next first second rest =>
    split at found
    next initial others third fourth following named unnamed =>
      split at found
      next braces =>
        simp only [Bool.and_eq_true, beq_iff_eq] at braces
        simp only [Option.some.injEq, Prod.mk.injEq] at found
        obtain ⟨rfl, rfl⟩ := found
        have whole := List.takeWhile_append_dropWhile (p := isNameUnit) (l := rest)
        rw [named, unnamed] at whole
        rw [<- whole, braces.1.1.1.1, braces.1.1.1.2, braces.1.2, braces.2]
      next => cases found
    next => cases found
  next => cases found

theorem nextToken_source {text literal name after : Units}
    (found : nextToken text = some (literal, name, after)) :
    text = literal ++ openBrace :: openBrace :: (name ++ closeBrace :: closeBrace :: after) := by
  induction text generalizing literal with
  | nil => cases found
  | cons unit rest ih =>
    unfold nextToken at found
    split at found
    next here =>
      cases found
      exact tokenAt_source here
    next =>
      obtain ⟨⟨before, _, _⟩, later, same⟩ := Option.map_eq_some_iff.1 found
      cases same
      rw [List.cons_append, <- ih later]

theorem nextToken_shorter {text literal name after : Units}
    (found : nextToken text = some (literal, name, after)) : after.length < text.length := by
  rw [nextToken_source found]
  simp
  omega

def renderFrom (values : TemplateValues) (renderedMessage text : Units) : Except ErrorCode Units :=
  match _found : nextToken text with
  | none => do
    throwIf (hasBrace text = true) .templateTokenMalformed
    appendWithinRenderedLimit renderedMessage (sanitizeMessageText text)
  | some (literal, name, after) => do
    throwIf (hasBrace literal = true) .templateTokenMalformed
    let token <- orThrow (allowedToken name) .templateTokenUnknown
    let value <- orThrow (values token) .valueInvalid
    throwIf (renderedMaxLength < value.length) .messageTooLong
    let withLiteral <- appendWithinRenderedLimit renderedMessage (sanitizeMessageText literal)
    let withValue <- appendWithinRenderedLimit withLiteral (sanitizeMessageText value)
    renderFrom values withValue after
termination_by text.length
decreasing_by exact nextToken_shorter _found

-- `renderedMessage.trim().length === 0`; every blank is a single unit.
def isBlank (text : Units) : Bool :=
  text.all fun unit => isSpace (Char.ofNat unit.toNat)

def renderCourierWhatsAppTemplate (template : Units) (values : TemplateValues) : Except ErrorCode Units := do
  throwIf (template.length = 0) .templateEmpty
  throwIf (templateMaxLength < template.length) .templateTooLong
  let renderedMessage <- renderFrom values [] template
  throwIf (isBlank renderedMessage = true) .messageEmpty
  pure renderedMessage

def validateCourierPhoneE164 (courierPhoneE164 : Text) : Except ErrorCode Unit :=
  throwIf (e164PhonePattern courierPhoneE164 = false \/
    ("+216".toList.isPrefixOf courierPhoneE164 = true /\ tunisianPhonePattern courierPhoneE164 = false))
    .phoneInvalid

def buildCourierWhatsAppLink (input : LinkInput) : Except ErrorCode Link := do
  validateCourierPhoneE164 input.courierPhoneE164
  let renderedMessage <- renderCourierWhatsAppTemplate input.template input.values
  let encodedMessage <- orThrow (encodeURIComponent renderedMessage) .messageInvalidUnicode
  pure {
    renderedMessage
    url := "https://wa.me/".toList ++ input.courierPhoneE164.drop 1 ++ "?text=".toList ++ encodedMessage }

section Pieces

-- A template as it is meant: literals, and tokens between double braces.
inductive Piece where
  | literal (text : Units)
  | placeholder (token : Token)

def tokenName (token : Token) : Units :=
  ((templateTokens.find? fun entry => entry.1 == token).map Prod.snd).getD []

def Piece.source : Piece -> Units
  | .literal text => text
  | .placeholder token => openBrace :: openBrace :: (tokenName token ++ [closeBrace, closeBrace])

def Piece.filled (values : TemplateValues) : Piece -> Units
  | .literal text => sanitizeMessageText text
  | .placeholder token => sanitizeMessageText ((values token).getD [])

-- Every brace of the template belongs to one of the tokens.
structure Composed (template : Units) (pieces : List Piece) : Prop where
  source : template = pieces.flatMap Piece.source
  plain : forall text, .literal text ∈ pieces -> hasBrace text = false

-- The values that a template asks for are strings that are not too long.
def Supplied (values : TemplateValues) (pieces : List Piece) : Prop :=
  forall token, .placeholder token ∈ pieces ->
    exists value, values token = some value /\ value.length <= renderedMaxLength

theorem appendWithinRenderedLimit_ok {current value result : Units} :
    appendWithinRenderedLimit current value = .ok result <->
      result = current ++ value /\ result.length <= renderedMaxLength := by
  simp only [appendWithinRenderedLimit, bind_ok, throwIf_ok, pure_ok]
  constructor
  next =>
    rintro ⟨_, within, rfl⟩
    exact ⟨rfl, by simpa using within⟩
  next =>
    rintro ⟨rfl, within⟩
    exact ⟨(), by simpa using within, rfl⟩

theorem allowedToken_name {name : Units} {token : Token} (allowed : allowedToken name = some token) :
    name = tokenName token := by
  obtain ⟨entry, found, rfl⟩ := Option.map_eq_some_iff.1 allowed
  have same := List.find?_some found
  have named : forall entry : Token × Units, entry ∈ templateTokens -> entry.2 = tokenName entry.1 := by
    decide +kernel
  exact (beq_iff_eq.1 same).symm.trans (named entry (List.mem_of_find?_eq_some found))

theorem renderFrom_tail {values : TemplateValues} {renderedMessage text message : Units}
    (absent : nextToken text = none) :
    renderFrom values renderedMessage text = .ok message <->
      hasBrace text = false /\ message = renderedMessage ++ sanitizeMessageText text /\
        message.length <= renderedMaxLength := by
  rw [renderFrom]
  split
  next => simp [appendWithinRenderedLimit_ok]
  next present => rw [absent] at present; cases present

theorem renderFrom_token {values : TemplateValues} {renderedMessage text literal name after message : Units}
    (found : nextToken text = some (literal, name, after)) :
    renderFrom values renderedMessage text = .ok message <->
      hasBrace literal = false /\ exists token value, allowedToken name = some token /\
        values token = some value /\ value.length <= renderedMaxLength /\
        (renderedMessage ++ sanitizeMessageText literal ++ sanitizeMessageText value).length <=
          renderedMaxLength /\
        renderFrom values (renderedMessage ++ sanitizeMessageText literal ++ sanitizeMessageText value) after =
          .ok message := by
  rw [renderFrom]
  split
  next absent => rw [found] at absent; cases absent
  next present =>
    rw [found] at present
    cases present
    simp only [bind_ok, throwIf_ok, orThrow_ok, appendWithinRenderedLimit_ok, Bool.not_eq_true,
      Nat.not_lt]
    constructor
    next =>
      rintro ⟨_, plain, token, allowed, value, supplied, _, short, _, ⟨rfl, _⟩, _, ⟨rfl, within⟩, rest⟩
      exact ⟨plain, token, value, allowed, supplied, short, within, rest⟩
    next =>
      rintro ⟨plain, token, value, allowed, supplied, short, within, rest⟩
      refine ⟨(), plain, token, allowed, value, supplied, (), short, _, ⟨rfl, ?_⟩, _, ⟨rfl, within⟩, rest⟩
      rw [List.length_append] at within
      omega

-- A success is what the pieces say, which are the template's own; without them there is none.
structure RenderedBy (text : Units) (pieces : List Piece) : Prop where
  composed : Composed text pieces
  exact : forall values renderedMessage message, renderedMessage.length <= renderedMaxLength ->
    (renderFrom values renderedMessage text = .ok message <->
      Supplied values pieces /\ message = renderedMessage ++ pieces.flatMap (Piece.filled values) /\
        message.length <= renderedMaxLength)

theorem RenderedBy.tail {text : Units} (absent : nextToken text = none) (plain : hasBrace text = false) :
    RenderedBy text [.literal text] := by
  refine ⟨⟨by simp [Piece.source], by simp [plain]⟩, fun values renderedMessage message _ => ?_⟩
  rw [renderFrom_tail absent]
  simp [plain, Supplied, Piece.filled]

theorem RenderedBy.token {text literal name after : Units} {token : Token} {pieces : List Piece}
    (found : nextToken text = some (literal, name, after)) (plain : hasBrace literal = false)
    (allowed : allowedToken name = some token) (rest : RenderedBy after pieces) :
    RenderedBy text (.literal literal :: .placeholder token :: pieces) := by
  refine ⟨⟨?_, ?_⟩, fun values renderedMessage message _ => ?_⟩
  next =>
    rw [nextToken_source found, rest.composed.source, allowedToken_name allowed]
    simp [Piece.source]
  next =>
    intro other member
    simp only [List.mem_cons, Piece.literal.injEq, reduceCtorEq, false_or] at member
    cases member with
    | inl same => rw [same]; exact plain
    | inr later => exact rest.composed.plain other later
  next =>
    have joined : forall value, values token = some value ->
        renderedMessage ++ (Piece.literal literal :: .placeholder token :: pieces).flatMap (Piece.filled values) =
          renderedMessage ++ sanitizeMessageText literal ++ sanitizeMessageText value ++
            pieces.flatMap (Piece.filled values) := by
      intro value supplied
      simp [Piece.filled, supplied]
    rw [renderFrom_token found]
    constructor
    next =>
      rintro ⟨_, other, value, named, supplied, short, within, rendered⟩
      cases allowed.symm.trans named
      obtain ⟨others, same, bounded⟩ := (rest.exact values _ message within).1 rendered
      refine ⟨fun asked member => ?_, same.trans (joined value supplied).symm, bounded⟩
      simp only [List.mem_cons, reduceCtorEq, Piece.placeholder.injEq, false_or] at member
      cases member with
      | inl same => exact ⟨value, same ▸ supplied, short⟩
      | inr later => exact others asked later
    next =>
      rintro ⟨all, same, bounded⟩
      obtain ⟨value, supplied, short⟩ := all token (by simp)
      have whole := same.trans (joined value supplied)
      have within : (renderedMessage ++ sanitizeMessageText literal ++ sanitizeMessageText value).length <=
          renderedMaxLength := by
        rw [whole, List.length_append] at bounded
        omega
      refine ⟨plain, token, value, allowed, supplied, short, within, ?_⟩
      refine (rest.exact values _ message within).2 ⟨fun asked member => ?_, whole, bounded⟩
      exact all asked (List.mem_cons_of_mem _ (List.mem_cons_of_mem _ member))

theorem renderFrom_cases (text : Units) :
    (exists pieces, RenderedBy text pieces) \/
      forall values renderedMessage message, Not (renderFrom values renderedMessage text = .ok message) := by
  generalize size : text.length = count
  induction count using Nat.strongRecOn generalizing text with
  | ind count ih =>
    cases following : nextToken text with
    | none =>
      cases braces : hasBrace text with
      | true =>
        refine .inr fun values renderedMessage message rendered => ?_
        exact absurd ((renderFrom_tail following).1 rendered).1 (by simp [braces])
      | false => exact .inl ⟨_, RenderedBy.tail following braces⟩
    | some found =>
      obtain ⟨literal, name, after⟩ := found
      cases ih after.length (size ▸ nextToken_shorter following) after rfl with
      | inr never =>
        refine .inr fun values renderedMessage message rendered => ?_
        obtain ⟨_, _, _, _, _, _, _, later⟩ := (renderFrom_token following).1 rendered
        exact never _ _ _ later
      | inl remaining =>
        obtain ⟨pieces, rest⟩ := remaining
        by_cases usable : hasBrace literal = false /\ exists token, allowedToken name = some token
        next =>
          obtain ⟨plain, token, allowed⟩ := usable
          exact .inl ⟨_, RenderedBy.token following plain allowed rest⟩
        next =>
          refine .inr fun values renderedMessage message rendered => usable ?_
          obtain ⟨plain, token, _, allowed, _⟩ := (renderFrom_token following).1 rendered
          exact ⟨plain, token, allowed⟩

end Pieces

section Messages

-- Unicode's control characters, and those that change the direction of a text.
def isControl (unit : UInt16) : Bool :=
  between 0 0x1f unit || between 0x7f 0x9f unit

def isBidirectionalControl (unit : UInt16) : Bool :=
  unit == 0x061c || unit == 0x200e || unit == 0x200f || between 0x202a 0x202e unit ||
    between 0x2066 0x2069 unit

def Harmless (unit : UInt16) : Prop :=
  (unit = lineFeed \/ isControl unit = false) /\ isBidirectionalControl unit = false

theorem sanitizeMessageText_harmless {value : Units} {unit : UInt16}
    (member : unit ∈ sanitizeMessageText value) : Harmless unit := by
  have kept := (List.mem_filter.1 member).2
  simp only [Bool.or_eq_true, beq_iff_eq, Bool.not_eq_true', Bool.or_eq_false_iff] at kept
  cases kept with
  | inl feed =>
    rw [feed]
    unfold Harmless
    decide
  | inr safe =>
    obtain ⟨⟨low, high⟩, format⟩ := safe
    refine ⟨.inr (by rw [isControl, low, high]; rfl), ?_⟩
    simp only [isUnsafeFormatCharacter, isBidirectionalControl, between, Bool.or_eq_false_iff,
      Bool.and_eq_false_iff, decide_eq_false_iff_not] at format ⊢
    refine ⟨⟨⟨⟨format.1.1.1.1.1.1.2, format.1.1.1.1.2⟩, format.1.1.1.2⟩, format.1.1.2⟩, ?_⟩
    have isolates := format.1.2
    omega

theorem filled_harmless {values : TemplateValues} {pieces : List Piece} {unit : UInt16}
    (member : unit ∈ pieces.flatMap (Piece.filled values)) : Harmless unit := by
  obtain ⟨piece, -, inside⟩ := List.mem_flatMap.1 member
  cases piece with
  | literal text => exact sanitizeMessageText_harmless inside
  | placeholder token => exact sanitizeMessageText_harmless inside

theorem render_ok {template message : Units} {values : TemplateValues} :
    renderCourierWhatsAppTemplate template values = .ok message <->
      template ≠ [] /\ template.length <= templateMaxLength /\
        renderFrom values [] template = .ok message /\ isBlank message = false := by
  simp only [renderCourierWhatsAppTemplate, bind_ok, throwIf_ok, pure_ok, Nat.not_lt,
    List.length_eq_zero_iff, Bool.not_eq_true]
  constructor
  next =>
    rintro ⟨_, present, _, short, _, rendered, _, visible, rfl⟩
    exact ⟨present, short, rendered, visible⟩
  next =>
    rintro ⟨present, short, rendered, visible⟩
    exact ⟨(), present, (), short, message, rendered, (), visible, rfl⟩

theorem phone_plain {phone : Text} (valid : validateCourierPhoneE164 phone = .ok ()) :
    Not ('?' ∈ "https://wa.me/".toList ++ phone.drop 1) := by
  have pattern : e164PhonePattern phone = true := by
    simp only [validateCourierPhoneE164, throwIf_ok, not_or, Bool.not_eq_false] at valid
    exact valid.1
  unfold e164PhonePattern at pattern
  split at pattern
  next first digits =>
    simp only [Bool.and_eq_true, decide_eq_true_eq, List.all_eq_true] at pattern
    obtain ⟨⟨⟨⟨_, last⟩, each⟩, _⟩, _⟩ := pattern
    intro member
    simp only [List.drop_succ_cons, List.drop_zero, List.mem_append, List.mem_cons] at member
    rcases member with base | rfl | inside
    next => revert base; decide
    next => revert last; decide
    next => have digit := each _ inside; revert digit; decide
  next => cases pattern

theorem build_ok {input : LinkInput} {link : Link} (built : buildCourierWhatsAppLink input = .ok link) :
    renderCourierWhatsAppTemplate input.template input.values = .ok link.renderedMessage /\
      searchParameter "text".toList link.url = some link.renderedMessage := by
  simp only [buildCourierWhatsAppLink, bind_ok, orThrow_ok, pure_ok] at built
  obtain ⟨_, valid, message, rendered, component, encoded, rfl⟩ := built
  refine ⟨rendered, ?_⟩
  have name_plain : forall char, char ∈ "text".toList -> char ≠ '=' /\ char ≠ '&' /\ char ≠ '#' :=
    List.all_iff_forall_prop.1 (by decide)
  have parameter := parameter_of_link ("https://wa.me/".toList ++ input.courierPhoneE164.drop 1)
    encoded (phone_plain valid) name_plain
  simpa using parameter

/--
Every template is rendered as its own pieces, whatever the values, or for no values at all:
a value takes the place of its token once, and what it looks like is not read again. The
message is within the limit and keeps no control character but the line feed, and the link
that sends it carries exactly the message.
-/
theorem message_composed_and_carried :
    (forall template : Units,
      (exists pieces, Composed template pieces /\ forall values message,
        renderCourierWhatsAppTemplate template values = .ok message <->
          template ≠ [] /\ template.length <= templateMaxLength /\ Supplied values pieces /\
            message = pieces.flatMap (Piece.filled values) /\ message.length <= renderedMaxLength /\
            isBlank message = false) \/
      forall values message, Not (renderCourierWhatsAppTemplate template values = .ok message)) /\
    (forall template values message, renderCourierWhatsAppTemplate template values = .ok message ->
      message.length <= renderedMaxLength /\ forall unit, unit ∈ message -> Harmless unit) /\
    forall input link, buildCourierWhatsAppLink input = .ok link ->
      renderCourierWhatsAppTemplate input.template input.values = .ok link.renderedMessage /\
        searchParameter "text".toList link.url = some link.renderedMessage := by
  refine ⟨fun template => ?_, fun template values message rendered => ?_, fun input link => build_ok⟩
  next =>
    cases renderFrom_cases template with
    | inl composed =>
      obtain ⟨pieces, rendered⟩ := composed
      refine .inl ⟨pieces, rendered.composed, fun values message => ?_⟩
      rw [render_ok, rendered.exact values [] message (Nat.zero_le _), List.nil_append]
      grind
    | inr never =>
      refine .inr fun values message rendered => ?_
      exact never values [] message (render_ok.1 rendered).2.2.1
  next =>
    have started := (render_ok.1 rendered).2.2.1
    cases renderFrom_cases template with
    | inl composed =>
      obtain ⟨pieces, exact⟩ := composed
      obtain ⟨-, same, bounded⟩ := (exact.exact values [] message (Nat.zero_le _)).1 started
      refine ⟨bounded, fun unit member => ?_⟩
      rw [same, List.nil_append] at member
      exact filled_harmless member
    | inr never => exact absurd started (never values [] message)

-- A customer whose name looks like a token.
def namedLikeToken : LinkInput where
  courierPhoneE164 := "+21620123456".toList
  template := units "Client : {{customerName}}".toList
  values := fun token => if token = .customerName then some (units "{{orderNotes}} & co".toList) else some []

theorem name_is_not_expanded :
    searchParameter "text".toList
        "https://wa.me/21620123456?text=Client%20%3A%20%7B%7BorderNotes%7D%7D%20%26%20co".toList =
      some (units "Client : {{orderNotes}} & co".toList) :=
  (message_composed_and_carried.2.2 namedLikeToken
    { renderedMessage := units "Client : {{orderNotes}} & co".toList
      url := "https://wa.me/21620123456?text=Client%20%3A%20%7B%7BorderNotes%7D%7D%20%26%20co".toList }
    (by decide +kernel)).2

-- The line feed is a control character that a message keeps.
theorem line_feed_kept :
    renderCourierWhatsAppTemplate (units "a\nb".toList) (fun _ => none) = .ok (units "a\nb".toList) /\
      lineFeed ∈ units "a\nb".toList /\ isControl lineFeed = true := by
  decide +kernel

end Messages

end VapeCommerce.Delivery.CourierWhatsapp
