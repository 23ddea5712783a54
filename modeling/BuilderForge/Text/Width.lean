import BuilderForge.Text.Ligature

set_option autoImplicit false

/-! # Width of a text

How many columns of a terminal a text takes. That is not the sum over its characters: letters can
become one shape, emoji can be joined to one, and a selector changes the look of the character
before it. A text is read from its end. What has been read is known by its front, with which the
character before it can combine. -/

namespace BuilderForge.Text

/-! ## Fronts -/

/-- The look that a selector asks the character before it to have. -/
inductive Look where
  | own
  | text
  | emoji
  /-- As wide as an ideograph. -/
  | fullWidth
  deriving DecidableEq, Repr

def Look.ofSelector? (n : Nat) : Option Look :=
  match n with
  | 0xfe01 => some .fullWidth
  | 0xfe0e => some .text
  | 0xfe0f => some .emoji
  | _ => none

/-- What a text begins with, as far as a character before it can combine with it. -/
inductive Front where
  | other
  | lineFeed
  /-- A letter that can be part of a ligature, and whether there is a joiner before it. -/
  | letter (l : Ligature) (joined : Bool)
  | alef
  /-- The Kirat Rai vowel e. -/
  | vowelE
  /-- The Kirat Rai vowel ai. -/
  | vowelAi
  | tone
  | emoji
  /-- A joiner before an emoji. -/
  | joinedEmoji
  /-- A keycap that is joined to an emoji. -/
  | joinedKeycap
  /-- The mark of the end of a tag, or such a mark after tag letters and then tag digits before it,
  joined to an emoji. -/
  | joinedTag (letters digits : Nat)
  | indicator
  /-- Two indicators or more. -/
  | indicators
  /-- Indicators that are joined to an emoji, and whether their number is known to be even. -/
  | joinedIndicators (even : Bool)
  /-- A single indicator that is joined to an emoji. -/
  | joinedIndicator
  deriving DecidableEq, Repr

namespace Front

def ofChar (c : Char) : Front :=
  let n := c.toNat
  match Ligature.ofCodePoint? n with
  | some l => .letter l false
  | none =>
      if isAlef n then .alef
      else if n == 0x16d67 then .vowelE
      else if n == 0x16d68 then .vowelAi
      else if isIndicator c then .indicator
      else if isTone c then .tone
      else if emojiRanges.contains c then .emoji
      else .other

/-- Whether an emoji before the front is joined to it. -/
def joinsEmoji : Front → Bool
  | .joinedEmoji | .joinedKeycap => true
  | _ => false

/-- What is left of the front behind a selector that the character before does not follow. -/
def behindSelector : Front → Front
  | .letter l joined => .letter l joined
  | _ => .other

/-- The front behind a selector that asks for a look. -/
def selected (look : Look) (front : Front) : Front :=
  if look = .emoji ∧ front.joinsEmoji then front else front.behindSelector

/-- A character before a joined tag: up to six letters or three digits, the letters last, and the
black flag before them. -/
def beforeTag? (letters digits n : Nat) : Option Front :=
  if 0xe0061 ≤ n && n ≤ 0xe007a && digits == 0 && letters < 6 then
    some (.joinedTag (letters + 1) 0)
  else if 0xe0030 ≤ n && n ≤ 0xe0039 && digits < 3 && letters ≤ 4 then
    some (.joinedTag letters (digits + 1))
  else if n == 0x1f3f4 && (digits == 3 || (digits == 0 && 3 ≤ letters)) then some .emoji
  else none

/-- A character before a joiner and an emoji. -/
def beforeJoined? (c : Char) : Option (Int × Front) :=
  if c.toNat == 0x20e3 then some (0, .joinedKeycap)
  else if isIndicator c then some (1, .joinedIndicator)
  else if isTone c then some (0, .tone)
  else if c.toNat == 0xe007f then some (0, .joinedTag 0 0)
  else if ofChar c = .emoji then some (0, .emoji)
  else none

/-- The columns that a character adds to the text after it if the two combine, and the new front. -/
def before? (c : Char) (front : Front) : Option (Int × Front) :=
  let n := c.toNat
  match front with
  | .other | .lineFeed | .joinedKeycap => none
  | .letter l joined =>
      if isJoiner c then some (0, .letter l true)
      else if isUnseen c then some (0, front)
      else
        (l.before? joined n).map fun (columns, l?) =>
          (columns, match l? with | some l => .letter l false | none => .other)
  | .alef =>
      if isLam n then some (0, .other) else if isTransparent c then some (0, .alef) else none
  | .vowelE =>
      match n with
      | 0x16d63 | 0x16d69 => some (0, .other)
      | 0x16d67 => some (0, .vowelAi)
      | 0x16d68 => some (1, .vowelE)
      | _ => none
  | .vowelAi => if n == 0x16d63 then some (0, .other) else none
  | .tone =>
      if tonedRanges.contains c then some (0, .emoji)
      else if isJoiner c then some (0, .joinedEmoji)
      else none
  | .emoji => if isJoiner c then some (0, .joinedEmoji) else none
  | .joinedEmoji => beforeJoined? c
  | .joinedTag letters digits => (beforeTag? letters digits n).map fun front => (0, front)
  | .indicator => if isIndicator c then some (1, .indicators) else none
  | .indicators =>
      if isIndicator c then some (1, .indicators)
      else if isJoiner c then some (0, .joinedEmoji)
      else none
  | .joinedIndicator => if isIndicator c then some (-1, .joinedIndicators true) else none
  | .joinedIndicators even =>
      if isIndicator c then some (if even then 3 else -1, .joinedIndicators !even)
      else if isJoiner c then some (0, .joinedEmoji)
      else none

end Front

/-! ## Reading from the end -/

/-- A text that has been read: its columns, its front, and the look that a selector at its start
asks for. -/
structure Measured where
  columns : Int := 0
  front : Front := .other
  look : Look := .own
  deriving DecidableEq, Repr

namespace Measured

/-- A front that adds columns, and asks for no look. -/
def add (m : Measured) (columns : Int) (front : Front) : Measured :=
  { columns := m.columns + columns, front }

def before (c : Char) (m : Measured) : Measured :=
  let n := c.toNat
  let front := if m.look = .own then m.front else m.front.behindSelector
  if m.look = .emoji ∧ variableRanges.contains c then
    m.add (if m.front.joinsEmoji then 0 else 2) .emoji
  else if n == 0xa then m.add 1 .lineFeed
  else if n == 0xd && front = .lineFeed then m.add 0 .other
  else if n ≤ 0xa0 then m.add 1 .other
  else
    match Look.ofSelector? n with
    | some look => { m with front := front.selected look, look }
    | none =>
        if m.look = .text ∧ variableRanges.contains c ∧ emojiRanges.contains c ∧ !isFramed c then
          m.add 1 .other
        else if m.look = .fullWidth ∧ n ∈ [0x2018, 0x2019, 0x201c, 0x201d] then m.add 2 .other
        else
          let (columns, front) := (front.before? c).getD (charWidth c, .ofChar c)
          m.add columns front

end Measured

/-- A text, read from its end. -/
def measure (cs : List Char) : Measured := cs.foldr Measured.before {}

def charsWidth (cs : List Char) : Nat := (measure cs).columns.toNat

def width (s : String) : Nat := charsWidth s.toList

end BuilderForge.Text
