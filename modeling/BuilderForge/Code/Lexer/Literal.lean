import BuilderForge.Code.Lexer.Gap
import BuilderForge.Text.Word

set_option autoImplicit false

/-! # Literals

Each function of this module takes the text at a literal and answers the rest behind it, or `none`
if no literal of its kind stands there. A literal can end in a suffix that is spelled like an
identifier (`1u8`, `"a"c`). -/

namespace BuilderForge.Code.Lexer

/-! ## Identifiers -/

/-- The name at the beginning of `s`, if there is one, and the rest behind it. -/
def name? : List Char → Option (List Char × List Char)
  | [] => none
  | c :: r =>
      if Text.isWordStart c then
        some (c :: r.takeWhile Text.isWordPart, r.dropWhile Text.isWordPart)
      else none

/-- The rest of `s` behind a name, or `s` itself. -/
def skipSuffix (s : List Char) : List Char :=
  match name? s with
  | some (_, rest) => rest
  | none => s

/-! ## Text between quotes -/

/-- The three kinds of quoted text: of characters, of bytes, and of bytes that end in a zero. -/
inductive QuotedKind where
  | chars
  | bytes
  | zeroEnded
  deriving DecidableEq

def isHexDigit (c : Char) : Bool :=
  c.isDigit || ('a' ≤ c && c ≤ 'f') || ('A' ≤ c && c ≤ 'F')

def hexValue (c : Char) : Nat :=
  if c.isDigit then c.toNat - '0'.toNat
  else if 'a' ≤ c && c ≤ 'f' then 10 + (c.toNat - 'a'.toNat)
  else if 'A' ≤ c && c ≤ 'F' then 10 + (c.toNat - 'A'.toNat)
  else 0

/-- Whether the two digits behind `\x` name a character of `kind`. -/
def hexPairFits (kind : QuotedKind) (a b : Char) : Bool :=
  match kind with
  | .chars => '0' ≤ a && a ≤ '7' && isHexDigit b
  | .bytes => isHexDigit a && isHexDigit b
  | .zeroEnded => isHexDigit a && isHexDigit b && !(a == '0' && b == '0')

/-- The digits of a code point in braces, behind its opening brace: the value and the rest. At most
six digits, underscores only behind the first. -/
def codePoint? (value digits : Nat) : List Char → Option (Nat × List Char)
  | [] => none
  | c :: r =>
      if isHexDigit c then
        if digits = 6 then none else codePoint? (value * 16 + hexValue c) (digits + 1) r
      else if c == '_' && digits > 0 then codePoint? value digits r
      else if c == '\x7d' && digits > 0 then
        if value.isValidChar then some (value, r) else none
      else none

/-- The rest behind a `\u` escape, whose backslash and letter are already read. -/
def unicodeEscape? : List Char → Option (Nat × List Char)
  | '\x7b' :: r => codePoint? 0 0 r
  | _ => none

/-- The letters that name an escape by themselves. -/
def isPlainEscape (kind : QuotedKind) (c : Char) : Bool :=
  c == 'n' || c == 'r' || c == 't' || c == '\\' || c == '\'' || c == '"'
    || (c == '0' && kind != .zeroEnded)

/-- Whether `c` can stand for itself in quoted text of `kind`. -/
def standsForItself (kind : QuotedKind) (c : Char) : Bool :=
  match kind with
  | .chars => true
  | .bytes => c.toNat < 0x80
  | .zeroEnded => c.toNat != 0

/-- The rest behind the closing quote. `joining` says that a backslash ended the line before, so
that white space at the beginning is skipped. A carriage return needs a line feed behind it. -/
def quotedWithin (kind : QuotedKind) : Nat → Bool → List Char → Option (List Char)
  | 0, _, _ => none
  | _ + 1, _, [] => none
  | fuel + 1, joining, c :: r =>
      if c == '\r' then
        match r with
        | '\n' :: r' => quotedWithin kind fuel joining r'
        | _ => none
      else if joining && (c == ' ' || c == '\t' || c == '\n') then quotedWithin kind fuel true r
      else if c == '"' then some r
      else if c == '\\' then
        match r with
        | 'x' :: a :: b :: r' =>
            if hexPairFits kind a b then quotedWithin kind fuel false r' else none
        | 'u' :: r' =>
            if kind = .bytes then none
            else
              match unicodeEscape? r' with
              | some (value, r'') =>
                  if kind = .zeroEnded && value == 0 then none else quotedWithin kind fuel false r''
              | none => none
        | '\n' :: r' => quotedWithin kind fuel true r'
        | '\r' :: r' => quotedWithin kind fuel true ('\r' :: r')
        | e :: r' => if isPlainEscape kind e then quotedWithin kind fuel false r' else none
        | [] => none
      else if standsForItself kind c then quotedWithin kind fuel false r
      else none

def quoted? (kind : QuotedKind) (s : List Char) : Option (List Char) :=
  quotedWithin kind (s.length + 1) false s

def rawBody? (kind : QuotedKind) (hashes : List Char) : List Char → Option (List Char)
  | [] => none
  | '\r' :: r =>
      match r with
      | '\n' :: r' => rawBody? kind hashes r'
      | _ => none
  | c :: r =>
      if c == '"' && hashes.isPrefixOf r then some (r.drop hashes.length)
      else if standsForItself kind c then rawBody? kind hashes r
      else none

/-- The rest behind quoted text without escapes, from its marks on. -/
def raw? (kind : QuotedKind) (s : List Char) : Option (List Char) :=
  let hashes := s.takeWhile (· == '#')
  match s.dropWhile (· == '#') with
  | '"' :: r => if hashes.length > 255 then none else rawBody? kind hashes r
  | _ => none

/-- The rest behind one character or one byte between single quotes, whose opening quote is already
read. -/
def single? (kind : QuotedKind) (s : List Char) : Option (List Char) :=
  let body : Option (List Char) :=
    match s with
    | '\\' :: 'x' :: a :: b :: r => if hexPairFits kind a b then some r else none
    | '\\' :: 'u' :: r => if kind = .chars then (unicodeEscape? r).map (·.2) else none
    | '\\' :: e :: r => if isPlainEscape kind e then some r else none
    | ['\\'] => none
    | c :: r => if standsForItself kind c then some r else none
    | [] => none
  body.bind (expect? "'")

/-! ## Numbers -/

/-- Where the digits behind an exponent letter end. A sign stands in front of the first digit. -/
def exponent? (signed valued : Bool) : List Char → Option (List Char)
  | [] => if valued then some [] else none
  | c :: r =>
      if c == '+' || c == '-' then
        if valued then some (c :: r) else if signed then none else exponent? true valued r
      else if c.isDigit then exponent? signed true r
      else if c == '_' then exponent? signed valued r
      else if valued then some (c :: r) else none

/-- Where the digits of a number with a point or an exponent end, behind its first digit. A second
point or a name behind the point speak of a range or a field instead. -/
def fraction? (pointed : Bool) : List Char → Option (List Char)
  | [] => if pointed then some [] else none
  | c :: r =>
      if c.isDigit || c == '_' then fraction? pointed r
      else if c == '.' then
        if pointed then some (c :: r)
        else
          match r with
          | d :: _ => if d == '.' || Text.isWordStart d then none else fraction? true r
          | [] => fraction? true r
      else if c == 'e' || c == 'E' then
        match exponent? false false r with
        | some rest => some rest
        | none => if pointed then some (c :: r) else none
      else if pointed then some (c :: r) else none

def digits? (base : Nat) (empty : Bool) : List Char → Option (List Char)
  | [] => if empty then none else some []
  | c :: r =>
      if c.isDigit then
        if hexValue c < base then digits? base false r else none
      else if isHexDigit c && hexValue c < base then digits? base false r
      else if c == '_' then
        if empty && base == 10 then none else digits? base empty r
      else if empty then none else some (c :: r)

def atWordEnd? : List Char → Option (List Char)
  | [] => some []
  | c :: r => if Text.isWordPart c then none else some (c :: r)

def float? : List Char → Option (List Char)
  | [] => none
  | c :: r =>
      if c.isDigit then (fraction? false r).bind fun rest => atWordEnd? (skipSuffix rest) else none

def integer? (s : List Char) : Option (List Char) :=
  let body : Option (List Char) :=
    match s with
    | '0' :: 'x' :: r => digits? 16 true r
    | '0' :: 'o' :: r => digits? 8 true r
    | '0' :: 'b' :: r => digits? 2 true r
    | _ => digits? 10 true s
  body.bind fun rest => atWordEnd? (skipSuffix rest)

/-! ## Any literal -/

def literal? (s : List Char) : Option (List Char) :=
  let string : Option (List Char) :=
    match s with
    | '"' :: r => quoted? .chars r
    | 'r' :: r => raw? .chars r
    | _ => none
  let byteString : Option (List Char) :=
    match s with
    | 'b' :: '"' :: r => quoted? .bytes r
    | 'b' :: 'r' :: r => raw? .bytes r
    | _ => none
  let zeroEndedString : Option (List Char) :=
    match s with
    | 'c' :: '"' :: r => quoted? .zeroEnded r
    | 'c' :: 'r' :: r => raw? .zeroEnded r
    | _ => none
  let character : Option (List Char) :=
    match s with
    | 'b' :: '\'' :: r => single? .bytes r
    | '\'' :: r => single? .chars r
    | _ => none
  match string <|> byteString <|> zeroEndedString <|> character with
  | some rest => some (skipSuffix rest)
  | none => float? s <|> integer? s

end BuilderForge.Code.Lexer
