import BuilderForge.Code.Token
import BuilderForge.Code.Lexer.Literal
import BuilderForge.Text.Quoted

set_option autoImplicit false

/-! # Reading tokens

`tokenize` turns a text into token trees. It fails at the first place where no token can be read,
at a closing delimiter without its opening one, and, if the text ends inside of a group, at the
delimiter that opened the innermost one. -/

namespace BuilderForge.Code

namespace Lexer

/-! ## Single tokens -/

def operatorChars : List Char := "~!@#$%^&*-=+|;:,<.>/?'".toList

/-- Whether `s` begins with an operator character that does not begin a comment. -/
def atOperator : List Char → Bool
  | [] => false
  | '/' :: '/' :: _ => false
  | '/' :: '*' :: _ => false
  | c :: _ => operatorChars.contains c

/-- The raw or plain identifier at the beginning of `s`. The names that stand for a place in the
module tree and the underscore cannot be raw. -/
def ident? (s : List Char) : Option (Ident × List Char) :=
  match s with
  | 'r' :: '#' :: r =>
      match name? r with
      | some (name, rest) =>
          let name := String.ofList name
          if ["_", "super", "self", "Self", "crate"].contains name then none
          else some (⟨name, true⟩, rest)
      | none => none
  | _ => (name? s).map fun (name, rest) => (⟨String.ofList name, false⟩, rest)

/-- What begins like an identifier and is a quoted literal that went wrong. -/
def brokenQuotes : List String :=
  ["r\"", "r#\"", "r##", "b\"", "b'", "br\"", "br#", "c\"", "cr\"", "cr#"]

/-- A lifetime, whose quote is already read. A second quote makes it a broken character. In front of
a quoted literal the quote stands alone. -/
def lifetime? (s : List Char) : Option (Token × List Char) :=
  match ident? s with
  | none => none
  | some (i, rest) =>
      let read :=
        if brokenQuotes.any (startsWith s) then (.punct '\'' true, s) else (.lifetime i.text, rest)
      match rest with
      | '\'' :: _ => none
      | '#' :: _ => if i.raw then some read else none
      | _ => some read

/-- What stands for a value that could not be written. It is a literal, not a group. -/
def missingValue : String := "(/*ERROR*/)"

/-- The token at the beginning of `s`, which stands in no gap, and the rest behind it. -/
def token? (s : List Char) : Option (Token × List Char) :=
  match literal? s <|> expect? missingValue s with
  | some rest => some (.literal (String.ofList (s.take (s.length - rest.length))), rest)
  | none =>
      if atOperator s then
        match s with
        | '\'' :: r => lifetime? r
        | c :: r => some (.punct c (atOperator r), r)
        | [] => none
      else if brokenQuotes.any (startsWith s) then none
      else (ident? s).map fun (i, rest) => (.word i, rest)

/-! ## Token trees -/

/-- A group that is not closed yet: its delimiter, the place of it, and the token trees in front of
it, last first. -/
structure Frame where
  delimiter : Delimiter
  opened : Position
  before : Tokens

/-- How far a text is read: the rest, its place, the open groups, innermost first, and the token
trees since the innermost one was opened, last first. -/
structure Reading where
  rest : List Char
  place : Position
  frames : List Frame
  found : Tokens

def docAttribute (text : List Char) (inner : Bool) (span : Span) : Tokens :=
  let leaf (t : Token) : TokenTree := .leaf t span
  let body := [leaf (.word ⟨"doc", false⟩), leaf (.punct '=' false),
    leaf (.literal (Text.quoteCode (String.ofList text)))]
  [leaf (.punct '#' false)] ++ (if inner then [leaf (.punct '!' false)] else [])
    ++ [.group .bracket body (span.take 1) ⟨span.stop, span.stop⟩]

def opens? : Char → Option Delimiter
  | '(' => some .paren
  | '[' => some .bracket
  | '\x7b' => some .brace
  | _ => none

def closes? : Char → Option Delimiter
  | ')' => some .paren
  | ']' => some .bracket
  | '\x7d' => some .brace
  | _ => none

def Reading.moveTo (r : Reading) (rest : List Char) : Reading :=
  { r with
    rest := rest
    place := r.place.afterAll (r.rest.take (r.rest.length - rest.length)) }

/-- Reads what stands in front, once the gap before it is skipped: a documentation comment, a
delimiter or a token. The error is the place where reading stopped. -/
def Reading.step (r : Reading) : Except Position Reading :=
  match docComment? r.rest with
  | some (text, inner, rest) =>
      if hasLoneReturn text then .error r.place
      else
        let next := r.moveTo rest
        .ok { next with
          found := (docAttribute text inner ⟨r.place, next.place⟩).reverse ++ r.found }
  | none =>
      match r.rest with
      | [] => .error r.place
      | c :: cs =>
          let next := r.moveTo cs
          let opening := if startsWith r.rest missingValue then none else opens? c
          match opening, closes? c with
          | some d, _ => .ok { next with frames := ⟨d, r.place, r.found⟩ :: r.frames, found := [] }
          | none, some d =>
              match r.frames with
              | [] => .error r.place
              | f :: fs =>
                  if f.delimiter = d then
                    let opening : Span := ⟨f.opened, ⟨f.opened.line, f.opened.column + 1⟩⟩
                    let group := .group d r.found.reverse opening ⟨r.place, next.place⟩
                    .ok { next with frames := fs, found := group :: f.before }
                  else .error r.place
          | none, none =>
              match token? r.rest with
              | none => .error r.place
              | some (t, rest) =>
                  let next := r.moveTo rest
                  .ok { next with found := .leaf t ⟨r.place, next.place⟩ :: r.found }

/-- Reads at most `fuel` pieces. -/
def Reading.run : Nat → Reading → Except Position Tokens
  | 0, r => .error r.place
  | fuel + 1, r =>
      let r := r.moveTo (skipGaps r.rest)
      if r.rest.isEmpty then
        match r.frames with
        | [] => .ok r.found.reverse
        | f :: _ => .error f.opened
      else
        match r.step with
        | .error p => .error p
        | .ok next => next.run fuel

end Lexer

/-- The token trees of a text, or the place where reading stopped. A byte order mark at the
beginning is passed over. -/
def tokenize (text : String) : Except Position Tokens :=
  match text.toList with
  | '\ufeff' :: chars =>
      Lexer.Reading.run (chars.length + 1) ⟨chars, Position.start.after '\ufeff', [], []⟩
  | chars => Lexer.Reading.run (chars.length + 1) ⟨chars, Position.start, [], []⟩

end BuilderForge.Code
