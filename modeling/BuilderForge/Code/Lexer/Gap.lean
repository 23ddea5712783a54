import BuilderForge.Text.Blank

set_option autoImplicit false

/-! # Gaps between tokens

Between two tokens stand white space, line comments and nested block comments. A *documentation
comment* is no gap: it is read as an attribute, and the text it documents with is what stands
between its markers. -/

namespace BuilderForge.Code.Lexer

def startsWith (s : List Char) (t : String) : Bool := t.toList.isPrefixOf s

/-- The rest of `s` behind `t`, if it begins with it. -/
def expect? (t : String) (s : List Char) : Option (List Char) :=
  if startsWith s t then some (s.drop t.length) else none

/-- White space between tokens, which includes the two direction marks. -/
def isGap (c : Char) : Bool := Text.isBlank c || c == '\u200e' || c == '\u200f'

/-- The text up to the end of the line, and the rest from the line feed on. A carriage return in
front of the line feed belongs to neither. -/
def lineText : List Char → List Char × List Char
  | [] => ([], [])
  | '\n' :: r => ([], '\n' :: r)
  | '\r' :: '\n' :: r => ([], '\n' :: r)
  | c :: r => let (text, rest) := lineText r; (c :: text, rest)

/-- Behind `depth` open block comments: the text up to the end of the outermost one without its
last marker, and the rest behind it. -/
def blockText : Nat → List Char → Option (List Char × List Char)
  | _, [] => none
  | depth, '/' :: '*' :: r =>
      (blockText (depth + 1) r).map fun (text, rest) => ('/' :: '*' :: text, rest)
  | depth, '*' :: '/' :: r =>
      if depth ≤ 1 then some ([], r)
      else (blockText (depth - 1) r).map fun (text, rest) => ('*' :: '/' :: text, rest)
  | depth, c :: r => (blockText depth r).map fun (text, rest) => (c :: text, rest)

/-- What a documentation comment at the beginning of `s` says, whether it speaks of the item it
stands in, and the rest behind it. -/
def docComment? (s : List Char) : Option (List Char × Bool × List Char) :=
  match s with
  | '/' :: '/' :: '!' :: r => let (text, rest) := lineText r; some (text, true, rest)
  | '/' :: '*' :: '!' :: r => (blockText 1 r).map fun (text, rest) => (text, true, rest)
  | '/' :: '/' :: '/' :: '/' :: _ => none
  | '/' :: '/' :: '/' :: r => let (text, rest) := lineText r; some (text, false, rest)
  | '/' :: '*' :: '*' :: '*' :: _ => none
  | '/' :: '*' :: '*' :: r => (blockText 1 r).map fun (text, rest) => (text, false, rest)
  | _ => none

def hasLoneReturn : List Char → Bool
  | [] => false
  | '\r' :: '\n' :: r => hasLoneReturn r
  | '\r' :: _ => true
  | _ :: r => hasLoneReturn r

def comment? (s : List Char) : Option (List Char) :=
  match s with
  | '/' :: '/' :: '/' :: '/' :: r => some (lineText r).2
  | '/' :: '/' :: '/' :: _ => none
  | '/' :: '/' :: '!' :: _ => none
  | '/' :: '/' :: r => some (lineText r).2
  | '/' :: '*' :: '*' :: '/' :: r => some r
  | '/' :: '*' :: '*' :: '*' :: r => (blockText 1 ('*' :: '*' :: r)).map (·.2)
  | '/' :: '*' :: '*' :: _ => none
  | '/' :: '*' :: '!' :: _ => none
  | '/' :: '*' :: r => (blockText 1 r).map (·.2)
  | _ => none

/-- Skips at most `fuel` stretches of white space and comments. -/
def skipGapsWithin : Nat → List Char → List Char
  | 0, s => s
  | fuel + 1, s =>
      let r := s.dropWhile isGap
      match comment? r with
      | some rest => skipGapsWithin fuel rest
      | none => r

/-- The rest of `s` behind all white space and comments at its beginning. -/
def skipGaps (s : List Char) : List Char := skipGapsWithin (s.length + 1) s

end BuilderForge.Code.Lexer
