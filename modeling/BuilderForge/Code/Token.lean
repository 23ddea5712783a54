set_option autoImplicit false

/-! # Tokens

A piece of code is a list of token trees: single tokens and groups between matching delimiters.
Every token carries the span of the text it was read from; a token that was put together rather
than read lies `Span.nowhere`. Two token lists that differ in spans only are written the same way
by `TokenTree.display`. -/

namespace BuilderForge.Code

/-- A place in a text: lines count from one, columns from zero and in characters. -/
structure Position where
  line : Nat
  column : Nat
  deriving DecidableEq, Repr

namespace Position

def start : Position := ⟨1, 0⟩

/-- The place after the character `c` that stands at `p`. -/
def after (p : Position) (c : Char) : Position :=
  if c = '\n' then ⟨p.line + 1, 0⟩ else ⟨p.line, p.column + 1⟩

/-- The place after the characters `cs` that stand at `p`. -/
def afterAll (p : Position) (cs : List Char) : Position := cs.foldl after p

end Position

/-- A stretch of text, `stop` exclusive. -/
structure Span where
  start : Position
  stop : Position
  deriving DecidableEq, Repr

namespace Span

/-- The span of what was not read from a text. -/
def nowhere : Span := ⟨Position.start, Position.start⟩

/-- The stretch from the beginning of `a` to the end of `b`. -/
def join (a b : Span) : Span := ⟨a.start, b.stop⟩

/-- The first `n` characters of a stretch, which lie on one line. -/
def take (s : Span) (n : Nat) : Span := ⟨s.start, ⟨s.start.line, s.start.column + n⟩⟩

end Span

/-- An identifier. A raw one is written `r#name` and can be spelled like a keyword. -/
structure Ident where
  name : String
  raw : Bool := false
  deriving DecidableEq, Repr

namespace Ident

def text (i : Ident) : String := if i.raw then "r#" ++ i.name else i.name

/-- Whether the identifier is written exactly as `s`. -/
def isWritten (i : Ident) (s : String) : Bool := i.text == s

end Ident

/-- The three kinds of bracket. -/
inductive Delimiter where
  | paren
  | bracket
  | brace
  deriving DecidableEq, Repr

namespace Delimiter

def opening : Delimiter → Char
  | .paren => '('
  | .bracket => '['
  | .brace => '\x7b'

def closing : Delimiter → Char
  | .paren => ')'
  | .bracket => ']'
  | .brace => '\x7d'

end Delimiter

/-- A single token. The name of a lifetime is without its quote. A punctuation character is
*joint* when the next character continues the same operator. A literal is kept as written. -/
inductive Token where
  | word (ident : Ident)
  | lifetime (name : String)
  | punct (char : Char) (joint : Bool)
  | literal (text : String)
  deriving DecidableEq, Repr

namespace Token

def text : Token → String
  | .word i => i.text
  | .lifetime name => "'" ++ name
  | .punct c _ => String.singleton c
  | .literal s => s

/-- Whether what follows is written right behind the token. -/
def isJoint : Token → Bool
  | .punct _ joint => joint
  | _ => false

end Token

/-- A token or a group of tokens between delimiters. -/
inductive TokenTree where
  | leaf (token : Token) (span : Span)
  | group (delimiter : Delimiter) (body : List TokenTree) (opening closing : Span)
  deriving Repr

/-- Code as a list of token trees. -/
abbrev Tokens := List TokenTree

namespace TokenTree

/-- The stretch of text from the first to the last character. -/
def span : TokenTree → Span
  | .leaf _ s => s
  | .group _ _ o c => o.join c

/-- Where a complaint about a single token points: the token, of a lifetime only its mark. -/
def leafSpan : Token → Span → Span
  | .lifetime _, s => s.take 1
  | _, s => s

/-- Where a complaint about what begins with this token tree points: the token, or the opening
delimiter. -/
def headSpan : TokenTree → Span
  | .leaf t s => leafSpan t s
  | .group _ _ o _ => o

/-- Where a complaint about this token tree as a whole points: the token, or the group. -/
def wholeSpan : TokenTree → Span
  | .leaf t s => leafSpan t s
  | .group _ _ o c => o.join c

def isLifetime : TokenTree → Bool
  | .leaf (.lifetime _) _ => true
  | _ => false

def isJoint : TokenTree → Bool
  | .leaf t _ => t.isJoint
  | .group .. => false

mutual

/-- How a token tree is written: `(a)`, `[a]`, `{ a }`; empty groups are `()`, `[]`, `{ }`. -/
def display : TokenTree → String
  | .leaf t _ => t.text
  | .group .paren body _ _ => "(" ++ displayAll body ++ ")"
  | .group .bracket body _ _ => "[" ++ displayAll body ++ "]"
  | .group .brace [] _ _ => "\x7b \x7d"
  | .group .brace (t :: ts) _ _ => "\x7b " ++ displayAll (t :: ts) ++ " \x7d"

/-- Token trees are divided by one space, except behind a joint punctuation character. -/
def displayAll : List TokenTree → String
  | [] => ""
  | [t] => display t
  | t :: u :: us => display t ++ (if t.isJoint then "" else " ") ++ displayAll (u :: us)

end

mutual

/-- The number of tokens and groups of a token tree. -/
def size : TokenTree → Nat
  | .leaf _ _ => 1
  | .group _ body _ _ => sizeAll body + 1

def sizeAll : List TokenTree → Nat
  | [] => 0
  | t :: ts => size t + sizeAll ts

end

end TokenTree

namespace Tokens

def size (ts : Tokens) : Nat := TokenTree.sizeAll ts

def display (ts : Tokens) : String := TokenTree.displayAll ts

end Tokens

end BuilderForge.Code
