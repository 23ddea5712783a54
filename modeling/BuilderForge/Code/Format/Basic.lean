import BuilderForge.Code.Item
import BuilderForge.Code.Layout

set_option autoImplicit false

/-! # Formatting: lists and names

Types, expressions, patterns, statements and items are formatted by functions that take each other
from a `Formatter`; `Code/Format.lean` ties the knot. A formatted piece of code is a text with
breaks. -/

namespace BuilderForge.Code

open Layout

/-- The formatting functions that the productions of the grammar need of each other. -/
structure Formatter where
  type : Tree → List Doc
  /-- `lineStart` says whether the expression stands at the beginning of a line. -/
  expr : (lineStart : Bool) → Tree → List Doc
  pattern : Tree → List Doc
  statement : Tree → List Doc
  item : Tree → List Doc

namespace Format

/-! ## Lists -/

def isOp (s : String) : Tree → Bool
  | .op t => s == t
  | _ => false

def elements (separator : String) (parts : List Tree) : List Tree :=
  parts.filter fun t => !isOp separator t

/-- The parts of a sequence, a group or a missing part. -/
def partsOf : Tree → List Tree
  | .node _ parts => parts
  | .group _ body => body
  | _ => []

/-- A part that can be missing, with a text behind it. -/
def optional (t : Tree) (s : String) : List Doc := if t.isAbsent then [] else word s

/-! ## Names -/

/-- A tree without breaks, as its tokens are written without blanks between them. -/
def plain : Tree → String
  | .word i => i.text
  | .op s => s
  | .lifetime name => "'" ++ name
  | .literal s => s
  | .node .negative [_, .literal s] => "-" ++ s
  | t => t.display

def simplePath : Tree → List Doc
  | .path _ leading segments =>
      word ((if leading then "::" else "")
        ++ "::".intercalate (segments.map fun s => s.ident.text))
  | t => word (plain t)

end Format

end BuilderForge.Code
