import BuilderForge.Code.Parser.Basic

set_option autoImplicit false

/-! # Parsing paths

Types, expressions, patterns, statements and items contain each other. A parser of one of them
takes the others from a `Grammar`; `Code/Parser/File.lean` ties the knot.

In a path that names a type, angle brackets follow a name directly; in a path that names a value
they need `::` in front, because `<` compares there. -/

namespace BuilderForge.Code

/-- What is allowed as a bound: the list of captured parameters, and `const` in front of a trait. -/
structure BoundRules where
  captures : Bool
  consts : Bool

/-- The parsers that the productions of the grammar need of each other. -/
structure Grammar where
  /-- A type; `plus` says whether it can go on with `+` and a bound. -/
  type : (plus : Bool) → Parser Tree
  /-- A bound of a type. -/
  bound : BoundRules → Parser Tree
  /-- An expression; `braces` says whether a path in it can go on with the fields of a struct. -/
  expr : (braces : Bool) → Parser Tree
  /-- An operand of a binary operator. -/
  operand : (braces : Bool) → Parser Tree
  /-- An expression at the beginning of a statement. -/
  leading : Parser Tree
  /-- A pattern without alternatives at its top. -/
  pattern : Parser Tree
  /-- The statements of a block, up to the end of the group. -/
  statements : Parser (List Tree)
  /-- An item with the attributes in front of it. -/
  item : Parser Item
  /-- What a `use` item brings in; `root` says whether `::` can stand in front of it. There is no
  answer where it does. -/
  useTree : (root : Bool) → Parser (Option UseTree)

namespace Parser

/-- The words that a path can consist of although they are no identifiers. -/
def placeWords : List String := ["super", "self", "Self", "crate"]

def showsAnyOf (words : List String) (skip : Nat := 0) : Parser Bool := do
  let c ← get
  return words.any fun w => c.shows (.word w) skip

/-- Reads a path of names without arguments, and where it stands. -/
def plainPath : Parser (Path × Span) := do
  let leading := !(← op? "::").isAbsent
  let found ← loop (fun (found : List (Ident × Span)) => do
    if (← shows .identifier) || (← showsAnyOf placeWords) then
      let i ← anyWord
      if ← shows (.op "::") then
        let _ ← op "::"
        return .inl (i :: found)
      else return .inr ((i :: found), false)
    else return .inr (found, true)) []
  match found with
  | ([], _) =>
      let _ ← ident
      complain .noPathSegment
  | (_ :: _, true) => complain .noPathSegment
  | (last :: before, false) =>
      let all := (last :: before).reverse
      let first := all.headD last
      return (⟨leading, all.map fun (i, _) => Segment.ofIdent i⟩, first.2.join last.2)

end Parser

end BuilderForge.Code
