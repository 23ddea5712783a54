import BuilderForge.Code.Parser.Expr

set_option autoImplicit false

/-! # Parsing statements

The statements of a block. An expression that does not end with a block needs a semicolon behind it,
unless it is the last of its block. What begins like an item is left to the grammar. -/

namespace BuilderForge.Code

namespace Cursor

/-- Whether the cursor shows the beginning of an item rather than of an expression. -/
def showsItem (c : Cursor) : Bool :=
  let w (s : String) (skip : Nat := 0) : Bool := c.shows (.word s) skip
  let p (s : String) (skip : Nat := 0) : Bool := c.shows (.op s) skip
  ["pub", "extern", "use", "fn", "mod", "type", "struct", "enum", "trait", "impl", "macro"].any
      (fun s => w s)
    || (w "crate" && !p "::" 1)
    || (w "static" && (w "mut" 1
      || (c.shows .identifier 1 && !(w "async" 1 && (w "move" 2 || p "|" 2)))))
    || (w "const" && !(c.shows .braces 1 || w "static" 1
      || (w "async" 1 && !(w "unsafe" 2 || w "extern" 2 || w "fn" 2)) || w "move" 1 || p "|" 1))
    || (w "unsafe" && !c.shows .braces 1)
    || (w "async" && (w "unsafe" 1 || w "extern" 1 || w "fn" 1))
    || (w "union" && c.shows .identifier 1)
    || (w "auto" && w "trait" 1)
    || (w "default" && (w "unsafe" 1 || w "impl" 1))

end Cursor

namespace Parser

/-- Reads a `let` statement. A pattern that can fail to match is followed by what to do then. -/
def localStatement (g : Grammar) (attrs : List Attribute) : Parser Tree := do
  let l ← word "let"
  let p ← g.pattern
  let colon ← op? ":"
  let t ← if colon.isAbsent then pure Tree.absent else g.type true
  let eq ← op? "="
  let e ← if eq.isAbsent then pure Tree.absent else g.expr true
  let canDiverge := !eq.isAbsent && !endsWithBrace e && (← shows (.word "else"))
  let diverge ← if canDiverge then (do return [← word "else", ← block g])
    else pure [Tree.absent, Tree.absent]
  let semicolon ← op ";"
  return .node .local ([attributesTree attrs, l, p, colon, t, eq, e] ++ diverge ++ [semicolon])

/-- An expression with attributes of its leftmost operand, which is what those in front of a
statement speak of. -/
def attachAttributes (attrs : List Attribute) : Tree → Tree
  | .node .assignExpr (l :: rest) => .node .assignExpr (attachAttributes attrs l :: rest)
  | .node .binaryExpr (l :: rest) => .node .binaryExpr (attachAttributes attrs l :: rest)
  | .node .castExpr (l :: rest) => .node .castExpr (attachAttributes attrs l :: rest)
  | e => withAttributes attrs e

def exprStatement (g : Grammar) (attrs : List Attribute) : Parser Tree := do
  let e ← g.leading
  let semicolon ← op? ";"
  let call : Tree := .node .macroStatement [attributesTree attrs, e, semicolon]
  match e, semicolon.isAbsent with
  | .node .macroCall _, false => return call
  | .node .macroCall [_, _, .group .brace _], true => return call
  | _, _ => return .node .exprStatement [attachAttributes attrs e, semicolon]

/-- What the name of a macro at the beginning of a statement turns out to begin. -/
inductive MacroUse where
  /-- A whole statement; the cursor stands behind the name. -/
  | statement (path : Path) (behind : Cursor)
  /-- An item that the macro declares. -/
  | item
  /-- Something else, perhaps an expression. -/
  | none

def macroUse : Parser MacroUse := do
  match ← ahead plainPath with
  | none => return .none
  | some ((p, _), c) =>
      if !c.shows (.op "!") then return .none
      else if c.shows .identifier 1 || c.shows (.word "try") 1 then return .item
      else if c.shows .braces 1 && !((c.shows (.op ".") 2 && !c.shows (.op "..") 2)
          || c.shows (.op "?") 2) then
        return .statement p c
      else return .none

def statement (g : Grammar) : Parser Tree := do
  let start ← get
  let attrs ← outerAttributes g
  let use ← macroUse
  match use with
  | .statement p behind =>
      set behind
      let bang ← op "!"
      let (d, ts, _) ← rawGroup
      let call : Tree := .node .macroCall [p.toTree .other, bang, .group d [.raw ts]]
      return .node .macroStatement [attributesTree attrs, call, ← op? ";"]
  | .item =>
      set start
      return .node .itemStatement [(← g.item).tree]
  | .none =>
      if ← shows (.word "let") then localStatement g attrs
      else if (← get).showsItem then
        set start
        return .node .itemStatement [(← g.item).tree]
      else exprStatement g attrs

/-- Whether a statement has to be the last of its block because it lacks a semicolon. -/
def lacksSemicolon : Tree → Bool
  | .node .exprStatement [e, semicolon] => semicolon.isAbsent && needsSemicolon e
  | _ => false

def statementsOf (g : Grammar) : Parser (List Tree) := do
  let found ← loop (fun (found : List Tree) => do
    if ← shows (.op ";") then
      return .inl (.node .exprStatement [Tree.absent, ← op ";"] :: found)
    if ← atEnd then return .inr found
    let s ← statement g
    if ← atEnd then return .inr (s :: found)
    if lacksSemicolon s then complain .missingSemicolon
    return .inl (s :: found)) []
  return found.reverse

end Parser

end BuilderForge.Code
