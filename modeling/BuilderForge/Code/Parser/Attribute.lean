import BuilderForge.Code.Parser.Path

set_option autoImplicit false

/-! # Parsing attributes, visibility and blocks

The parts that most other productions begin with, and blocks, whose statements the grammar
supplies. The arguments of an attribute stay tokens; `Attribute.parseArgs` reads them with a parser
of the caller's choice, and `Attribute.nested` reads the usual list of names with something behind
each. -/

namespace BuilderForge.Code

namespace Parser

/-! ## Attributes -/

def attributePath : Parser (Path × Span) := do
  if ← shows (.word "unsafe") then
    let (i, s) ← anyWord
    return (Path.ofIdent i, s)
  else plainPath

/-- Reads the value of an attribute: a literal that ends it, or else an expression. -/
def attributeValue (g : Grammar) : Parser Tree := do
  match ← ahead literal with
  | some (t, c) =>
      if c.rest.isEmpty then
        set c
        return t
      else g.expr true
  | none =>
      if (← shows (.op "#")) && (← shows .brackets 1) then complain .attributeInAttribute
      else g.expr true

def attributeContent (g : Grammar) (inner : Bool) : Parser Attribute := do
  let (path, span) ← attributePath
  if (← shows .parens) || (← shows .brackets) || (← shows .braces) then
    let (d, ts, closing) ← rawGroup
    return ⟨inner, path, span, .list d ts closing⟩
  else if (← shows (.op "=")) && !(← shows (.op "==")) && !(← shows (.op "=>")) then
    let equals ← here
    let _ ← op "="
    return ⟨inner, path, span, .value equals (← attributeValue g)⟩
  else return ⟨inner, path, span, .nothing⟩

def outerAttributes (g : Grammar) : Parser (List Attribute) :=
  manyWhile (shows (.op "#")) do
    let _ ← op "#"
    inGroup .bracket (attributeContent g false)

/-- Reads the attributes at the beginning of a body, which speak of what the body belongs to. -/
def innerAttributes (g : Grammar) : Parser (List Attribute) :=
  manyWhile (return (← shows (.op "#")) && (← shows (.op "!") 1)) do
    let _ ← op "#"
    let _ ← op "!"
    inGroup .bracket (attributeContent g true)

def attributeTrees (g : Grammar) : Parser Tree := return attributesTree (← outerAttributes g)

/-! ## Visibility -/

/-- Reads `pub` with what limits it. Parentheses that hold something else are left alone: they
belong to the field of a tuple. -/
def visibility : Parser Visibility := do
  if !(← shows (.word "pub")) then return .inherited
  let _ ← word "pub"
  if !(← shows .parens) then return .everywhere
  let limited : Parser (Option Visibility) := inGroup .paren do
    if (← shows (.word "crate")) || (← shows (.word "self")) || (← shows (.word "super")) then
      let (i, _) ← anyWord
      if ← atEnd then return some (.within false (Path.ofIdent i))
      else return none
    else if ← shows (.word "in") then
      let _ ← word "in"
      return some (.within true (← plainPath).1)
    else return none
  let before ← get
  match ← limited with
  | some v => return v
  | none =>
      set before
      return .everywhere

/-! ## Blocks -/

def block (g : Grammar) : Parser Tree := return .group .brace (← inGroup .brace g.statements)

/-- Reads a block that can begin with attributes, and answers these apart. -/
def blockWithAttributes (g : Grammar) : Parser (List Attribute × List Tree) :=
  inGroup .brace do
    let attrs ← innerAttributes g
    return (attrs, ← g.statements)

def attributedBlock (g : Grammar) : Parser Tree := do
  let (attrs, body) ← blockWithAttributes g
  return .group .brace (if attrs.isEmpty then body else attributesTree attrs :: body)

/-! ## Arguments of attributes -/

/-- Reads a path of any words without arguments, and where its first name stands. -/
def nestedPath : Parser (Path × Span) := do
  let leading := !(← op? "::").isAbsent
  if !(← get).showsWord then
    if ← atEnd then complain .nestedNothing
    else if ← shows .literal then complain .nestedLiteral
    else complain .nestedToken
  else
    let (first, span) ← anyWord
    let (names, last) ← loop (fun (found : List Ident × Span) => do
      if ← shows (.op "::") then
        let _ ← op "::"
        let (i, s) ← anyWord
        return .inl (i :: found.1, s)
      else return .inr found) ([first], span)
    return (⟨leading, names.reverse.map Segment.ofIdent⟩, span.join last)

/-- Reads names with commas between them; `entry` reads what stands behind each. -/
def nestedEntries {σ : Type} (entry : σ → Path → Span → Parser σ) (s : σ) : Parser σ := do
  if ← atEnd then return s
  loop (fun s => do
    let (path, span) ← nestedPath
    let s ← entry s path span
    if ← atEnd then return .inr s
    let _ ← op ","
    if ← atEnd then return .inr s
    return .inl s) s

end Parser

namespace Attribute

/-- How the path of an attribute is written in a complaint about it. -/
def pathText (a : Attribute) : String :=
  (if a.path.leadingColon then "::" else "")
    ++ "::".intercalate (a.path.segments.map fun s => s.ident.text)

/-- What `p` reads from the arguments of the attribute, all of which it has to read. -/
def parseArgs {α : Type} (a : Attribute) (p : Parser α) : Except ParseError α :=
  match a.args with
  | .nothing => .error ⟨.noArguments a.pathText a.inner true, a.pathSpan, false⟩
  | .value equals _ => .error ⟨.noArguments a.pathText a.inner false, equals, false⟩
  | .list _ ts closing => p.runAll ts closing

end Attribute

end BuilderForge.Code
