import BuilderForge.Code.Parser.Statement

set_option autoImplicit false

/-! # Parsing items

Structs, enums and unions, imports, modules, and all other items. An item that is understood but has
no meaning of its own, such as a function without a body, is kept as its tokens. -/

namespace BuilderForge.Code

namespace Cursor

/-- Whether the cursor shows the words that lead up to a function; `safe` says whether `safe` is
one of them. -/
def showsSignature (c : Cursor) (safe : Bool) : Bool :=
  let skip (s : String) (i : Nat) : Nat := if c.shows (.word s) i then i + 1 else i
  let i := skip "async" (skip "const" 0)
  let i := if safe && c.shows (.word "safe") i then i + 1 else skip "unsafe" i
  let i :=
    if c.shows (.word "extern") i then
      if c.shows .stringLiteral (i + 1) then i + 2 else i + 1
    else i
  c.shows (.word "fn") i

def showsMacro (c : Cursor) : Bool :=
  c.shows .identifier || c.shows (.word "self") || c.shows (.word "super")
    || c.shows (.word "crate") || c.shows (.op "::")

end Cursor

namespace Parser

/-- What the path of a macro can begin with. -/
def macroStarts : List Wanted :=
  [.identifier, .word "self", .word "super", .word "crate", .op "::"]

/-- The tokens since `start` as an item without a meaning of its own. -/
def plainItem (start : Cursor) : Parser Tree :=
  return .node .verbatimItem [.raw (← tokensSince start)]

/-! ## Fields -/

/-- Reads a field that has a name. The name `_` stands for fields of a nested type, which is kept as
its tokens; `depth` bounds how deep types are nested. -/
def namedFieldWithin (g : Grammar) : Nat → Parser Field
  | 0 => complain (.wanted [])
  | depth + 1 => do
    let attrs ← outerAttributes g
    let vis ← visibility
    let nameless ← shows (.word "_")
    let (i, span) ← if nameless then anyWord else identAt
    let _ ← op ":"
    let nested := nameless
      && ((← shows (.word "struct")) || ((← shows (.word "union")) && (← shows .braces 1)))
    if nested then
      let start ← get
      let _ ← anyWord
      let _ ← inGroup .brace (commaList (namedFieldWithin g depth))
      return ⟨attrs, vis, some i, span, .raw (← tokensSince start)⟩
    else return ⟨attrs, vis, some i, span, ← g.type true⟩

def namedField (g : Grammar) : Parser Field := fun c =>
  namedFieldWithin g (Tokens.size c.rest + 1) c

def tupleField (g : Grammar) : Parser Field := do
  let attrs ← outerAttributes g
  let vis ← visibility
  let span ← here
  return ⟨attrs, vis, none, span, ← g.type true⟩

def namedFields (g : Grammar) : Parser Fields := do
  let (fields, trailing) ← inGroup .brace (commaListing (namedField g))
  return .named fields trailing

def tupleFields (g : Grammar) : Parser Fields := do
  let (fields, trailing) ← inGroup .paren (commaListing (tupleField g))
  return .tuple fields trailing

/-- Reads the fields of a struct with its `where` clause, which stands in front of braces but behind
parentheses. -/
def structBody (g : Grammar) (generics : Generics) : Parser (Generics × Fields) := do
  let early ← whereClause? g
  if early.isAbsent && (← shows .parens) then
    let fields ← tupleFields g
    let late ← whereClause? g
    if ← shows (.op ";") then
      let _ ← op ";"
      return ({ generics with clause := late }, fields)
    else if late.isAbsent then wantOneOf [.word "where", .op ";"]
    else wantOneOf [.op ";"]
  else if ← shows .braces then
    return ({ generics with clause := early }, ← namedFields g)
  else if ← shows (.op ";") then
    let _ ← op ";"
    return ({ generics with clause := early }, .unit)
  else if early.isAbsent then wantOneOf [.word "where", .parens, .braces, .op ";"]
  else wantOneOf [.braces, .op ";"]

def variant (g : Grammar) : Parser Tree := do
  let attrs ← attributeTrees g
  let _ ← visibility
  let i ← identTree
  let fields ← if ← shows .braces then namedFields g
    else if ← shows .parens then tupleFields g
    else pure .unit
  let eq ← op? "="
  let value ← if eq.isAbsent then pure Tree.absent else g.expr true
  return .node .variant [attrs, i, fields.tree, eq, value]

def structItem (g : Grammar) (attrs : List Attribute) (vis : Visibility) : Parser Item := do
  let _ ← word "struct"
  let (i, span) ← identAt
  let params ← generics g
  let (params, fields) ← structBody g params
  return .struct attrs vis i span params fields

def enumItem (g : Grammar) (attrs : List Attribute) (vis : Visibility) : Parser Item := do
  let _ ← word "enum"
  let (i, span) ← identAt
  let params ← generics g
  let clause ← whereClause? g
  let variants ← inGroup .brace (commaSeparated (variant g))
  return .enum attrs vis i span { params with clause := clause } variants

def unionItem (g : Grammar) (attrs : List Attribute) (vis : Visibility) : Parser Item := do
  let _ ← word "union"
  let (i, span) ← identAt
  let params ← generics g
  let clause ← whereClause? g
  return .union attrs vis i span { params with clause := clause } (← namedFields g)

/-! ## Imports -/

/-- Reads what a `use` item brings in; `root` says whether `::` can stand in front of the trees of a
group. There is no answer where it does. -/
def useTreeOf (g : Grammar) (root : Bool) : Parser (Option UseTree) := do
  if (← shows .identifier) || (← showsAnyOf ["self", "super", "crate", "try"]) then
    let (i, _) ← anyWord
    if ← shows (.op "::") then
      let _ ← op "::"
      return (← g.useTree false).map (UseTree.path i)
    else if ← shows (.word "as") then
      let _ ← word "as"
      if (← shows .identifier) || (← shows (.word "_")) then
        return some (.rename i (← anyWord).1)
      else complain .noAlias
    else return some (.name i)
  else if ← shows (.op "*") then
    let _ ← op "*"
    return some .glob
  else if ← shows .braces then
    let (trees, trailing) ← inGroup .brace <| commaListing do
      if root && (← shows (.op "::")) then
        let _ ← op "::"
        let _ ← g.useTree false
        return none
      else g.useTree root
    return (trees.mapM id).map fun trees => .group trees trailing
  else wantOneOf [.identifier, .word "self", .word "super", .word "crate", .word "try", .op "*",
    .braces]

def useItem (g : Grammar) (begin : Cursor) (attrs : List Attribute) (vis : Visibility) :
    Parser Item := do
  let _ ← word "use"
  let leading := !(← op? "::").isAbsent
  let tree ← g.useTree (!leading)
  let _ ← op ";"
  match tree with
  | some t => return .use attrs vis leading t
  | none => return .other (← plainItem begin)

def externCrateItem (attrs : List Attribute) (vis : Visibility) : Parser Item := do
  let _ ← word "extern"
  let _ ← word "crate"
  let i ← if ← shows (.word "self") then (do return (← anyWord).1) else ident
  let rename ← if ← shows (.word "as") then (do
      let _ ← word "as"
      if ← shows (.word "_") then return some (← anyWord).1 else return some (← ident))
    else pure none
  let _ ← op ";"
  return .externCrate attrs vis i rename

/-! ## Functions -/

/-- Reads the receiver of a method, and where its last word stands. -/
def receiver (g : Grammar) : Parser (List Tree × Span) := do
  let ampersand ← op? "&"
  let isRef := !ampersand.isAbsent
  let a ← if isRef && (← shows .lifetime) then lifetime else pure Tree.absent
  let m ← word? "mut"
  let span ← here
  let s ← word "self"
  if ← shows (.op "::") then complain (.wanted [])
  let colon ← if isRef then pure Tree.absent else op? ":"
  let t ← if colon.isAbsent then pure Tree.absent else g.type true
  return ([ampersand, a, m, s, colon, t], span)

/-- A parameter of a function: a receiver, the last one of a variadic function, or a usual one. -/
inductive FunctionInput where
  | receiver (tree : Tree) (selfSpan : Span)
  | variadic (tree : Tree)
  | typed (tree : Tree)

def bindsSelf : Tree → Bool
  | .node .bindingPattern [.node .absent [], _, .word i, .node .absent [], _] => i.isWritten "self"
  | _ => false

/-- Reads a parameter of a function behind its attributes. The rest of the parameters cannot be a
receiver. -/
def functionInput (g : Grammar) (attrs : Tree) : Parser FunctionInput := do
  match ← ahead (receiver g) with
  | some ((parts, span), c) =>
      set c
      return .receiver (.node .receiver (attrs :: parts)) span
  | none =>
      if (← shows .identifier) && (← shows (.op "<") 1) then
        let wild : Tree := .node .wildPattern [Tree.keyword "_"]
        return .typed (.node .attributed [attrs, .node .typedPattern
          [wild, .op ":", ← g.type true]])
      else
        let p ← g.pattern
        let colon ← op ":"
        if !bindsSelf p && (← shows (.op "...")) then
          let dots ← op "..."
          let comma ← if ← atEnd then pure Tree.absent else op ","
          return .variadic (.node .variadicParam [attrs, .node .sequence [p, colon], dots, comma])
        else return .typed (.node .attributed [attrs, .node .typedPattern
          [p, colon, ← g.type true]])

def functionInputs (g : Grammar) : Parser (List Tree) := do
  let found ← loop (fun (found : List Tree × Bool) => do
    let (found, hasReceiver) := found
    if ← atEnd then return .inr found
    let attrs ← attributeTrees g
    if ← shows (.op "...") then
      let dots ← op "..."
      let comma ← if ← atEnd then pure Tree.absent else op ","
      return .inr (.node .variadicParam [attrs, Tree.absent, dots, comma] :: found)
    match ← functionInput g attrs with
    | .variadic t =>
        return .inr (t :: found)
    | .receiver t span =>
        if hasReceiver then complainAt span .secondReceiver
        if !found.isEmpty then complainAt span .misplacedReceiver
        if ← atEnd then return .inr (t :: found)
        let comma ← op ","
        return .inl (comma :: t :: found, true)
    | .typed t =>
        if ← atEnd then return .inr (t :: found)
        let comma ← op ","
        return .inl (comma :: t :: found, hasReceiver)) ([], false)
  return found.reverse

/-- Reads the head of a function; `safe` says whether the word `safe` can stand in it. The second
answer says whether it does. -/
def signature (g : Grammar) (safe : Bool) : Parser (Tree × Bool) := do
  let isConst ← word? "const"
  let isAsync ← word? "async"
  let isSafe := safe && (← shows (.word "safe"))
  let safety ← if isSafe then word "safe" else word? "unsafe"
  let convention ← abi?
  let f ← word "fn"
  let i ← identTree
  let params ← generics g
  let inputs ← inGroup .paren (functionInputs g)
  let output ← returnType g true
  let clause ← whereClause? g
  return (.node .signature [isConst, isAsync, safety, convention, f, i, params.tree,
    .group .paren inputs, output, clause], isSafe)

/-- Reads the body of a function; attributes in it are put in front of the function. -/
def functionBody (g : Grammar) (attrs : List Attribute) (vis : Visibility) (head : Tree) :
    Parser Tree := do
  let body ← attributedBlock g
  return .node .functionItem [attributesTree attrs, vis.tree, head, body]

def functionItem (g : Grammar) (begin : Cursor) (attrs : List Attribute) (vis : Visibility) :
    Parser Item := do
  let (head, _) ← signature g false
  if ← shows (.op ";") then
    let _ ← op ";"
    return .other (← plainItem begin)
  else return .other (← functionBody g attrs vis head)

/-! ## Named values and types -/

/-- Reads a static behind its attributes and visibility. One without a type or a value is not
known by its name. -/
def staticItem (g : Grammar) (begin : Cursor) (attrs : List Attribute) (vis : Visibility) :
    Parser Item := do
  let s ← word "static"
  let m ← word? "mut"
  let i ← ident
  if ← shows (.op "=") then
    let _ ← op "="
    let _ ← g.expr true
    let _ ← op ";"
    return .other (← plainItem begin)
  let colon ← op ":"
  let t ← g.type true
  if ← shows (.op ";") then
    let _ ← op ";"
    return .other (← plainItem begin)
  let eq ← op "="
  let e ← g.expr true
  let semicolon ← op ";"
  return .named vis i (.node .staticItem
    [attributesTree attrs, vis.tree, s, m, .word i, colon, t, eq, e, semicolon])

/-- Reads the name of a constant, which can be `_`. -/
def constName : Parser Ident := do
  if (← shows .identifier) || (← shows (.word "_")) then return (← anyWord).1
  else wantOneOf [.identifier, .word "_"]

/-- Reads a constant from `const` on: its name, its parts, and whether it takes no parameters; the
fourth answer says whether it has a value. -/
def constParts (g : Grammar) : Parser (Ident × List Tree × Bool × Bool) := do
  let c ← word "const"
  let i ← constName
  let params ← generics g
  let colon ← op ":"
  let t ← g.type true
  let eq ← op? "="
  let e ← if eq.isAbsent then pure Tree.absent else g.expr true
  let clause ← whereClause? g
  let semicolon ← op ";"
  let plain := params.span == Span.nowhere && clause.isAbsent
  return (i, [c, .word i, colon, t, eq, e, semicolon], plain, !eq.isAbsent)

/-- Reads a constant behind its attributes and visibility. One without a value is not known by its
name, and neither is one that takes parameters. -/
def constItem (g : Grammar) (begin : Cursor) (attrs : List Attribute) (vis : Visibility) :
    Parser Item := do
  let (i, parts, plain, hasValue) ← constParts g
  if plain && hasValue then
    return .named vis i (.node .constItem ([attributesTree attrs, vis.tree] ++ parts))
  else return .other (← plainItem begin)

/-- Where the `where` clause of a type stands: in front of the type it stands for, behind it, or at
either place. -/
inductive ClausePlace where
  | before
  | behind
  | either
  deriving DecidableEq

def boundsUntil (g : Grammar) (rules : BoundRules) (stop : Parser Bool) : Parser (List Tree) :=
  separatedUntil stop "+" (g.bound rules)

/-- A type declaration from `type` on. -/
structure TypeParts where
  ident : Ident
  parts : List Tree
  hasBounds : Bool
  hasValue : Bool

/-- Whether the declaration has no bounds and stands for a type. -/
def TypeParts.isPlain (t : TypeParts) : Bool := !t.hasBounds && t.hasValue

/-- Reads a type declaration from `type` on. -/
def typeParts (g : Grammar) (place : ClausePlace) : Parser TypeParts := do
  let w ← word "type"
  let i ← ident
  let params ← generics g
  let colon ← op? ":"
  let bounds ← if colon.isAbsent then pure [] else
    boundsUntil g ⟨false, true⟩
      (return (← shows (.word "where")) || (← shows (.op "=")) || (← shows (.op ";")))
  let early ← if place = .behind then pure Tree.absent else whereClause? g
  let eq ← op? "="
  let t ← if eq.isAbsent then pure Tree.absent else g.type true
  let late ← if place = .before || !early.isAbsent then pure Tree.absent else whereClause? g
  let semicolon ← op ";"
  let parts :=
    [w, .word i, params.tree, colonOf colon bounds, .node .sequence bounds, early, eq, t, late,
      semicolon]
  return ⟨i, parts, !colon.isAbsent, !eq.isAbsent⟩

def typeItem (g : Grammar) (begin : Cursor) (attrs : List Attribute) (vis : Visibility) :
    Parser Item := do
  let t ← typeParts g .before
  if t.isPlain then
    return .named vis t.ident (.node .typeItem ([attributesTree attrs, vis.tree] ++ t.parts))
  else return .other (← plainItem begin)

/-! ## Calls of macros -/

/-- Reads a call of a macro with the semicolon that follows it unless it has braces. -/
def macroTail (attrs : List Attribute) (path : Path) (name : List Tree) : Parser Tree := do
  let (d, ts, _) ← rawGroup
  let semicolon ← if d = .brace then pure Tree.absent else op ";"
  return .node .macroItem ([attributesTree attrs, path.toTree .other, .op "!"] ++ name
    ++ [.group d [.raw ts], semicolon])

/-- Reads a call of a macro among items, which can give a name. -/
def macroItem (attrs : List Attribute) : Parser Item := do
  let (p, _) ← plainPath
  let _ ← op "!"
  let name ← if (← shows .identifier) || (← shows (.word "try")) then
      (do return Tree.word (← anyWord).1)
    else pure Tree.absent
  return .other (← macroTail attrs p [name])

/-- Reads a call of a macro among the items of a trait or of a body. -/
def macroMember (attrs : List Attribute) : Parser Tree := do
  let (p, _) ← plainPath
  let _ ← op "!"
  macroTail attrs p [Tree.absent]

def macroDeclaration (begin : Cursor) : Parser Item := do
  let _ ← word "macro"
  let _ ← ident
  let params ← shows .parens
  if params then
    let _ ← inGroup .paren remaining
  if ← shows .braces then
    let _ ← inGroup .brace remaining
    return .other (← plainItem begin)
  else if params then wantOneOf [.braces]
  else wantOneOf [.parens, .braces]

/-! ## Members of traits, bodies and foreign modules -/

def traitMember (g : Grammar) : Parser Tree := do
  let begin ← get
  let attrs ← outerAttributes g
  let vis ← visibility
  let default ← word? "default"
  let c ← get
  let marked := !vis.isInherited || !default.isAbsent
  let asMember (t : Tree) : Parser Tree := if marked then plainItem begin else return t
  let constFunction := c.shows (.word "const")
    && ["async", "unsafe", "extern", "fn"].any fun s => c.shows (.word s) 1
  if c.showsSignature false || constFunction then
    let (head, _) ← signature g false
    if ← shows .braces then asMember (← functionBody g attrs .inherited head)
    else if ← shows (.op ";") then
      asMember (.node .functionItem [attributesTree attrs, Tree.absent, head, ← op ";"])
    else wantOneOf [.braces, .op ";"]
  else if c.shows (.word "const") then
    if c.shows .identifier 1 || c.shows (.word "_") 1 then
      let (_, parts, plain, _) ← constParts g
      if plain then asMember (.node .constItem ([attributesTree attrs, Tree.absent] ++ parts))
      else plainItem begin
    else
      let _ ← word "const"
      wantOneOf [.identifier, .word "_", .word "async", .word "unsafe", .word "extern", .word "fn"]
  else if c.shows (.word "type") then
    let t ← typeParts g .behind
    asMember (.node .typeItem ([attributesTree attrs, Tree.absent] ++ t.parts))
  else if !marked && c.showsMacro then asMember (← macroMember attrs)
  else if marked then wantOneOf [.word "fn", .word "const", .word "type"]
  else wantOneOf ([.word "fn", .word "const", .word "type"] ++ macroStarts)

def implMember (g : Grammar) : Parser Tree := do
  let begin ← get
  let attrs ← outerAttributes g
  let vis ← visibility
  let hasDefault := (← shows (.word "default")) && !(← shows (.op "!") 1)
  let default ← if hasDefault then word "default" else pure Tree.absent
  let c ← get
  let first : List Wanted := if hasDefault then [] else [.word "default"]
  if c.showsSignature false then
    let (head, _) ← signature g false
    if ← shows (.op ";") then
      let _ ← op ";"
      plainItem begin
    else functionBody g attrs vis (.node .sequence [default, head])
  else if c.shows (.word "const") then
    let (_, parts, plain, hasValue) ← constParts g
    if plain && hasValue then
      return .node .constItem ([attributesTree attrs, vis.tree, default] ++ parts)
    else plainItem begin
  else if c.shows (.word "type") then
    let t ← typeParts g .behind
    if t.isPlain then return .node .typeItem ([attributesTree attrs, vis.tree, default] ++ t.parts)
    else plainItem begin
  else if vis.isInherited && !hasDefault && c.showsMacro then macroMember attrs
  else if vis.isInherited && !hasDefault then
    wantOneOf (first ++ [.word "fn", .word "const", .word "type"] ++ macroStarts)
  else wantOneOf (first ++ [.word "fn", .word "const", .word "type"])

def foreignMember (g : Grammar) : Parser Tree := do
  let begin ← get
  let attrs ← outerAttributes g
  let vis ← visibility
  let c ← get
  if c.showsSignature true then
    let (head, isSafe) ← signature g true
    if ← shows .braces then
      let _ ← attributedBlock g
      plainItem begin
    else
      let semicolon ← op ";"
      if isSafe then plainItem begin
      else return .node .functionItem [attributesTree attrs, vis.tree, head, semicolon]
  else if c.shows (.word "static")
      || ((c.shows (.word "unsafe") || c.shows (.word "safe")) && c.shows (.word "static") 1) then
    let safety ← if c.shows (.word "safe") then word "safe" else word? "unsafe"
    let s ← word "static"
    let m ← word? "mut"
    let i ← identTree
    let colon ← op ":"
    let t ← g.type true
    let hasValue ← shows (.op "=")
    if hasValue then
      let _ ← op "="
      let _ ← g.expr true
    let semicolon ← op ";"
    if hasValue || !safety.isAbsent then plainItem begin
    else return .node .staticItem [attributesTree attrs, vis.tree, s, m, i, colon, t, Tree.absent,
      Tree.absent, semicolon]
  else if c.shows (.word "type") then
    let t ← typeParts g .either
    if t.hasBounds || t.hasValue then plainItem begin
    else return .node .typeItem ([attributesTree attrs, vis.tree] ++ t.parts)
  else if vis.isInherited && c.showsMacro then macroMember attrs
  else if vis.isInherited then
    wantOneOf ([.word "fn", .word "static", .word "type"] ++ macroStarts)
  else wantOneOf [.word "fn", .word "static", .word "type"]

/-- Reads members between braces, behind attributes that speak of the whole. -/
def members (g : Grammar) (member : Parser Tree) : Parser Tree :=
  inGroup .brace do
    let attrs ← innerAttributes g
    let found ← manyToEnd member
    return .group .brace (if attrs.isEmpty then found else attributesTree attrs :: found)

/-- Reads a trait from its name on. -/
def traitRest (g : Grammar) (attrs : List Attribute) (vis : Visibility) (marks : List Tree)
    (i : Ident) (params : Generics) : Parser Item := do
  let colon ← op? ":"
  let supers ← if colon.isAbsent then pure [] else
    boundsUntil g ⟨false, true⟩ (return (← shows (.word "where")) || (← shows .braces))
  let clause ← whereClause? g
  let body ← members g (traitMember g)
  return .named vis i (.node .traitItem ([attributesTree attrs, vis.tree] ++ marks
    ++ [.word i, params.tree, colonOf colon supers, .node .sequence supers, clause, body]))

def traitItem (g : Grammar) (attrs : List Attribute) (vis : Visibility) : Parser Item := do
  let isUnsafe ← word? "unsafe"
  let isAuto ← word? "auto"
  let t ← word "trait"
  let i ← ident
  let params ← generics g
  let marks := [isUnsafe, isAuto, t]
  let whole := !isUnsafe.isAbsent || !isAuto.isAbsent
  if whole || (← shows .braces) || (← shows (.op ":")) || (← shows (.word "where")) then
    traitRest g attrs vis marks i params
  else if ← shows (.op "=") then
    let eq ← op "="
    let bounds ← boundsUntil g ⟨false, false⟩
      (return (← shows (.word "where")) || (← shows (.op ";")))
    let clause ← whereClause? g
    let semicolon ← op ";"
    return .named vis i (.node .traitAlias [attributesTree attrs, vis.tree, t, .word i, params.tree,
      eq, .node .sequence bounds, clause, semicolon])
  else wantOneOf [.braces, .op ":", .word "where", .op "="]

/-- Whether a type is a path without a type in angle brackets. -/
def isPathType : Tree → Bool
  | .path _ _ _ => true
  | _ => false

/-- A path that turned out to name the trait that is implemented. -/
def asTraitName : Tree → Tree
  | .path _ leading segments => .path .other leading segments
  | t => t

def implItem (g : Grammar) (begin : Cursor) (attrs : List Attribute) (vis : Visibility) :
    Parser Item := do
  let default ← word? "default"
  let isUnsafe ← word? "unsafe"
  let i ← word "impl"
  let params ← if (← get).showsParameters then generics g else pure Generics.none
  let isConst := (← shows (.word "const"))
    || ((← shows (.op "?")) && (← shows (.word "const") 1))
  if isConst then
    let _ ← op? "?"
    let _ ← word "const"
  let negative := (← shows (.op "!")) && !(← shows .braces 1)
  let bangAt ← here
  let bang ← if negative then op "!" else pure Tree.absent
  let first ← g.type true
  let isFor ← shows (.word "for")
  if negative && !isFor then complainAt bangAt .negativeInherent
  let head ← if isFor then (do return [bang, asTraitName first, ← word "for", ← g.type true])
    else pure [bang, Tree.absent, Tree.absent, first]
  let clause ← whereClause? g
  let body ← members g (implMember g)
  if !vis.isInherited || isConst || (isFor && !isPathType first) then
    return .other (← plainItem begin)
  else return .other (.node .implItem ([attributesTree attrs, default, isUnsafe, i, params.tree]
    ++ head ++ [clause, body]))

def foreignModule (g : Grammar) (attrs : List Attribute) : Parser Item := do
  let isUnsafe ← word? "unsafe"
  if !(← shows (.word "extern")) then
    let _ ← word "extern"
  let convention ← abi?
  let body ← members g (foreignMember g)
  return .other (.node .foreignModule [attributesTree attrs, isUnsafe, convention, body])

/-- Reads what stands in a module, behind attributes that speak of the module. -/
def moduleContent (g : Grammar) (item : Parser Item) : Parser (List Attribute × List Item) := do
  let attrs ← innerAttributes g
  return (attrs, ← manyToEnd item)

def moduleRest (g : Grammar) (attrs : List Attribute) (vis : Visibility) (isUnsafe : Bool)
    (i : Ident) : Parser Item := do
  if ← shows (.op ";") then
    let _ ← op ";"
    return .module attrs vis isUnsafe i none
  else if ← shows .braces then
    let (inner, items) ← inGroup .brace (moduleContent g g.item)
    return .module (attrs ++ inner) vis isUnsafe i (some items)
  else wantOneOf [.op ";", .braces]

def moduleItem (g : Grammar) (attrs : List Attribute) (vis : Visibility) : Parser Item := do
  let isUnsafe := !(← word? "unsafe").isAbsent
  let _ ← word "mod"
  let i ← if ← shows (.word "try") then (do return (← anyWord).1) else ident
  moduleRest g attrs vis isUnsafe i

/-! ## Items -/

def itemStarts : List Wanted :=
  ["fn", "extern", "use", "static", "const", "unsafe", "mod", "type", "struct", "enum", "union",
    "trait", "auto", "impl", "default", "macro"].map Wanted.word

/-- Reads an item that `extern` begins. `front` is the cursor in front of its visibility. -/
def externItem (g : Grammar) (front : Cursor) (attrs : List Attribute) (vis : Visibility) :
    Parser Item := do
  let c ← get
  if c.shows (.word "crate") 1 then externCrateItem attrs vis
  else if c.shows .braces 1 || (c.shows .stringLiteral 1 && c.shows .braces 2) then
    set front
    foreignModule g attrs
  else if c.shows .stringLiteral 1 then
    let _ ← word "extern"
    let _ ← literal
    wantOneOf [.braces]
  else
    let _ ← word "extern"
    wantOneOf [.word "crate", .braces, .stringLiteral]

/-- Reads an item that `unsafe` begins. `front` is the cursor in front of its visibility. -/
def unsafeItem (g : Grammar) (begin front : Cursor) (attrs : List Attribute) (vis : Visibility) :
    Parser Item := do
  let c ← get
  if c.shows (.word "trait") 1 || (c.shows (.word "auto") 1 && c.shows (.word "trait") 2) then
    traitItem g attrs vis
  else if c.shows (.word "impl") 1 then implItem g begin attrs vis
  else if c.shows (.word "extern") 1 then
    set front
    foreignModule g attrs
  else if c.shows (.word "mod") 1 then moduleItem g attrs vis
  else
    let _ ← word "unsafe"
    wantOneOf [.word "trait", .word "auto", .word "impl", .word "extern", .word "mod"]

def itemOf (g : Grammar) : Parser Item := do
  let begin ← get
  let attrs ← outerAttributes g
  let front ← get
  let vis ← visibility
  let c ← get
  let w (s : String) : Bool := c.shows (.word s)
  if c.showsSignature false then functionItem g begin attrs vis
  else if w "extern" then externItem g front attrs vis
  else if w "use" then useItem g begin attrs vis
  else if w "static" then staticItem g begin attrs vis
  else if w "const" then constItem g begin attrs vis
  else if w "unsafe" then unsafeItem g begin front attrs vis
  else if w "mod" then moduleItem g attrs vis
  else if w "type" then typeItem g begin attrs vis
  else if w "struct" then structItem g attrs vis
  else if w "enum" then enumItem g attrs vis
  else if w "union" && c.shows .identifier 1 then unionItem g attrs vis
  else if w "trait" || (w "auto" && c.shows (.word "trait") 1) then traitItem g attrs vis
  else if w "impl" || (w "default" && !c.shows (.op "!") 1) then implItem g begin attrs vis
  else if w "macro" then macroDeclaration begin
  else if vis.isInherited && c.showsMacro then macroItem attrs
  else if vis.isInherited then wantOneOf (itemStarts ++ macroStarts)
  else wantOneOf itemStarts

end Parser

end BuilderForge.Code
