import BuilderForge.Code.Parser.Attribute

set_option autoImplicit false

/-! # Parsing types

Types, the bounds of generic parameters, generic arguments, and the paths that carry them. -/

namespace BuilderForge.Code

namespace Cursor

/-- Whether `<` behind the first `skip` tokens begins parameters rather than a type, as it can
behind `impl` or `for`. -/
def showsParameters (c : Cursor) (skip : Nat := 0) : Bool :=
  let p (s : String) (i : Nat) : Bool := c.shows (.op s) (skip + i)
  p "<" 0
    && (p ">" 1 || p "#" 1
      || ((c.shows .lifetime (skip + 1) || c.shows .identifier (skip + 1))
        && (p ">" 2 || p "," 2 || (p ":" 2 && !p "::" 2) || p "=" 2))
      || c.shows (.word "const") (skip + 1))

end Cursor

namespace Parser

/-! ## Generic arguments -/

/-- Reads a constant among generic arguments: a literal, a name or a block. -/
def constArgument (g : Grammar) : Parser Tree := do
  if ← shows .literal then literal
  else if ← shows .identifier then return .path .value false [Segment.ofIdent (← ident)]
  else if ← shows .braces then return .node .blockExpr [Tree.absent, ← attributedBlock g]
  else complain (.wanted [])

def returnType (g : Grammar) (plus : Bool) : Parser Tree := do
  if ← shows (.op "->") then
    let arrow ← op "->"
    return .node .returnType [arrow, ← g.type plus]
  else return Tree.absent

/-- Reads what stands between angle brackets as one argument. -/
def genericArgument (g : Grammar) : Parser Tree := do
  if (← shows .lifetime) && !(← shows (.op "+") 1) then lifetime
  else if (← shows .literal) || (← shows .braces) then
    return .node .constArg [← constArgument g]
  else
    let t ← g.type true
    match t with
    | .path .type false [.mk i args] =>
        let angled := match args with
          | none => true
          | some (.node .angleArgs _) => true
          | some _ => false
        let args := args.getD Tree.absent
        if !angled then return t
        else if ← shows (.op "=") then
          let eq ← op "="
          if (← shows .literal) || (← shows .braces) then
            return .node .assocConst [.word i, args, eq, ← constArgument g]
          else return .node .assocType [.word i, args, eq, ← g.type true]
        else if ← shows (.op ":") then
          let colon ← op ":"
          let bounds ← separatedWhile (return (← shows (.op ",")) || (← shows (.op ">"))) "+"
            (g.bound ⟨false, true⟩)
          return .node .constraint ([.word i, args, colon] ++ bounds)
        else return t
    | _ => return t

/-- Reads generic arguments between angle brackets, from `::` or `<` on. -/
def angleArguments (g : Grammar) : Parser Tree := do
  let colons ← op? "::"
  let lt ← op "<"
  let args ← separatedUntil (shows (.op ">")) "," (genericArgument g)
  let gt ← op ">"
  return .node .angleArgs [colons, lt, .node .parameters args, gt]

/-- Reads arguments in parentheses and the type they lead to. -/
def parenArguments (g : Grammar) : Parser Tree := do
  let inputs ← inGroup .paren (commaSeparated (g.type true))
  let output ← returnType g false
  return .node .parenArgs [.group .paren inputs, output]

/-! ## Paths -/

def segment (g : Grammar) (value : Bool) : Parser Segment := do
  if ← showsAnyOf ["super", "self", "crate", "try"] then
    return Segment.ofIdent (← anyWord).1
  let i ← if ← shows (.word "Self") then (do return (← anyWord).1) else ident
  let direct := !value && (← shows (.op "<")) && !(← shows (.op "<=")) && !(← shows (.op "<<="))
  if direct || ((← shows (.op "::")) && (← shows (.op "<") 2)) then
    return .mk i (some (← angleArguments g))
  else return Segment.ofIdent i

/-- Reads a path. Names of functions are called with parentheses, so `::` in front of a parenthesis
does not go on with the path. -/
def path (g : Grammar) (value : Bool) : Parser Path := do
  let leading := !(← op? "::").isAbsent
  let first ← segment g value
  let more ← manyWhile (return (← shows (.op "::")) && !(← shows .parens 2)) do
    let _ ← op "::"
    segment g value
  return ⟨leading, first :: more⟩

/-- Reads a path that can begin with a type in angle brackets; `.inl` is a path without one. -/
def qualifiedPath (g : Grammar) (value : Bool) : Parser (Path ⊕ Tree) := do
  if !(← shows (.op "<")) then return .inl (← path g value)
  let lt ← op "<"
  let t ← g.type true
  let asTrait ← if ← shows (.word "as") then (do
      let a ← word "as"
      return .node .asTrait [a, (← path g false).toTree .other])
    else pure Tree.absent
  let gt ← op ">"
  let colons ← op "::"
  let first ← segment g value
  let more ← manyWhile (shows (.op "::")) do
    let _ ← op "::"
    segment g value
  return .inr (.node .qualified [lt, t, asTrait, gt, colons, .path .other false (first :: more)])

/-! ## Bounds and parameters -/

def showsBound (consts : Bool) : Parser Bool := do
  let c ← get
  return c.showsWord || c.shows (.op "::") || c.shows (.op "?") || c.shows .lifetime
    || c.shows .parens || (consts && (c.shows .brackets || c.shows (.word "const")))

/-- The colon in front of these bounds, which stands there only if there are any. -/
def colonOf (colon : Tree) (bounds : List Tree) : Tree :=
  if bounds.isEmpty then Tree.absent else colon

def genericParam (g : Grammar) : Parser Tree := do
  let attrs ← attributeTrees g
  if ← shows .lifetime then
    let a ← lifetime
    if ← shows (.op ":") then
      let colon ← op ":"
      let bounds ← separatedWhile
        (return (← atEnd) || (← shows (.op ",")) || (← shows (.op ">"))) "+" lifetime
      return .node .lifetimeParam [attrs, a, colonOf colon bounds, .node .sequence bounds]
    else return .node .lifetimeParam [attrs, a, Tree.absent, Tree.absent]
  else if ← shows .identifier then
    let i ← identTree
    let colon ← op? ":"
    let bounds ← if colon.isAbsent then pure [] else
      separatedWhile
        (return (← atEnd) || (← shows (.op ",")) || (← shows (.op ">")) || (← shows (.op "=")))
        "+" (g.bound ⟨false, true⟩)
    let eq ← op? "="
    let default ← if eq.isAbsent then pure Tree.absent else g.type true
    return .node .typeParam [attrs, i, colonOf colon bounds, .node .sequence bounds, eq, default]
  else if ← shows (.word "const") then
    let c ← word "const"
    let i ← identTree
    let colon ← op ":"
    let t ← g.type true
    let eq ← op? "="
    let default ← if eq.isAbsent then pure Tree.absent
      else constArgument g
    return .node .constParam [attrs, c, i, colon, t, eq, default]
  else wantOneOf [.identifier, .lifetime, .word "const"]

def binder? (g : Grammar) : Parser Tree := do
  if !(← shows (.word "for")) then return Tree.absent
  let f ← word "for"
  let lt ← op "<"
  let params ← separatedUntil (shows (.op ">")) "," (genericParam g)
  let gt ← op ">"
  return .node .boundLifetimes ([f, lt] ++ params ++ [gt])

/-- The names of a path, the last of them with these arguments. -/
def withLastArguments (segments : List Segment) (args : Tree) : List Segment :=
  match segments.getLast? with
  | some s => segments.dropLast ++ [.mk s.ident (some args)]
  | none => segments

/-- Whether the last name of a path has arguments. Angle brackets with nothing between them are
none. -/
def lastHasArguments (segments : List Segment) : Bool :=
  match segments.getLast?.bind Segment.arguments with
  | some (.node .angleArgs [_, _, .node .parameters [], _]) => false
  | some _ => true
  | none => false

/-- Reads `const` in front of the trait of a bound, by itself or in brackets, if it stands there and
is allowed to. -/
def constMark (rules : BoundRules) : Parser Tree := do
  let start ← get
  if ← shows .brackets then
    let inside ← inGroup .bracket (word "const")
    if rules.consts then return .group .bracket [inside]
    else complainAt (← stretchSince start) (.constBoundOutOfPlace true)
  else if ← shows (.word "const") then
    let mark ← word "const"
    if rules.consts then return mark
    else complainAt start.here (.constBoundOutOfPlace false)
  else return Tree.absent

/-- Reads what names the trait of a bound, with the marks in front of it; second, whether the bound
is about constant evaluation. -/
def traitBound (g : Grammar) (rules : BoundRules) : Parser (List Tree × Bool) := do
  let early ← binder? g
  let mark ← constMark rules
  let questionAt ← here
  let question ← op? "?"
  let late ← if early.isAbsent && !question.isAbsent then binder? g else pure Tree.absent
  let p ← path g false
  let called := (← shows .parens) || ((← shows (.op "::")) && (← shows .parens 2))
  let segments ← if !lastHasArguments p.segments && called then (do
      let _ ← op? "::"
      return withLastArguments p.segments (← parenArguments g))
    else pure p.segments
  if !question.isAbsent && !(early.isAbsent && late.isAbsent) then
    complainAt questionAt .binderWithRelaxedBound
  return ([early, mark, question, late, .path .bound p.leadingColon segments], !mark.isAbsent)

def captures (rules : BoundRules) : Parser Tree := do
  let start ← get
  let u ← word "use"
  let lt ← op "<"
  let params ← loop (fun (found : List Tree) => do
    if ← shows (.op ">") then return .inr found
    let param ← if ← shows .lifetime then lifetime
      else if (← shows .identifier) || (← shows (.word "Self")) then (do return .word (← anyWord).1)
      else wantOneOf [.lifetime, .identifier, .op ">"]
    if ← shows (.op ",") then
      let comma ← op ","
      return .inl (comma :: param :: found)
    else if ← shows (.op ">") then return .inr (param :: found)
    else wantOneOf [.op ",", .op ">"]) []
  let gt ← op ">"
  if rules.captures then return .node .preciseCapture [u, lt, .node .parameters params.reverse, gt]
  else complainAt (← stretchSince start) .captureOutOfPlace

def boundOf (g : Grammar) (rules : BoundRules) : Parser Tree := do
  if ← shows .lifetime then lifetime
  else if ← shows (.word "use") then captures rules
  else
    let start ← get
    let (parts, isConst) ← if ← shows .parens then (do
        let (parts, isConst) ← inGroup .paren (traitBound g rules)
        return ([.group .paren parts], isConst))
      else traitBound g rules
    if isConst then return .raw (← tokensSince start)
    else return .node .traitBound parts

/-- Reads bounds with `+` between them; without `plus` only one. -/
def bounds (g : Grammar) (plus : Bool) (rules : BoundRules) : Parser (List Tree) := do
  let found ← loop (fun (found : List Tree) => do
    let b ← g.bound rules
    if plus && (← shows (.op "+")) then
      let s ← op "+"
      if ← showsBound rules.consts then return .inl (s :: b :: found)
      else return .inr (s :: b :: found)
    else return .inr (b :: found)) []
  return found.reverse

def namesTrait : Tree → Bool
  | .node .traitBound _ => true
  | .raw _ => true
  | _ => false

/-! ## Parameters of declarations -/

def generics (g : Grammar) : Parser Generics := do
  if !(← shows (.op "<")) then return Generics.none
  let start ← here
  let _ ← op "<"
  let params ← separatedUntil (shows (.op ">")) "," do
    let attrs ← ahead (outerAttributes g)
    let plain := match attrs with
      | some (_, c) => c.shows (.word "_")
      | none => false
    if plain then
      let attrs ← attributeTrees g
      return .node .typeParam
        [attrs, .word (← anyWord).1, Tree.absent, .node .sequence [], Tree.absent, Tree.absent]
    else
      match attrs with
      | some (_, c) =>
          if c.shows .lifetime || c.shows .identifier || c.shows (.word "const") then
            genericParam g
          else
            set c
            wantOneOf [.lifetime, .identifier, .word "const"]
      | none => genericParam g
  let stop ← here
  let _ ← op ">"
  return ⟨params, Tree.absent, start.join stop⟩

def predicate (g : Grammar) : Parser Tree := do
  if (← shows .lifetime) && (← shows (.op ":") 1) then
    let a ← lifetime
    let colon ← op ":"
    let bounds ← separatedWhile
      (return (← atEnd) || (← shows .braces) || (← shows (.op ",")) || (← shows (.op ";"))
        || (← shows (.op ":")) || (← shows (.op "="))) "+" lifetime
    return .node .predicate [Tree.absent, a, colon, .node .sequence bounds]
  else
    let lifetimes ← binder? g
    let t ← g.type true
    let colon ← op ":"
    let bounds ← separatedWhile
      (return (← atEnd) || (← shows .braces) || (← shows (.op ",")) || (← shows (.op ";"))
        || ((← shows (.op ":")) && !(← shows (.op "::"))) || (← shows (.op "="))) "+"
      (g.bound ⟨false, true⟩)
    return .node .predicate [lifetimes, t, colon, .node .sequence bounds]

def whereClause? (g : Grammar) : Parser Tree := do
  if !(← shows (.word "where")) then return Tree.absent
  let w ← word "where"
  if (← get).showsParameters then complain .parametersOfClause
  let predicates ← separatedWhile
    (return (← atEnd) || (← shows .braces) || (← shows (.op ",")) || (← shows (.op ";"))
      || ((← shows (.op ":")) && !(← shows (.op "::"))) || (← shows (.op "="))) "," (predicate g)
  return .node .whereClause (w :: predicates)

/-! ## Types -/

def abi? : Parser Tree := do
  if !(← shows (.word "extern")) then return Tree.absent
  let e ← word "extern"
  let name ← if ← shows .stringLiteral then literal else pure Tree.absent
  return .node .abi [e, name]

/-- Reads the rest of the parameters of a function type: `...` with an optional name. -/
def variadicParam (attrs : Tree) : Parser Tree := do
  if (← shows .identifier) || (← shows (.word "_")) then
    let (i, _) ← anyWord
    let colon ← op ":"
    let dots ← op "..."
    return .node .variadicParam [attrs, .word i, colon, dots, ← op? ","]
  else
    let dots ← op "..."
    return .node .variadicParam [attrs, Tree.absent, Tree.absent, dots, ← op? ","]

/-- Reads a parameter of a function type. A receiver is kept as its tokens. -/
def functionParam (g : Grammar) (attrs : Tree) (first : Bool) : Parser Tree := do
  let start ← get
  let mutSelf := first && (← shows (.word "mut")) && (← shows (.word "self") 1)
  if mutSelf then
    let _ ← word "mut"
  let isSelf := first && (← shows (.word "self"))
  let isNamed := ((← shows .identifier) || (← shows (.word "_")) || isSelf)
    && (← shows (.op ":") 1) && !(← shows (.op "::") 1)
  if isNamed then
    let (i, _) ← anyWord
    let colon ← op ":"
    let t ← g.type true
    if mutSelf then
      return .node .functionParam [attrs, Tree.absent, Tree.absent, .raw (← tokensSince start)]
    else return .node .functionParam [attrs, .word i, colon, t]
  else if mutSelf then
    let _ ← word "self"
    return .node .functionParam [attrs, Tree.absent, Tree.absent, .raw (← tokensSince start)]
  else return .node .functionParam [attrs, Tree.absent, Tree.absent, ← g.type true]

def functionParams (g : Grammar) : Parser (List Tree) := do
  let found ← loop (fun (found : List Tree) => do
    if ← atEnd then return .inr found
    let attrs ← attributeTrees g
    if (← shows (.op "...")) || (((← shows .identifier) || (← shows (.word "_")))
        && (← shows (.op ":") 1) && (← shows (.op "...") 2)) then
      return .inr ((← variadicParam attrs) :: found)
    let param ← functionParam g attrs found.isEmpty
    if ← atEnd then return .inr (param :: found)
    let comma ← op ","
    return .inl (comma :: param :: found)) []
  return found.reverse

/-- Reads the type of a function, behind its `for` binder. -/
def functionType (g : Grammar) (lifetimes : Tree) : Parser Tree := do
  let isUnsafe ← word? "unsafe"
  let convention ← abi?
  let f ← word "fn"
  let params ← inGroup .paren (functionParams g)
  let output ← returnType g false
  return .node .functionType [lifetimes, isUnsafe, convention, f, .group .paren params, output]

/-- Reads the bounds of an object type that `start` begins. -/
def objectBounds (g : Grammar) (plus : Bool) (start : Cursor) : Parser (List Tree) := do
  let found ← bounds g plus ⟨false, false⟩
  if found.any namesTrait then return found
  else complainAt (← stretchTo start TokenTree.isLifetime) .objectWithoutTrait

/-- The bound that a type in parentheses stands for in front of `+`. -/
def parenthesizedBound? : Tree → Option Tree
  | .path .type leading segments =>
      some (.node .traitBound [.group .paren
        [Tree.absent, Tree.absent, Tree.absent, Tree.absent, .path .bound leading segments]])
  | .node .traitObject [.node .absent [], .node .traitBound [.group d parts]] =>
      some (.node .traitBound [.group d parts])
  | .node .traitObject [.node .absent [], .node .traitBound parts] =>
      some (.node .traitBound [.group .paren parts])
  | .node .traitObject [.node .absent [], bound] => some bound
  | _ => none

/-- Reads bounds behind a first one as long as `+` stands in front of them. -/
def moreBounds (g : Grammar) (rules : BoundRules) (first : Tree) : Parser (List Tree) := do
  let found ← loop (fun (found : List Tree) => do
    if ← shows (.op "+") then
      let s ← op "+"
      return .inl ((← g.bound rules) :: s :: found)
    else return .inr found) [first]
  return found.reverse

/-- What the parentheses at the beginning of a type turn out to hold: the whole type, the first
bound of an object type, or a single type. -/
inductive ParenContent where
  | whole (type : Tree)
  | bound (bound : Tree)
  | single (type : Tree)

def parenContent (g : Grammar) : Parser ParenContent :=
  inGroup .paren do
    if ← atEnd then return .whole (.node .tupleType [.group .paren []])
    if ← shows .lifetime then
      let found ← objectBounds g true (← get)
      return .whole (.node .parenType [.group .paren [.node .traitObject (Tree.absent :: found)]])
    if ← shows (.op "?") then
      return .bound (.node .traitBound [.group .paren (← traitBound g ⟨false, true⟩).1])
    let first ← g.type true
    if ← shows (.op ",") then
      let comma ← op ","
      let more ← commaSeparated (g.type true)
      return .whole (.node .tupleType [.group .paren ([first, comma] ++ more)])
    return .single first

/-- Reads a type that begins with a parenthesis: a tuple, a type in parentheses, or the first bound
of an object type. -/
def parenthesizedType (g : Grammar) (plus : Bool) : Parser Tree := do
  match ← parenContent g with
  | .whole t => return t
  | .bound b => return .node .traitObject (Tree.absent :: (← moreBounds g ⟨false, false⟩ b))
  | .single t =>
      match parenthesizedBound? t, plus && (← shows (.op "+")) with
      | some b, true =>
          return .node .traitObject (Tree.absent :: (← moreBounds g ⟨false, false⟩ b))
      | _, _ => return .node .parenType [.group .paren [t]]

/-- Reads a type that begins with a path: the path itself, a call of a macro, or the first bound of
an object type. -/
def pathType (g : Grammar) (plus : Bool) (lifetimes : Tree) : Parser Tree := do
  match ← qualifiedPath g false with
  | .inr t => return t
  | .inl p =>
      if (← shows (.op "!")) && !(← shows (.op "!=")) && p.isPlain then
        let bang ← op "!"
        let (d, ts, _) ← rawGroup
        return .node .macroCall [p.toTree .other, bang, .group d [.raw ts]]
      else if !lifetimes.isAbsent || (plus && (← shows (.op "+"))) then
        let first : Tree := .node .traitBound
          [lifetimes, Tree.absent, Tree.absent, Tree.absent, p.toTree .bound]
        let found ← loop (fun (found : List Tree) => do
          if plus && (← shows (.op "+")) then
            let s ← op "+"
            if ← showsBound false then return .inl ((← g.bound ⟨false, false⟩) :: s :: found)
            else return .inr (s :: found)
          else return .inr found) [first]
        return .node .traitObject (Tree.absent :: found.reverse)
      else return p.toTree .type

def bracketedType (g : Grammar) : Parser Tree :=
  inGroup .bracket do
    let element ← g.type true
    if ← shows (.op ";") then
      let semicolon ← op ";"
      let length ← g.expr true
      return .node .arrayType [.group .bracket [element, semicolon, length]]
    else return .node .sliceType [.group .bracket [element]]

def typeStarts : List Wanted :=
  [.word "for", .parens, .word "fn", .word "unsafe", .word "extern", .identifier, .op "::", .op "<",
    .word "dyn", .brackets, .op "*", .op "&", .op "!", .word "impl", .word "_", .lifetime]

/-- Reads the `for` binder of a type, behind which a path or a function type stands. -/
def typeBinder (g : Grammar) : Parser Tree := do
  let lifetimes ← binder? g
  if lifetimes.isAbsent then return lifetimes
  let starts : List Wanted := [.identifier, .word "fn", .word "unsafe", .word "extern",
    .word "super", .word "self", .word "Self", .word "crate"]
  let c ← get
  if starts.any c.shows then return lifetimes else wantOneOf starts

def objectType (g : Grammar) (plus : Bool) : Parser Tree := do
  let start ← get
  let d ← word "dyn"
  let star ← op? "*"
  let found ← objectBounds g plus start
  if star.isAbsent then return .node .traitObject (d :: found)
  else return .raw (← tokensSince start)

def pointerType (g : Grammar) : Parser Tree := do
  let star ← op "*"
  if ← shows (.word "const") then
    return .node .pointerType [star, ← word "const", ← g.type false]
  else if ← shows (.word "mut") then
    return .node .pointerType [star, ← word "mut", ← g.type false]
  else wantOneOf [.word "const", .word "mut"]

def referenceType (g : Grammar) : Parser Tree := do
  let ampersand ← op "&"
  let a ← if ← shows .lifetime then lifetime else pure Tree.absent
  let m ← word? "mut"
  return .node .referenceType [ampersand, a, m, ← g.type false]

def opaqueType (g : Grammar) (plus : Bool) : Parser Tree := do
  let start ← get
  let i ← word "impl"
  let found ← bounds g plus ⟨true, true⟩
  if found.any namesTrait then return .node .implType (i :: found)
  else complainAt (← stretchTo start TokenTree.isLifetime) .opaqueWithoutTrait

/-- Reads a type that the compiler provides, and keeps it as its tokens. -/
def builtinType : Parser Tree := do
  let start ← get
  let _ ← word "builtin"
  let _ ← op "#"
  let _ ← ident
  let _ ← inGroup .paren remaining
  return .raw (← tokensSince start)

def typeOf (g : Grammar) (plus : Bool) : Parser Tree := do
  let lifetimes ← typeBinder g
  let c ← get
  if c.shows .parens then parenthesizedType g plus
  else if c.shows (.word "fn") || c.shows (.word "unsafe") || c.shows (.word "extern") then
    functionType g lifetimes
  else if c.shows (.word "builtin") && c.shows (.op "#") 1 then builtinType
  else if c.shows .identifier || placeWords.any (fun w => c.shows (.word w)) || c.shows (.op "::")
      || c.shows (.op "<") then
    pathType g plus lifetimes
  else if c.shows (.word "dyn") then objectType g plus
  else if c.shows .brackets then bracketedType g
  else if c.shows (.op "*") then pointerType g
  else if c.shows (.op "&") then referenceType g
  else if c.shows (.op "!") && !c.shows (.op "=") then return .node .neverType [← op "!"]
  else if c.shows (.word "impl") then opaqueType g plus
  else if c.shows (.word "_") then return .node .inferType [← word "_"]
  else if c.shows .lifetime then
    return .node .traitObject (Tree.absent :: (← objectBounds g true c))
  else if lifetimes.isAbsent then wantOneOf typeStarts
  else wantOneOf (typeStarts.drop 1)

end Parser

end BuilderForge.Code
