import BuilderForge.Code.Parser.Pattern

set_option autoImplicit false

/-! # Parsing expressions

An expression is a row of operands with binary operators between them, grouped by precedence
(`climb`). An operand is an atom with prefixes in front and suffixes behind (`operand`). Where a
block follows an expression, as in the head of a loop, a path does not go on with the fields of a
struct; this is the flag `braces` of most functions here.

At the beginning of a statement an expression that ends with a block ends there
(`leadingExpr`). -/

namespace BuilderForge.Code

namespace Parser

/-! ## Classes of expressions -/

def isRange (e : Tree) : Bool :=
  match e.bare with
  | .node .rangeExpr _ => true
  | _ => false

/-- Whether an arm of a match that leads to `e` needs a comma behind it. -/
def needsComma (e : Tree) : Bool :=
  match e.bare with
  | .node k _ => !k.isBlockLike
  | _ => true

def isBraceMacro (e : Tree) : Bool :=
  match e.bare with
  | .node .macroCall [_, _, .group .brace _] => true
  | _ => false

/-- Whether `e` as a statement needs a semicolon behind it. -/
def needsSemicolon (e : Tree) : Bool := !isBraceMacro e && needsComma e

def isBraceGroup : TokenTree → Bool
  | .group d _ _ _ => d = .brace
  | .leaf _ _ => false

mutual

/-- Whether the last token of a tree is a closing brace; `none` if it has no tokens. Parentheses
around a bound are looked into. -/
def closesBrace? : Tree → Option Bool
  | .raw ts => ts.getLast?.map isBraceGroup
  | .group d _ => some (d = .brace)
  | .node .implied _ => none
  | .node .traitBound [.group _ parts] => closesBraceAll? parts
  | .node _ parts => closesBraceAll? parts
  | .path _ _ segments => closesBraceSegments? segments
  | _ => some false

def closesBraceAll? : List Tree → Option Bool
  | [] => none
  | t :: ts => closesBraceAll? ts <|> closesBrace? t

def closesBraceSegment? : Segment → Option Bool
  | .mk _ none => some false
  | .mk _ (some arguments) => closesBrace? arguments

def closesBraceSegments? : List Segment → Option Bool
  | [] => none
  | s :: ss => closesBraceSegments? ss <|> closesBraceSegment? s

end

/-- Whether the last token of `e` is a closing brace. -/
def endsWithBrace (e : Tree) : Bool := (closesBrace? e).getD false

/-! ## Precedence -/

/-- How tightly operators bind, from assignment on. -/
inductive Precedence where
  | lowest
  | assign
  | range
  | or
  | and
  | compare
  | bitOr
  | bitXor
  | bitAnd
  | shift
  | sum
  | product
  | cast
  deriving DecidableEq, Repr

def Precedence.rank : Precedence → Nat
  | .lowest => 0
  | .assign => 1
  | .range => 2
  | .or => 3
  | .and => 4
  | .compare => 5
  | .bitOr => 6
  | .bitXor => 7
  | .bitAnd => 8
  | .shift => 9
  | .sum => 10
  | .product => 11
  | .cast => 12

/-- The binary operators, longer ones before their beginnings. -/
def binaryOperators : List (String × Precedence) :=
  [("+=", .assign), ("-=", .assign), ("*=", .assign), ("/=", .assign), ("%=", .assign),
    ("^=", .assign), ("&=", .assign), ("|=", .assign), ("<<=", .assign), (">>=", .assign),
    ("&&", .and), ("||", .or), ("<<", .shift), (">>", .shift), ("==", .compare), ("<=", .compare),
    ("!=", .compare), (">=", .compare), ("+", .sum), ("-", .sum), ("*", .product),
    ("/", .product), ("%", .product), ("^", .bitXor), ("&", .bitAnd), ("|", .bitOr),
    ("<", .compare), (">", .compare)]

def Cursor.binaryOperator? (c : Cursor) : Option (String × Precedence) :=
  binaryOperators.find? fun (s, _) => c.shows (.op s)

def precedenceOf (s : String) : Option Precedence :=
  (binaryOperators.find? fun (t, _) => t == s).map (·.2)

/-- How tightly what the cursor shows binds to what is in front of it. -/
def Cursor.precedence (c : Cursor) : Precedence :=
  match Cursor.binaryOperator? c with
  | some (_, p) => p
  | none =>
      if c.shows (.op "=") && !c.shows (.op "=>") then .assign
      else if c.shows (.op "..") then .range
      else if c.shows (.word "as") then .cast
      else .lowest

def isComparison : Tree → Bool
  | .node .binaryExpr [_, .op s, _] => precedenceOf s = some .compare
  | _ => false

def checkCast : Parser Unit := do
  let c ← get
  let suffix : Option CastSuffix :=
    if c.shows (.op ".") && !c.shows (.op "..") then
      if c.shows (.word "await") 1 then some .await
      else if c.shows .identifier 1 && (c.shows .parens 2 || c.shows (.op "::") 2) then
        some .methodCall
      else some .fieldAccess
    else if c.shows (.op "?") then some .question
    else if c.shows .brackets then some .indexing
    else if c.shows .parens then some .functionCall
    else none
  match suffix with
  | some s => complain (.castFollowedBy s)
  | none => return ()

/-- Whether a half-open range ends in front of what the cursor shows. -/
def Cursor.endsRange (c : Cursor) (braces : Bool) : Bool :=
  c.rest.isEmpty || c.shows (.op ",") || c.shows (.op ";")
    || (c.shows (.op ".") && !c.shows (.op "..")) || c.shows (.op "?") || c.shows (.op "=>")
    || (!braces && c.shows .braces)
    || ["=", "+", "/", "%", "^", ">", "<=", "!=", "-=", "*=", "&=", "|=", "<<="].any
      (fun s => c.shows (.op s))
    || c.shows (.word "as")

mutual

/-- Goes on with operators behind `lhs` that bind at least as tightly as `base`. -/
def climb (g : Grammar) (braces : Bool) : Nat → Tree → Precedence → Parser Tree
  | 0, _, _ => complain (.wanted [])
  | fuel + 1, lhs, base => do
    if isRange lhs then return lhs
    let c ← get
    match Cursor.binaryOperator? c with
    | some (s, p) =>
        if p.rank < base.rank then return lhs
        if p = .compare && isComparison lhs then complain .chainedComparison
        let o ← op s
        let rhs ← rightOperand g braces fuel p
        climb g braces fuel (.node .binaryExpr [lhs, o, rhs]) base
    | none =>
        if base.rank ≤ Precedence.assign.rank && c.shows (.op "=") && !c.shows (.op "=>") then
          let o ← op "="
          let rhs ← rightOperand g braces fuel .assign
          climb g braces fuel (.node .assignExpr [lhs, o, rhs]) base
        else if base.rank ≤ Precedence.range.rank && c.shows (.op "..") then
          let o ← rangeOp false
          let stop ← rangeEnd g braces fuel o
          climb g braces fuel (.node .rangeExpr [lhs, o, stop]) base
        else if base.rank ≤ Precedence.cast.rank && c.shows (.word "as") then
          let a ← word "as"
          let t ← g.type false
          checkCast
          climb g braces fuel (.node .castExpr [lhs, a, t]) base
        else return lhs

/-- Reads what is on the right of an operator: an operand, and whatever binds to it more tightly. -/
def rightOperand (g : Grammar) (braces : Bool) : Nat → Precedence → Parser Tree
  | 0, _ => complain (.wanted [])
  | fuel + 1, p => do tighten g braces fuel (← g.operand braces) p

/-- Goes on with operators behind `rhs` that bind more tightly than the one in front of it. -/
def tighten (g : Grammar) (braces : Bool) : Nat → Tree → Precedence → Parser Tree
  | 0, _, _ => complain (.wanted [])
  | fuel + 1, rhs, p => do
    let c ← get
    let next := Cursor.precedence c
    if p.rank < next.rank || (next = .assign && p = .assign) then
      let more ← climb g braces fuel rhs next
      if (← get).rest.length = c.rest.length then return more
      else tighten g braces fuel more p
    else return rhs

def rangeEnd (g : Grammar) (braces : Bool) : Nat → Tree → Parser Tree
  | 0, _ => complain (.wanted [])
  | fuel + 1, limits => do
    let c ← get
    let halfOpen := match limits with
      | .op ".." => true
      | _ => false
    if halfOpen && Cursor.endsRange c braces then return Tree.absent
    else rightOperand g braces fuel .range

end

def continueExpr (g : Grammar) (braces : Bool) (lhs : Tree) (base : Precedence) : Parser Tree :=
  fun c => climb g braces (4 * c.rest.length + 8) lhs base c

/-! ## Suffixes -/

/-- The fields of `e` that a number with points names: `x.0.1` is the place `1` of the place `0`. A
point at the end of the number belongs to what follows it. -/
def placesOf (e : Tree) (dot : Tree) (span : Span) (number : String) : Parser Tree :=
  let parts := if number.endsWith "." then (number.splitOn ".").dropLast else number.splitOn "."
  parts.foldlM (fun e p => return .node .fieldExpr [e, dot, ← place span p]) e

def isFractional (s : String) : Bool :=
  s.toList.head?.any Char.isDigit && !isIntegerLiteral s

/-- Reads the name of a field or method behind a point, and what follows it. -/
def memberSuffix (g : Grammar) (e : Tree) (dot : Tree) : Parser Tree := do
  let m ← member
  let named := match m with
    | .word _ => true
    | _ => false
  let turbofish ← if named && (← shows (.op "::")) then (do
      let colons ← op "::"
      match ← angleArguments g with
      | .node k (_ :: parts) => return .node k (colons :: parts)
      | t => return t)
    else pure Tree.absent
  if named && (!turbofish.isAbsent || (← shows .parens)) then
    let args ← inGroup .paren (commaSeparated (g.expr true))
    return .node .methodCall [e, dot, m, turbofish, .group .paren args]
  else return .node .fieldExpr [e, dot, m]

/-- Reads what stands behind a point: `await`, or the name of a field or method. -/
def namedSuffix (g : Grammar) (e : Tree) (dot : Tree) : Parser Tree := do
  if ← shows (.word "await") then return .node .awaitExpr [e, dot, ← word "await"]
  else memberSuffix g e dot

/-- Reads one suffix behind `e`; `none` if there is none. -/
def suffix? (g : Grammar) (e : Tree) : Parser (Option Tree) := do
  let c ← get
  if c.shows .parens then
    let args ← inGroup .paren (commaSeparated (g.expr true))
    return some (.node .callExpr [e, .group .paren args])
  else if c.shows (.op ".") && !c.shows (.op "..") && !isRange e then
    let dot ← op "."
    match (← get).rest with
    | .leaf (.literal s) span :: _ =>
        if isFractional s then
          let _ ← literal
          let e ← placesOf e dot span s
          if s.endsWith "." then return some (← namedSuffix g e dot) else return some e
        else return some (← memberSuffix g e dot)
    | .leaf (.punct '-' _) mark :: .leaf (.literal s) span :: _ =>
        if isFractional s then
          complainAt (mark.join span) (if s.contains '.' then .negativeIndex else .noIndex)
        else return some (← memberSuffix g e dot)
    | _ => return some (← namedSuffix g e dot)
  else if c.shows .brackets then
    let index ← inGroup .bracket (g.expr true)
    return some (.node .indexExpr [e, .group .bracket [index]])
  else if c.shows (.op "?") && !isRange e then return some (.node .tryExpr [e, ← op "?"])
  else return none

def suffixes (g : Grammar) (e : Tree) : Parser Tree :=
  loop (fun e => do
    match ← suffix? g e with
    | some e' => return .inl e'
    | none => return .inr e) e

/-! ## Atoms -/

def showsExpr : Parser Bool := do
  let c ← get
  return (c.showsWord && !c.shows (.word "as")) || c.shows .parens || c.shows .brackets
    || c.shows .braces || c.shows .literal || (c.shows (.op "!") && !c.shows (.op "!="))
    || (c.shows (.op "-") && !c.shows (.op "-=") && !c.shows (.op "->"))
    || (c.shows (.op "*") && !c.shows (.op "*=")) || (c.shows (.op "|") && !c.shows (.op "|="))
    || (c.shows (.op "&") && !c.shows (.op "&=")) || c.shows (.op "..")
    || (c.shows (.op "<") && !c.shows (.op "<=") && !c.shows (.op "<<="))
    || c.shows (.op "::") || c.shows .lifetime || c.shows (.op "#")

/-- Reads the value of one field of a struct. A field that is only named has the value of the
variable of that name. -/
def fieldValue (g : Grammar) : Parser Tree := do
  let attrs ← attributeTrees g
  let m ← member
  match m, ← shows (.op ":") with
  | .word i, false =>
      return .node .fieldValue
        [attrs, m, .node .implied [.path .value false [Segment.ofIdent i]]]
  | _, _ =>
      let colon ← op ":"
      return .node .fieldValue [attrs, m, colon, ← g.expr true]

/-- Reads the fields of a struct between braces. -/
def structFields (g : Grammar) : Parser (List Tree) := do
  let found ← loop (fun (found : List Tree) => do
    if ← atEnd then return .inr found
    if ← shows (.op "..") then
      let dots ← op ".."
      if ← atEnd then return .inr (dots :: found)
      return .inr ((← g.expr true) :: dots :: found)
    let f ← fieldValue g
    if ← atEnd then return .inr (f :: found)
    let comma ← op ","
    return .inl (comma :: f :: found)) []
  return found.reverse

/-- Reads what begins with a path: the path itself, a call of a macro, or a struct. -/
def pathExpr (g : Grammar) (braces : Bool) : Parser Tree := do
  let p ← qualifiedPath g true
  match p with
  | .inl p =>
      if (← shows (.op "!")) && !(← shows (.op "!=")) && p.isPlain then
        let bang ← op "!"
        let (d, ts, _) ← rawGroup
        return .node .macroCall [p.toTree .other, bang, .group d [.raw ts]]
  | .inr _ => pure ()
  if braces && (← shows .braces) then
    let head := match p with
      | .inl p => p.toTree .other
      | .inr t => t
    return .node .structExpr [head, .group .brace (← inGroup .brace (structFields g))]
  else
    match p with
    | .inl p => return p.toTree .value
    | .inr t => return t

def parenExpr (g : Grammar) : Parser Tree := do
  let elements ← inGroup .paren (commaSeparated (g.expr true))
  match elements with
  | [e] => return .node .parenExpr [.group .paren [e]]
  | _ => return .node .tupleExpr [.group .paren elements]

def arrayExpr (g : Grammar) : Parser Tree :=
  inGroup .bracket do
    if ← atEnd then return .node .arrayExpr [.group .bracket []]
    let first ← g.expr true
    if ← atEnd then return .node .arrayExpr [.group .bracket [first]]
    else if ← shows (.op ",") then
      let comma ← op ","
      let more ← commaSeparated (g.expr true)
      return .node .arrayExpr [.group .bracket ([first, comma] ++ more)]
    else if ← shows (.op ";") then
      let semicolon ← op ";"
      return .node .repeatExpr [.group .bracket [first, semicolon, ← g.expr true]]
    else complain .noCommaOrSemicolon

def closureExpr (g : Grammar) (braces : Bool) : Parser Tree := do
  let lifetimes ← binder? g
  let isConst ← word? "const"
  let isStatic ← word? "static"
  let isAsync ← word? "async"
  let isMove ← word? "move"
  let bar ← op "|"
  let params ← separatedUntil (shows (.op "|")) "," do
    let attrs ← attributeTrees g
    let p ← g.pattern
    if ← shows (.op ":") then
      let colon ← op ":"
      return .node .attributed [attrs, .node .typedPattern [p, colon, ← g.type true]]
    else
      match p with
      | .node .boxPattern _ => return p
      | _ => return .node .attributed [attrs, p]
  let bar' ← op "|"
  let marks := [lifetimes, isConst, isStatic, isAsync, isMove, bar, .node .sequence params, bar']
  if ← shows (.op "->") then
    let output ← returnType g true
    let body ← block g
    return .node .closureExpr (marks ++ [output, .node .blockExpr [Tree.absent, body]])
  else return .node .closureExpr (marks ++ [Tree.absent, ← g.expr braces])

def ifExpr (g : Grammar) : Parser Tree := do
  let clauses ← loop (fun (found : List (List Tree)) => do
    let i ← word "if"
    let cond ← g.expr false
    let body ← block g
    if !(← shows (.word "else")) then return .inr (found, [i, cond, body, Tree.absent, Tree.absent])
    let e ← word "else"
    if ← shows (.word "if") then return .inl ([i, cond, body, e] :: found)
    else if ← shows .braces then
      let last ← block g
      return .inr (found, [i, cond, body, e, .node .blockExpr [Tree.absent, last]])
    else wantOneOf [.word "if", .braces]) []
  return clauses.1.foldl (fun rest clause => .node .ifExpr (clause ++ [rest]))
    (.node .ifExpr clauses.2)

def matchArm (g : Grammar) : Parser Tree := do
  let attrs ← attributeTrees g
  let p ← pattern g
  let i ← word? "if"
  let guard ← if i.isAbsent then pure Tree.absent else g.expr true
  let arrow ← op "=>"
  let body ← g.leading
  let comma ← if needsComma body && !(← atEnd) then op "," else op? ","
  return .node .matchArm [attrs, p, i, guard, arrow, body, comma]

def matchExpr (g : Grammar) : Parser Tree := do
  let m ← word "match"
  let e ← g.expr false
  let arms ← inGroup .brace do
    let attrs ← innerAttributes g
    let arms ← manyToEnd (matchArm g)
    return (if attrs.isEmpty then arms else attributesTree attrs :: arms)
  return .node .matchExpr [m, e, .group .brace arms]

/-- Reads a loop or a block behind its label, if it has one. -/
def labelled (g : Grammar) (label : Tree) : Parser Tree := do
  let c ← get
  if c.shows (.word "while") then
    let w ← word "while"
    let cond ← g.expr false
    return .node .whileExpr [label, w, cond, ← attributedBlock g]
  else if c.shows (.word "for") then
    let f ← word "for"
    let p ← pattern g
    let i ← word "in"
    let e ← g.expr false
    return .node .forExpr [label, f, p, i, e, ← attributedBlock g]
  else if c.shows (.word "loop") then
    return .node .loopExpr [label, ← word "loop", ← attributedBlock g]
  else if c.shows .braces then return .node .blockExpr [label, ← attributedBlock g]
  else complain .noLoop

/-- Reads a label and the loop or block it belongs to. -/
def labelledExpr (g : Grammar) : Parser Tree := do
  let a ← lifetime
  let colon ← op ":"
  labelled g (.node .label [a, colon])

def breakExpr (g : Grammar) (braces : Bool) : Parser Tree := do
  let b ← word "break"
  if (← shows .lifetime) && (← shows (.op ":") 1) then
    let start ← get
    let _ ← g.expr true
    complainAt (← stretchSince start) .parenthesesRequired
  let label ← if ← shows .lifetime then lifetime else pure Tree.absent
  if (← showsExpr) && (braces || !(← shows .braces)) then
    return .node .breakExpr [b, label, ← g.expr true]
  else return .node .breakExpr [b, label, Tree.absent]

def wordExpr (g : Grammar) (kind : Kind) (s : String) : Parser Tree := do
  let w ← word s
  if ← showsExpr then return .node kind [w, ← g.expr true]
  else return .node kind [w, Tree.absent]

def letExpr (g : Grammar) (braces : Bool) : Parser Tree := do
  let l ← word "let"
  let p ← pattern g
  let eq ← op "="
  let e ← continueExpr g braces (← g.operand braces) .compare
  return .node .letExpr [l, p, eq, e]

def Cursor.showsClosure (c : Cursor) : Bool :=
  c.shows (.op "|") || c.shows (.word "move")
    || (c.shows (.word "for") && c.showsParameters 1)
    || (c.shows (.word "const") && !c.shows .braces 1) || c.shows (.word "static")
    || (c.shows (.word "async") && (c.shows (.op "|") 1 || c.shows (.word "move") 1))

/-- Reads an atom that one of the words for control flow begins. -/
def controlExpr (g : Grammar) (braces : Bool) : Parser Tree := do
  let c ← get
  if c.shows (.word "break") then breakExpr g braces
  else if c.shows (.word "continue") then
    let w ← word "continue"
    return .node .continueExpr [w, ← if ← shows .lifetime then lifetime else pure Tree.absent]
  else if c.shows (.word "return") then wordExpr g .returnExpr "return"
  else if c.shows (.word "become") then
    let start ← get
    let _ ← word "become"
    let _ ← g.expr true
    return .node .verbatimExpr [.raw (← tokensSince start)]
  else if c.shows .brackets then arrayExpr g
  else if c.shows (.word "let") then letExpr g braces
  else if c.shows (.word "if") then ifExpr g
  else if c.shows (.word "while") || c.shows (.word "for") || c.shows (.word "loop") then
    labelled g Tree.absent
  else if c.shows (.word "match") then matchExpr g
  else if c.shows (.word "yield") then wordExpr g .yieldExpr "yield"
  else if c.shows (.word "unsafe") then
    return .node .unsafeExpr [← word "unsafe", ← attributedBlock g]
  else if c.shows (.word "const") then
    return .node .constExpr [← word "const", ← attributedBlock g]
  else if c.shows .braces then return .node .blockExpr [Tree.absent, ← attributedBlock g]
  else if c.shows (.op "..") then
    let o ← rangeOp false
    let stop ← rangeEnd g braces (4 * c.rest.length + 8) o
    return .node .rangeExpr [Tree.absent, o, stop]
  else if c.shows (.word "_") then return .node .inferExpr [← word "_"]
  else if c.shows .lifetime then labelledExpr g
  else complain .noExpression

def atom (g : Grammar) (braces : Bool) : Parser Tree := do
  let c ← get
  if c.shows .literal then literal
  else if c.shows (.word "async")
      && (c.shows .braces 1 || (c.shows (.word "move") 1 && c.shows .braces 2)) then
    let a ← word "async"
    let m ← word? "move"
    return .node .asyncExpr [a, m, ← block g]
  else if c.shows (.word "try") && c.shows .braces 1 then
    return .node .tryBlock [← word "try", ← block g]
  else if Cursor.showsClosure c then closureExpr g braces
  else if c.shows (.word "builtin") && c.shows (.op "#") 1 then
    let _ ← word "builtin"
    let _ ← op "#"
    let _ ← ident
    let _ ← inGroup .paren remaining
    return .node .verbatimExpr [.raw (← tokensSince c)]
  else if c.shows .identifier || c.shows (.op "::") || c.shows (.op "<")
      || placeWords.any (fun w => c.shows (.word w))
      || (c.shows (.word "try") && (c.shows (.op "!") 1 || c.shows (.op "::") 1)) then
    pathExpr g braces
  else if c.shows .parens then parenExpr g
  else controlExpr g braces

/-! ## Operands -/

/-- An expression with these attributes in front. One that is kept as its tokens has none. -/
def withAttributes (attrs : List Attribute) (e : Tree) : Tree :=
  match attrs, e with
  | [], _ => e
  | _, .node .verbatimExpr _ => e
  | _, _ => .node .attributed [attributesTree attrs, e]

/-- Reads an atom and its suffixes behind the attributes in front of them; `before` is the cursor in
front of these. -/
def suffixedAtom (g : Grammar) (braces : Bool) (before : Cursor) (attrs : List Attribute) :
    Parser Tree := do
  let start ← here
  let e ← suffixes g (← atom g braces)
  match e, attrs with
  | .node .verbatimExpr _, _ => return .node .verbatimExpr [.raw (← tokensSince before)]
  | .node .rangeExpr [_, limits, _], _ :: _ =>
      complainAt (start.take (opWidth limits)) .attributeOnRange
  | _, _ => return withAttributes attrs e

def operandOf (g : Grammar) (braces : Bool) : Parser Tree := do
  let before ← get
  let attrs ← outerAttributes g
  let c ← get
  if c.shows (.op "&") then
    let a ← op "&"
    let isRaw := (← shows (.word "raw"))
      && ((← shows (.word "mut") 1) || (← shows (.word "const") 1))
    if isRaw then
      let r ← word "raw"
      let m ← if ← shows (.word "mut") then word "mut" else word "const"
      return withAttributes attrs (.node .rawAddress [a, r, m, ← g.operand braces])
    else
      let m ← word? "mut"
      return withAttributes attrs (.node .referenceExpr [a, m, ← g.operand braces])
  else if c.shows (.op "*") || c.shows (.op "!") || c.shows (.op "-") then
    let o ← if c.shows (.op "*") then op "*" else if c.shows (.op "!") then op "!" else op "-"
    return withAttributes attrs (.node .unaryExpr [o, ← g.operand braces])
  else suffixedAtom g braces before attrs

def exprOf (g : Grammar) (braces : Bool) : Parser Tree := do
  continueExpr g braces (← g.operand braces) .lowest

/-- Reads an expression at the beginning of a statement, or behind the arrow of an arm: one that
ends with a block goes on behind it only with a suffix. -/
def leadingExpr (g : Grammar) : Parser Tree := do
  let attrs ← outerAttributes g
  let c ← get
  let blockLike : Option (Parser Tree) :=
    if c.shows (.word "if") then some (ifExpr g)
    else if c.shows (.word "while") || c.shows (.word "loop")
        || (c.shows (.word "for") && !c.showsParameters 1) then
      some (labelled g Tree.absent)
    else if c.shows (.word "match") then some (matchExpr g)
    else if c.shows (.word "try") && c.shows .braces 1 then
      some (do return .node .tryBlock [← word "try", ← block g])
    else if c.shows (.word "unsafe") then
      some (do return .node .unsafeExpr [← word "unsafe", ← attributedBlock g])
    else if c.shows (.word "const") && c.shows .braces 1 then
      some (do return .node .constExpr [← word "const", ← attributedBlock g])
    else if c.shows .braces then
      some (do return .node .blockExpr [Tree.absent, ← attributedBlock g])
    else if c.shows .lifetime then some (labelledExpr g)
    else none
  match blockLike with
  | none => continueExpr g true (withAttributes attrs (← g.operand true)) .lowest
  | some p =>
      let e ← p
      if ((← shows (.op ".")) && !(← shows (.op ".."))) || (← shows (.op "?")) then
        continueExpr g true (withAttributes attrs (← suffixes g e)) .lowest
      else return withAttributes attrs e

end Parser

end BuilderForge.Code
