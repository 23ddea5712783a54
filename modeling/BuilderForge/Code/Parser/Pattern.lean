import BuilderForge.Code.Parser.Type

set_option autoImplicit false

/-! # Parsing patterns

`singlePattern` reads a pattern without alternatives at its top; `pattern` reads alternatives, with
an optional bar in front of the first. -/

namespace BuilderForge.Code

namespace Parser

/-- Reads alternatives of a pattern, with or without a bar in front. -/
def pattern (g : Grammar) : Parser Tree := do
  let bar ← op? "|"
  let first ← g.pattern
  let more : Parser Bool :=
    return (← shows (.op "|")) && !(← shows (.op "||")) && !(← shows (.op "|="))
  if !bar.isAbsent || (← more) then
    let rest ← manyWhile more do
      let s ← op "|"
      return [s, ← g.pattern]
    return .node .orPattern ([bar, first] ++ rest.flatten)
  else return first

def patterns (g : Grammar) : Parser (List Tree) := commaSeparated (pattern g)

/-- The number of a place that an integer literal gives, in decimal digits, or what is wrong with
it. -/
def placeNumber (literal : String) : Except Complaint String :=
  match tokenize literal, IntegerLiteral.read? literal with
  | .error _, _ => .error .unreadable
  | .ok _, none => .error .noIndex
  | .ok _, some (value, suffix) =>
      if suffix ≠ "" then .error .suffixedIndex
      else if value < 4294967296 then .ok (toString value)
      else .error .hugeIndex

/-- The place that a literal at `span` numbers. -/
def place (span : Span) (literal : String) : Parser Tree :=
  match placeNumber literal with
  | .error complaint => complainAt span complaint
  | .ok digits => return .literal digits

/-- Reads what names a field: an identifier or the number of a place. -/
def member : Parser Tree := do
  match (← get).rest with
  | .leaf (.literal s) span :: _ =>
      if isIntegerLiteral s then
        let _ ← literal
        place span s
      else complain .noMember
  | .leaf (.punct '-' _) mark :: .leaf (.literal s) span :: _ =>
      match IntegerLiteral.read? s with
      | some (_, "") => complainAt (mark.join span) .negativeIndex
      | some _ => complainAt (mark.join span) .suffixedIndex
      | none => complain .noMember
  | _ => if ← shows .identifier then identTree else complain .noMember

def opWidth : Tree → Nat
  | .op s => s.length
  | _ => 0

/-- Reads the operator of a range; `dots` says whether the old form with three dots counts, which
stands for the closed one. -/
def rangeOp (dots : Bool) : Parser Tree := do
  if ← shows (.op "..=") then op "..="
  else if ← shows (.op "...") then
    if dots then
      let _ ← op "..."
      return .op "..="
    else wantOneOf [.op "..="]
  else if ← shows (.op "..") then op ".."
  else wantOneOf [.op ".."]

/-- Reads one end of a range pattern, if there is one. -/
def rangeBound (g : Grammar) : Parser Tree := do
  let c ← get
  if c.rest.isEmpty || c.shows (.op "|") || c.shows (.op "=")
      || (c.shows (.op ":") && !c.shows (.op "::")) || c.shows (.op ",") || c.shows (.op ";")
      || c.shows (.word "if") then
    return Tree.absent
  else if c.shows .literal then literal
  else if c.shows .identifier || c.shows (.op "::") || c.shows (.op "<")
      || placeWords.any (fun w => c.shows (.word w)) then
    match ← qualifiedPath g true with
    | .inl p => return p.toTree .value
    | .inr t => return t
  else if c.shows (.word "const") then
    return .node .constExpr [← word "const", ← attributedBlock g]
  else wantOneOf [.literal, .identifier, .op "::", .op "<", .word "self", .word "Self",
    .word "super", .word "crate", .word "const"]

/-- Reads the rest of a range pattern that begins with `start`. -/
def rangePattern (g : Grammar) (start : Tree) : Parser Tree := do
  let limits ← rangeOp true
  let stop ← rangeBound g
  match limits, stop.isAbsent with
  | .op "..", _ => return .node .rangePattern [start, limits, stop]
  | _, true => complain .noRangeEnd
  | _, false => return .node .rangePattern [start, limits, stop]

def fieldPattern (g : Grammar) : Parser Tree := do
  let boxed ← word? "box"
  let byRef ← word? "ref"
  let mutable ← word? "mut"
  let plain := boxed.isAbsent && byRef.isAbsent && mutable.isAbsent
  let m ← if plain then member else identTree
  let named := match m with
    | .word _ => true
    | _ => false
  if (plain && (← shows (.op ":"))) || !named then
    let colon ← op ":"
    return .node .sequence [m, colon, ← pattern g]
  else return .node .sequence [boxed, byRef, mutable, m]

def structPattern (g : Grammar) (path : Tree) : Parser Tree := do
  let fields ← inGroup .brace do
    let found ← loop (fun (found : List Tree) => do
      if ← atEnd then return .inr found
      let attrs ← attributeTrees g
      if ← shows (.op "..") then
        return .inr (.node .restPattern [attrs, ← op ".."] :: found)
      let f ← fieldPattern g
      let f : Tree := .node .fieldPattern [attrs, f]
      if ← atEnd then return .inr (f :: found)
      let comma ← op ","
      return .inl (comma :: f :: found)) []
    return found.reverse
  return .node .structPattern [path, .group .brace fields]

def pathPattern (g : Grammar) : Parser Tree := do
  let p ← qualifiedPath g true
  match p with
  | .inl p =>
      if (← shows (.op "!")) && !(← shows (.op "!=")) && p.isPlain then
        let bang ← op "!"
        let (d, ts, _) ← rawGroup
        return .node .macroCall [p.toTree .other, bang, .group d [.raw ts]]
  | .inr _ => pure ()
  let other := match p with
    | .inl p => p.toTree .other
    | .inr t => t
  let value := match p with
    | .inl p => p.toTree .value
    | .inr t => t
  if ← shows .braces then structPattern g other
  else if ← shows .parens then
    return .node .tupleStructPattern [other, .group .paren (← inGroup .paren (patterns g))]
  else if ← shows (.op "..") then rangePattern g value
  else return value

def bindingPattern (g : Grammar) : Parser Tree := do
  let byRef ← word? "ref"
  let mutable ← word? "mut"
  let i ← if ← shows (.word "self") then (do return (← anyWord).1) else ident
  if ← shows (.op "@") then
    let a ← op "@"
    return .node .bindingPattern [byRef, mutable, .word i, a, ← g.pattern]
  else return .node .bindingPattern [byRef, mutable, .word i, Tree.absent, Tree.absent]

def parenPattern (g : Grammar) : Parser Tree := do
  let elements ← inGroup .paren (patterns g)
  match elements with
  | [.node .restPattern parts] =>
      return .node .tuplePattern [.group .paren [.node .restPattern parts]]
  | [p] => return .node .parenPattern [.group .paren [p]]
  | _ => return .node .tuplePattern [.group .paren elements]

/-- Reads a pattern of a slice, between brackets. A range that lacks an end needs parentheses
there. -/
def slicePattern (g : Grammar) : Parser Tree := do
  let elements ← inGroup .bracket <| commaSeparated do
    let start ← get
    let p ← pattern g
    match p with
    | .node .rangePattern [first, limits, last] =>
        if first.isAbsent then complainAt (start.here.take (opWidth limits)) .openRangeInSlice
        else if last.isAbsent then
          let read ← tokensSince start
          match read[read.length - opWidth limits]? with
          | some dots => complainAt (dots.headSpan.take (opWidth limits)) .openRangeInSlice
          | none => return p
        else return p
    | _ => return p
  return .node .slicePattern [.group .bracket elements]

def singlePattern (g : Grammar) : Parser Tree := do
  let c ← get
  if (c.shows .identifier && (c.shows (.op "::") 1 || c.shows (.op "!") 1 || c.shows .braces 1
        || c.shows .parens 1 || c.shows (.op "..") 1))
      || (c.shows (.word "self") && c.shows (.op "::") 1)
      || c.shows (.op "::") || c.shows (.op "<") || c.shows (.word "Self")
      || c.shows (.word "super") || c.shows (.word "crate") then
    pathPattern g
  else if c.shows (.word "_") then return .node .wildPattern [← word "_"]
  else if c.shows (.word "box") then
    return .node .boxPattern [← word "box", ← g.pattern]
  else if c.shows (.op "-") || c.shows .literal || c.shows (.word "const") then
    let start ← rangeBound g
    if ← shows (.op "..") then rangePattern g start else return start
  else if c.shows (.word "ref") || c.shows (.word "mut") || c.shows (.word "self")
      || c.shows .identifier then
    bindingPattern g
  else if c.shows (.op "&") then
    let a ← op "&"
    let m ← word? "mut"
    return .node .referencePattern [a, m, ← g.pattern]
  else if c.shows .parens then parenPattern g
  else if c.shows .brackets then slicePattern g
  else if c.shows (.op "..") && !c.shows (.op "...") then
    let limits ← rangeOp false
    let stop ← rangeBound g
    match limits, stop.isAbsent with
    | .op "..", true => return .node .restPattern [Tree.absent, limits]
    | _, true => complain .noRangeEnd
    | _, false => return .node .rangePattern [Tree.absent, limits, stop]
  else wantOneOf [.identifier, .op "::", .op "<", .word "_", .literal, .word "const", .word "ref",
    .word "mut", .op "&", .parens, .brackets, .op "..", .word "const"]

end Parser

end BuilderForge.Code
