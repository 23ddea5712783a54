import BuilderForge.Code.Format.Type
import BuilderForge.Code.IntegerLiteral

set_option autoImplicit false

/-! # Formatting expressions

Expressions, patterns, statements and blocks. A chain of calls on a receiver is broken in front of
every point, or not at all; a receiver with a short name at the beginning of a line stays together
with the first call. -/

namespace BuilderForge.Code.Format

open Layout

/-! ## Classes of expressions -/

def isShortIdent : Tree → Bool
  | .path .value false [.mk i none] => i.text.utf8ByteSize ≤ 4
  | _ => false

/-- Whether an expression as the only argument stays on the line of the call. -/
def isBlockLike : Tree → Bool
  | .node k _ =>
      [Kind.arrayExpr, .asyncExpr, .blockExpr, .closureExpr, .constExpr, .structExpr, .tryBlock,
        .tupleExpr, .unsafeExpr].contains k
  | _ => false

/-- Whether an expression at the end of a condition is followed by a line end if it is broken;
`depth` bounds how deep to look. -/
def breaksCondition : Nat → Tree → Bool
  | 0, _ => false
  | depth + 1, e =>
      match e.bare with
      | .node k parts =>
          if [Kind.assignExpr, .awaitExpr, .binaryExpr, .castExpr, .fieldExpr, .indexExpr,
              .methodCall].contains k then true
          else
            match k, parts with
            | .callExpr, callee :: _ => breaksCondition depth callee
            | .tryExpr, inner :: _ => breaksCondition depth inner
            | .parenExpr, [.group _ [inner]] => breaksCondition depth inner
            | .letExpr, [_, _, _, inner] => breaksCondition depth inner
            | .referenceExpr, [_, _, inner] => breaksCondition depth inner
            | .rawAddress, [_, _, _, inner] => breaksCondition depth inner
            | .unaryExpr, [_, inner] => breaksCondition depth inner
            | .rangeExpr, [_, _, stop] => breaksCondition depth stop
            | .breakExpr, [_, _, value] => breaksCondition depth value
            | .returnExpr, [_, value] => breaksCondition depth value
            | .yieldExpr, [_, value] => breaksCondition depth value
            | _, _ => false
      | _ => false

def addsSemicolon (e : Tree) : Bool :=
  match e.bare with
  | .node .binaryExpr [_, .op s, _] => s.endsWith "=" && !(["==", "<=", ">=", "!="].contains s)
  | .node k _ =>
      [Kind.assignExpr, .breakExpr, .continueExpr, .returnExpr, .yieldExpr].contains k
  | _ => false

/-- Whether an expression as a statement loses its semicolon; `depth` bounds how deep to look. -/
def dropsSemicolon : Nat → Tree → Bool
  | 0, _ => false
  | depth + 1, e =>
      match e.bare with
      | .node .forExpr _ | .node .whileExpr _ => true
      | .node .ifExpr [_, _, _, _, rest] => rest.isAbsent || dropsSemicolon depth rest
      | _ => false

def armNeedsComma (e : Tree) : Bool :=
  match e.bare with
  | .node k _ => !k.isBlockLike
  | _ => true

/-- Whether an expression in front of an operator ends a statement that begins with it. -/
def endsStatement (e : Tree) : Bool :=
  match e.bare with
  | .node .macroCall [_, _, .group d _] => d = .brace
  | _ => !armNeedsComma e

/-- Whether an expression can stand at the beginning of a statement without being cut short; `depth`
bounds how deep to look. -/
def canBeginStatement : Nat → Tree → Bool
  | 0, _ => true
  | depth + 1, e =>
      match e.bare with
      | .node k (first :: _) =>
          if [Kind.awaitExpr, .fieldExpr, .methodCall, .tryExpr].contains k then
            canBeginStatement depth first
          else if [Kind.assignExpr, .binaryExpr, .callExpr, .castExpr, .indexExpr,
              .rangeExpr].contains k then
            !endsStatement first && canBeginStatement depth first
          else true
      | _ => true

def classDepth : Nat := 1000

/-! ## Blocks -/

def blockParts (body : Tree) : Tree × List Tree :=
  match body with
  | .group _ (.node .attributes attrs :: statements) => (.node .attributes attrs, statements)
  | .group _ statements => (Tree.absent, statements)
  | _ => (Tree.absent, [])

def soleExpr? : List Tree → Option Tree
  | [.node .exprStatement [e, semicolon]] => if semicolon.isAbsent then some e else none
  | _ => none

/-- A block that stands on one line if it fits, without the indentation of its content. -/
def smallBlock (f : Formatter) (body : Tree) : List Doc :=
  let (attrs, statements) := blockParts body
  let inner :=
    if attrs.isAbsent && statements.isEmpty then []
    else
      let content := match soleExpr? statements with
        | some e => ibox 0 (f.expr true e) ++ spaceBreak
        | none => statements.flatMap f.statement
      shift (-indentation) (spaceBreak ++ attributes f attrs ++ content)
  word "\x7b" ++ inner ++ word "\x7d"

/-- A block whose statements stand on lines of their own. What stands in front of it is measured
without it. -/
def openBlock (f : Formatter) (body : Tree) : List Doc :=
  let (attrs, statements) := blockParts body
  word "\x7b" ++ neverBreak
    ++ indented (hardBreakIfNonempty ++ attributes f attrs ++ statements.flatMap f.statement)
    ++ word "\x7d"

def label (t : Tree) : List Doc :=
  match t with
  | .node .label [a, _] => word (plain a ++ ": ")
  | _ => []

def condition (f : Formatter) (e : Tree) : List Doc :=
  cbox 0 (f.expr false e ++ if breaksCondition classDepth e then spaceBreak else word " ")

/-! ## Calls -/

def callArguments (f : Formatter) (args : List Tree) : List Doc :=
  let args := elements "," args
  let inner := match args with
    | [e] =>
        if isBlockLike e then f.expr false e
        else indented (zeroBreak ++ commaRow [f.expr false e])
    | _ => indented (zeroBreak ++ commaRow (args.map (f.expr false)))
  word "(" ++ inner ++ word ")"

/-- A break in front of the point behind a receiver, unless its name is short. -/
def memberBreak (lineStart : Bool) (receiver : Tree) : List Doc :=
  if lineStart && isShortIdent receiver then [] else zeroBreak

/-- The point behind a receiver and what follows it. A number that ends with a point of its own
keeps apart from it. -/
def member (receiver : Tree) (s : String) : List Doc :=
  let apart := match receiver with
    | .literal text => text.endsWith "."
    | _ => false
  word ((if apart then " ." else ".") ++ s)

/-- The receiver at the beginning of a chain of calls, and all of the chain up to the last point.
`depth` bounds the number of calls. -/
def chain (f : Formatter) (lineStart : Bool) : Nat → Tree → List Doc
  | 0, _ => []
  | depth + 1, e =>
      match e with
      | .node .awaitExpr [base, _, _] =>
          chain f lineStart depth base ++ memberBreak lineStart base ++ member base "await"
      | .node .callExpr [callee, .group _ args] =>
          chain f false depth callee ++ callArguments f args
      | .node .fieldExpr [base, _, m] =>
          chain f lineStart depth base ++ memberBreak lineStart base ++ member base (plain m)
      | .node .indexExpr [base, .group _ [i]] =>
          chain f lineStart depth base ++ word "[" ++ f.expr false i ++ word "]"
      | .node .methodCall [base, _, m, turbofish, .group _ args] =>
          chain f lineStart depth base ++ memberBreak lineStart base ++ member base (plain m)
            ++ pathArguments f true turbofish ++ cbox 0 (callArguments f args)
      | .node .tryExpr [base, _] => chain f lineStart depth base ++ word "?"
      | e => cbox (-indentation) (f.expr false e)

def methodCall (f : Formatter) (lineStart : Bool) : Tree → List Doc
  | .node .methodCall [base, _, m, turbofish, .group _ args] =>
      let offset := if lineStart && isShortIdent base then -indentation else 0
      cbox indentation (chain f lineStart classDepth base ++ memberBreak lineStart base
        ++ member base (plain m) ++ pathArguments f true turbofish
        ++ cbox offset (callArguments f args))
  | _ => []

/-! ## Branches and loops -/

/-- The branches of an `if` behind the first, `depth` of which are looked at. -/
def elseBranches (f : Formatter) : Nat → Tree → List Doc
  | 0, _ => []
  | depth + 1, rest =>
      match rest with
      | .node .ifExpr [_, cond, body, _, next] =>
          word " else if " ++ cbox (-indentation) (condition f cond) ++ smallBlock f body
            ++ elseBranches f depth next
      | .node .blockExpr [_, body] => word " else " ++ smallBlock f body
      | _ => []

/-- An `if` with its branches. One without a second branch has its statements on lines of their
own. -/
def ifExpr (f : Formatter) (cond body rest : Tree) : List Doc :=
  let head := word "if " ++ cbox (-indentation) (condition f cond)
  let statements := (blockParts body).2
  let tail :=
    if !rest.isAbsent then smallBlock f body ++ elseBranches f classDepth rest
    else if statements.isEmpty then word "\x7b\x7d"
    else word "\x7b" ++ shift (-indentation) (hardBreak ++ statements.flatMap f.statement)
      ++ word "\x7d"
  cbox indentation (head ++ tail)

/-- What an arm leads to, without blocks around a single expression; `depth` bounds their number. -/
def armBody : Nat → Tree → Tree
  | 0, e => e
  | depth + 1, e =>
      match e with
      | .node .blockExpr [.node .absent [], .group d statements] =>
          match soleExpr? statements with
          | some inner => armBody depth inner
          | none => .node .blockExpr [Tree.absent, .group d statements]
      | .node .tupleExpr [.group _ []] => .node .blockExpr [Tree.absent, .group .brace []]
      | e => e

/-- An arm of a match. An expression that does not fit behind the arrow is put into braces. -/
def matchArm (f : Formatter) : Tree → List Doc
  | .node .matchArm [attrs, p, _, guard, _, body, _] =>
      let body := armBody classDepth body
      let tail := match body.bare with
        | .node .blockExpr [l, block] => label l ++ openBlock f block
        | _ =>
            let braces := canBeginStatement classDepth body
            neverBreak ++ cbox indentation
              ([.gap { closing := if braces then "\x7b" else "(" }] ++ f.expr braces body
                ++ [.gap {
                  offset := -indentation
                  closing := if braces && addsSemicolon body then ";" else ""
                  opening := if braces then "\x7d" else "),"
                  between := if armNeedsComma body then "," else "" }])
      attributes f attrs ++ ibox 0 (f.pattern p
        ++ (if guard.isAbsent then [] else word " if " ++ f.expr false guard)
        ++ word " => " ++ tail)
  | .node .attributes attrs => attributes f (.node .attributes attrs)
  | _ => []

def matchExpr (f : Formatter) (e : Tree) (arms : List Tree) : List Doc :=
  ibox 0 (word "match " ++ condition f e ++ word "\x7b" ++ neverBreak
    ++ indented (hardBreakIfNonempty ++ arms.flatMap fun a =>
      matchArm f a ++ match a with
        | .node .attributes _ => []
        | _ => hardBreak)
    ++ word "\x7d")

/-! ## Structs, arrays and closures -/

def fieldValue (f : Formatter) : Tree → List Doc
  | .node .fieldValue [attrs, m, _, e] =>
      attributes f attrs ++ word (plain m ++ ": ") ++ ibox 0 (f.expr false e)
  | .node .fieldValue (attrs :: m :: _) => attributes f attrs ++ word (plain m)
  | _ => []

/-- The width of a struct that stands on one line, up to its closing brace. -/
def structWidth : Nat := 34

/-- A blank behind two points, if what follows them begins with two more. -/
def dotsApart : Tree → List Doc
  | .node .rangeExpr (.node .absent _ :: _) => word " "
  | _ => []

def structExpr (f : Formatter) (head : Tree) (body : List Tree) : List Doc :=
  let isField : Tree → Bool
    | .node .fieldValue _ => true
    | _ => false
  let fields := body.filter isField
  let base := (body.dropWhile fun t => !isOp ".." t).drop 1
  let values := inRow (fun v isLast => fieldValue f v
    ++ trailingCommaOrSpace (isLast && base.isEmpty)) fields
  let base := if base.isEmpty then []
    else word ".." ++ base.flatMap (fun e => dotsApart e ++ f.expr false e) ++ spaceBreak
  cbox indentation (atMost structWidth (shift (-indentation)
    (ibox (-indentation) (f.expr false head) ++ word " \x7b" ++ spaceBreakIfNonempty ++ values
      ++ base)))
    ++ word "\x7d"

/-- Whether an expression is a literal of a whole number, a byte, a character or a truth value. -/
def isSimpleLiteral (e : Tree) : Bool :=
  match e.bare with
  | .word _ => true
  | .literal s =>
      match s.toList with
      | '\'' :: _ => true
      | 'b' :: '\'' :: _ => true
      | _ => (IntegerLiteral.read? s).isSome
  | _ => false

def isSimpleArray (es : List Tree) : Bool := es.all isSimpleLiteral

def arrayExpr (f : Formatter) (es : List Tree) : List Doc :=
  if es.isEmpty then word "[]"
  else if isSimpleArray es then
    let row := inRow (fun e isLast => f.expr false e
      ++ if isLast then [] else word "," ++ spaceBreak) es
    indented (word "[" ++ zeroBreak ++ ibox 0 row ++ trailingComma true) ++ word "]"
  else enclosed "[" (es.map (f.expr false)) "]"

def closureParams (f : Formatter) (params : List Tree) : List Doc :=
  match params with
  | [] => []
  | _ => zeroBreak ++ inRow (fun p isLast => f.pattern p
      ++ if isLast then [] else word "," ++ spaceBreak) params

def closureExpr (f : Formatter) (marks : List Tree) (params : List Tree) (output body : Tree) :
    List Doc :=
  let front := match marks with
    | lifetimes :: words => binder f lifetimes ++ words.flatMap fun w => optional w (plain w ++ " ")
    | [] => []
  let tail :=
    if output.isAbsent then
      let head := indented (word "|" ++ closureParams f params ++ word "|" ++ spaceBreak)
      let staysBehind := match body with
        | .node .matchExpr _ => true
        | .node .callExpr _ => true
        | body => isBlockLike body
      let braces := canBeginStatement classDepth body
      let body :=
        if staysBehind then f.expr false body
        else cbox indentation
          ([.gap { closing := if braces then "\x7b" else "(" }] ++ f.expr false body
            ++ [.gap {
              offset := -indentation
              closing := if braces && addsSemicolon body then ";" else ""
              opening := if braces then "\x7d" else ")" }])
      head ++ neverBreak ++ body
    else
      let stop := if params.isEmpty then [] else shift (-indentation) (trailingComma true)
      cbox indentation (word "|" ++ closureParams f params ++ stop ++ word "|")
        ++ returnType f output ++ word " " ++ neverBreak ++ f.expr false body
  ibox 0 (front ++ tail)

/-! ## Expressions -/

/-- An expression. `lineStart` says whether it stands at the beginning of a line. -/
def exprDocs (f : Formatter) (lineStart : Bool) : Tree → List Doc
  | .node .attributed [attrs, e] =>
      attributes f attrs
        ++ if e.isRange then word "(" ++ f.expr false e ++ word ")" else f.expr lineStart e
  | .node .arrayExpr [.group _ es] => arrayExpr f (elements "," es)
  | .node .repeatExpr [.group _ [e, _, n]] =>
      word "[" ++ f.expr false e ++ word "; " ++ f.expr false n ++ word "]"
  | .node .assignExpr [l, _, r] =>
      ibox 0 (f.expr false l ++ word " = " ++ neverBreak ++ f.expr false r)
  | .node .binaryExpr [l, o, r] =>
      ibox indentation (ibox (-indentation) (f.expr false l) ++ spaceBreak
        ++ word (plain o ++ " ") ++ f.expr false r)
  | .node .castExpr [e, _, t] =>
      ibox indentation
        (ibox (-indentation) (f.expr false e) ++ spaceBreak ++ word "as " ++ f.type t)
  | .node .rangeExpr [start, o, stop] =>
      f.expr false start ++ word (plain o) ++ (if isOp ".." o then dotsApart stop else [])
        ++ f.expr false stop
  | .node .asyncExpr [_, m, body] =>
      word "async " ++ optional m "move " ++ cbox indentation (smallBlock f body)
  | .node .awaitExpr parts =>
      cbox indentation (chain f lineStart classDepth (.node .awaitExpr parts))
  | .node .fieldExpr parts =>
      cbox indentation (chain f lineStart classDepth (.node .fieldExpr parts))
  | .node .methodCall parts => methodCall f lineStart (.node .methodCall parts)
  | .node .callExpr [callee, .group _ args] => f.expr false callee ++ callArguments f args
  | .node .indexExpr [e, .group _ [i]] =>
      f.expr lineStart e ++ word "[" ++ f.expr false i ++ word "]"
  | .node .tryExpr [e, _] => f.expr lineStart e ++ word "?"
  | .node .blockExpr [l, body] => label l ++ cbox indentation (smallBlock f body)
  | .node .constExpr [_, body] => word "const " ++ cbox indentation (smallBlock f body)
  | .node .unsafeExpr [_, body] => word "unsafe " ++ cbox indentation (smallBlock f body)
  | .node .tryBlock [_, body] => word "try " ++ cbox indentation (smallBlock f body)
  | .node .loopExpr [l, _, body] => label l ++ word "loop " ++ openBlock f body
  | .node .whileExpr [l, _, cond, body] =>
      label l ++ word "while " ++ condition f cond ++ openBlock f body
  | .node .forExpr [l, _, p, _, e, body] =>
      ibox 0 (label l ++ word "for " ++ f.pattern p ++ word " in " ++ neverBreak ++ condition f e
        ++ openBlock f body)
  | .node .breakExpr [_, l, e] =>
      word "break" ++ (if l.isAbsent then [] else word (" " ++ plain l))
        ++ if e.isAbsent then [] else word " " ++ f.expr false e
  | .node .continueExpr [_, l] =>
      word "continue" ++ if l.isAbsent then [] else word (" " ++ plain l)
  | .node .returnExpr [_, e] =>
      word "return" ++ if e.isAbsent then [] else word " " ++ f.expr false e
  | .node .yieldExpr [_, e] =>
      word "yield" ++ if e.isAbsent then [] else word " " ++ f.expr false e
  | .node .closureExpr
      [lifetimes, isConst, isStatic, isAsync, isMove, _, params, _, output, body] =>
      closureExpr f [lifetimes, isConst, isStatic, isAsync, isMove]
        (elements "," (partsOf params)) output body
  | .node .ifExpr [_, cond, body, _, rest] => ifExpr f cond body rest
  | .node .letExpr [_, p, _, e] =>
      ibox indentation (word "let " ++ ibox (-indentation) (f.pattern p) ++ word " = "
        ++ neverBreak ++ ibox (-indentation) (f.expr false e))
  | .node .matchExpr [_, e, .group _ arms] => matchExpr f e arms
  | .node .parenExpr [.group _ [e]] => word "(" ++ f.expr false e ++ word ")"
  | .node .tupleExpr [.group _ es] => enclosedTuple "(" ((elements "," es).map (f.expr false)) ")"
  | .node .structExpr [head, .group _ body] => structExpr f head body
  | .node .referenceExpr [_, m, e] => word "&" ++ optional m "mut " ++ f.expr false e
  | .node .rawAddress [_, _, m, e] => word ("&raw " ++ plain m ++ " ") ++ f.expr false e
  | .node .unaryExpr [o, e] => word (plain o) ++ f.expr false e
  | .node .macroCall [p, _, .group d [.raw ts]] => macroCall p Tree.absent d ts false
  | .node .qualified parts => qualifiedPath f true (.node .qualified parts)
  | .path _ leading ss => path f true leading ss
  | .node .absent _ => []
  | t => word (plain t)

/-! ## Patterns -/

/-- Whether a pattern is a literal or matches everything. Alternatives that all are fill their
lines; others are broken all together. -/
def isPlainCase (p : Tree) : Bool :=
  match p.bare with
  | .literal _ => true
  | .word _ => true
  | .node .negative _ => true
  | .node .wildPattern _ => true
  | _ => false

def fieldPattern (f : Formatter) : Tree → List Doc
  | .node .fieldPattern [attrs, .node .sequence [m, _, p]] =>
      attributes f attrs ++ word (plain m ++ ": ") ++ f.pattern p
  | .node .fieldPattern [attrs, .node .sequence [boxed, byRef, mutable, m]] =>
      attributes f attrs ++ optional boxed "box " ++ optional byRef "ref "
        ++ optional mutable "mut " ++ word (plain m)
  | t => f.pattern t

/-- The path in front of the parts of a pattern. A type in angle brackets is left out of it. -/
def patternPath (f : Formatter) (head : Tree) : List Doc :=
  match head.path? with
  | some p => path f true p.leadingColon p.segments
  | none => f.expr false head

def patternDocs (f : Formatter) : Tree → List Doc
  | .node .attributed [attrs, p] =>
      let docs := f.pattern p
      attributes f attrs
        ++ if p.isRange && !(partsOf attrs).isEmpty then word "(" ++ docs ++ word ")" else docs
  | .node .bindingPattern [byRef, mutable, i, _, sub] =>
      optional byRef "ref " ++ optional mutable "mut " ++ word (plain i)
        ++ if sub.isAbsent then [] else word " @ " ++ f.pattern sub
  | .node .boxPattern [_, p] => word "box " ++ f.pattern p
  | .node .orPattern parts =>
      let cases := (elements "|" parts).filter fun p => !p.isAbsent
      let row := cases.zipIdx.flatMap fun (p, n) =>
        (if n = 0 then [] else spaceBreak ++ word "| ") ++ f.pattern p
      box 0 (!(cases.all isPlainCase)) row
  | .node .parenPattern [.group _ [p]] => word "(" ++ f.pattern p ++ word ")"
  | .node .rangePattern [start, o, stop] =>
      f.expr false start ++ word (plain o) ++ f.expr false stop
  | .node .referencePattern [_, m, p] => word "&" ++ optional m "mut " ++ f.pattern p
  | .node .restPattern _ => word ".."
  | .node .slicePattern [.group _ ps] =>
      word "[" ++ commaRow ((elements "," ps).map f.pattern) ++ word "]"
  | .node .structPattern [head, .group _ parts] =>
      let fields := elements "," parts
      cbox indentation (shift (-indentation) (patternPath f head ++ word " \x7b"
        ++ spaceBreakIfNonempty ++ inRow (fun p isLast => match p with
          | .node .restPattern (attrs :: _) => attributes f attrs ++ word ".." ++ spaceBreak
          | p => fieldPattern f p ++ trailingCommaOrSpace isLast) fields)) ++ word "\x7d"
  | .node .tuplePattern [.group _ [p]] =>
      word "(" ++ indented (zeroBreak ++ f.pattern p ++ zeroBreak) ++ word ")"
  | .node .tuplePattern [.group _ ps] => enclosedTuple "(" ((elements "," ps).map f.pattern) ")"
  | .node .tupleStructPattern [head, .group _ ps] =>
      patternPath f head ++ enclosed "(" ((elements "," ps).map f.pattern) ")"
  | .node .typedPattern [p, _, t] => f.pattern p ++ word ": " ++ f.type t
  | .node .wildPattern _ => word "_"
  | t => f.expr false t

/-! ## Statements -/

def statementDocs (f : Formatter) : Tree → List Doc
  | .node .local [attrs, _, p, _, t, _, e, _, diverge, _] =>
      let init := if e.isAbsent then [] else word " = " ++ neverBreak ++ f.expr false e
      let front := word "let " ++ f.pattern p
        ++ (if t.isAbsent then [] else word ": " ++ f.type t) ++ init
      let whole := if diverge.isAbsent then ibox 0 front
        else ibox 0 (front ++ spaceBreak ++ word "else ") ++ neverBreak
          ++ cbox indentation (smallBlock f diverge)
      attributes f attrs ++ whole ++ word ";" ++ hardBreak
  | .node .itemStatement [item] => f.item item
  | .node .macroStatement [attrs, .node .macroCall [p, _, .group d [.raw ts]], semicolon] =>
      attributes f attrs ++ macroCall p Tree.absent d ts (!semicolon.isAbsent) ++ hardBreak
  | .node .exprStatement [e, semicolon] =>
      if e.isAbsent then []
      else
        let stop := if semicolon.isAbsent then addsSemicolon e else !dropsSemicolon classDepth e
        ibox 0 (f.expr true e ++ if stop then word ";" else []) ++ hardBreak
  | _ => []

end BuilderForge.Code.Format
