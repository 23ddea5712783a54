import BuilderForge.Code.Token

set_option autoImplicit false

/-! # Syntax trees

A `Tree` is a piece of code after parsing: its leaves are the written words, operators and literals,
its inner nodes are labelled with the grammar production they came from (`Kind`), and paths are kept
apart from other nodes, because naming things is what this library reasons about. `Tree.tokens`
reads the code back off the tree, with every operator spaced in the one standard way.

An optional part that is missing is `Tree.absent`, so that the parts of a node stand at fixed
places. The parts of each kind are given with the kind. -/

namespace BuilderForge.Code

/-- The grammar productions. In the comments `x?` is a part that can be absent, `x…` any number of
parts up to the next delimiter, separators among them. -/
inductive Kind where
  /-- A missing optional part; no parts. -/
  | absent
  /-- Something understood but not written; its parts have no tokens. -/
  | implied
  /-- Parts that only belong together. -/
  | sequence
  /-- `[attribute…]` -/
  | attributes
  /-- `[#, !?, [content]]` -/
  | attributeEntry
  /-- `[attributes, x]`. A range stands in parentheses if there are any. -/
  | attributed
  /-- Arguments or parameters with commas between them; lifetimes are written first. -/
  | parameters
  /-- `[-, number]`, where it counts as one literal. -/
  | negative
  -- types
  | arrayType | sliceType | functionType | functionParam | variadicParam | implType | inferType
  | neverType | parenType | pointerType | referenceType | traitObject | tupleType
  -- parts of types and generics
  | qualified | asTrait | angleArgs | parenArgs | returnType | assocType | assocConst | constraint
  | constArg | traitBound | boundLifetimes | preciseCapture | abi | generics | typeParam
  | lifetimeParam | constParam | whereClause | predicate
  -- expressions
  | arrayExpr | assignExpr | asyncExpr | awaitExpr | binaryExpr | blockExpr | breakExpr | callExpr
  | castExpr | closureExpr | constExpr | continueExpr | fieldExpr | forExpr | ifExpr | indexExpr
  | inferExpr | letExpr | loopExpr | matchExpr | matchArm | methodCall | parenExpr | rangeExpr
  | rawAddress | referenceExpr | repeatExpr | returnExpr | structExpr | fieldValue | tryExpr
  | tryBlock | tupleExpr | unaryExpr | unsafeExpr | whileExpr | yieldExpr | label | macroCall
  | verbatimExpr
  -- statements
  | local | itemStatement | exprStatement | macroStatement
  -- patterns
  | bindingPattern | boxPattern | orPattern | parenPattern | rangePattern | referencePattern
  | restPattern | slicePattern | structPattern | fieldPattern | tuplePattern | tupleStructPattern
  | typedPattern | wildPattern
  -- items
  | visibility | structItem | fields | fieldDecl | enumItem | variant | unionItem | functionItem
  | signature | receiver | implItem | traitItem | traitAlias | typeItem | constItem | staticItem
  | useItem | useTree | externCrate | moduleItem | macroItem | foreignModule | verbatimItem
  deriving DecidableEq, Repr

/-- Whether expressions of this kind end with a block of their own. -/
def Kind.isBlockLike : Kind → Bool
  | .ifExpr | .matchExpr | .blockExpr | .unsafeExpr | .whileExpr | .loopExpr | .forExpr | .tryBlock
  | .constExpr => true
  | _ => false

/-- Where a path stands: naming a type, naming a value, naming the trait of a bound, or naming
something else (a macro, a constructor in a pattern, the trait of a qualified path). -/
inductive PathRole where
  | type
  | value
  | bound
  | other
  deriving DecidableEq, Repr

mutual

/-- A piece of parsed code. -/
inductive Tree where
  | word (ident : Ident)
  | op (text : String)
  | lifetime (name : String)
  | literal (text : String)
  | raw (tokens : Tokens)
  | group (delimiter : Delimiter) (body : List Tree)
  | node (kind : Kind) (parts : List Tree)
  | path (role : PathRole) (leadingColon : Bool) (segments : List Segment)
  deriving Repr

/-- One name of a path, with its generic arguments. -/
inductive Segment where
  | mk (ident : Ident) (arguments : Option Tree)
  deriving Repr

end

namespace Segment

def ident : Segment → Ident
  | .mk i _ => i

def arguments : Segment → Option Tree
  | .mk _ a => a

def ofIdent (i : Ident) : Segment := .mk i none

end Segment

/-- A path that stands by itself. -/
structure Path where
  leadingColon : Bool
  segments : List Segment
  deriving Repr

namespace Path

/-- The names of the path, without the marks of raw identifiers. -/
def names (p : Path) : List String := p.segments.map fun s => s.ident.name

/-- A relative path of one name. -/
def ofIdent (i : Ident) : Path := ⟨false, [Segment.ofIdent i]⟩

def toTree (p : Path) (role : PathRole) : Tree := .path role p.leadingColon p.segments

/-- Whether the path is the one name `s`, as written, without arguments. -/
def isName (p : Path) (s : String) : Bool :=
  match p.leadingColon, p.segments with
  | false, [.mk i none] => i.isWritten s
  | _, _ => false

def isPlain (p : Path) : Bool := p.segments.all fun s => s.arguments.isNone

end Path

namespace Tree

def absent : Tree := .node .absent []

def keyword (s : String) : Tree := .word ⟨s, false⟩

def isAbsent : Tree → Bool
  | .node .absent _ => true
  | _ => false

/-- A tree without the attributes in front of it. -/
def bare : Tree → Tree
  | .node .attributed [_, t] => t
  | t => t

/-- The tokens of an operator: every character joint but the last. -/
def opTokens : List Char → Tokens
  | [] => []
  | [c] => [.leaf (.punct c false) Span.nowhere]
  | c :: d :: cs => .leaf (.punct c true) Span.nowhere :: opTokens (d :: cs)

/-- Whether a list of arguments is written with `::` in front of its angle brackets. -/
def hasTurbofish : Tree → Bool
  | .node .angleArgs (.op s :: _) => s == "::"
  | _ => false

/-- Whether an argument or a parameter is a lifetime. -/
def isLifetime : Tree → Bool
  | .lifetime _ => true
  | .node .lifetimeParam _ => true
  | _ => false

def isRange : Tree → Bool
  | .node .rangeExpr _ => true
  | .node .rangePattern _ => true
  | _ => false

/-- Whether a tree is a path that is more than a name. -/
def isLongPath : Tree → Bool
  | .path _ false [.mk _ none] => false
  | .path _ _ _ => true
  | _ => false

/-- A part of a node with its code. -/
abbrev Part := Tree × Tokens

def joined (parts : List Part) : Tokens := parts.flatMap (·.2)

def withCommas : List Part → List (List Part)
  | [] => []
  | [t] => [[t]]
  | t :: (.op ",", comma) :: ts => [t, (.op ",", comma)] :: withCommas ts
  | t :: u :: ts => [t] :: withCommas (u :: ts)

/-- Arguments or parameters with commas between them in the order they are written in: lifetimes
first. -/
def lifetimesFirst (ts : List Part) : List Part :=
  let (lifetimes, others) := (withCommas ts).partition fun t => t.head?.any fun p => isLifetime p.1
  let joint := match lifetimes.getLast?, others with
    | some [_], _ :: _ => [(.op ",", opTokens [','])]
    | _, _ => []
  lifetimes.flatten ++ joint ++ others.flatten

/-- The code of a node, whose parts have theirs. A `where` without conditions is not written, nor is
what is implied. A constant that a parameter stands for otherwise is a name, or stands in braces. -/
def nodeCode : Kind → List Part → Tokens
  | .implied, _ => []
  | .whereClause, [_] => []
  | .parameters, parts => joined (lifetimesFirst parts)
  | .attributed, [(_, attrs), (t, code)] =>
      attrs ++ if !attrs.isEmpty && isRange t then
        [.group .paren code Span.nowhere Span.nowhere] else code
  | .constParam, [attrs, mark, name, colon, type, eq, (t, code)] =>
      joined [attrs, mark, name, colon, type, eq]
        ++ if isLongPath t then [.group .brace code Span.nowhere Span.nowhere] else code
  | _, parts => joined parts

mutual

def tokens : Tree → Tokens
  | .word i => [.leaf (.word i) Span.nowhere]
  | .op s => opTokens s.toList
  | .lifetime name => [.leaf (.lifetime name) Span.nowhere]
  | .literal s => [.leaf (.literal s) Span.nowhere]
  | .raw ts => ts
  | .group d body => [.group d (joined (partsCode body)) Span.nowhere Span.nowhere]
  | .node k parts => nodeCode k (partsCode parts)
  | .path role leading segments =>
      (if leading then opTokens [':', ':'] else []) ++ segmentTokensAll role segments

def partsCode : List Tree → List Part
  | [] => []
  | t :: ts => (t, tokens t) :: partsCode ts

/-- The code of one name of a path. Where the path names a value, its arguments follow `::`. -/
def segmentTokens (role : PathRole) : Segment → Tokens
  | .mk i none => [.leaf (.word i) Span.nowhere]
  | .mk i (some a) =>
      .leaf (.word i) Span.nowhere ::
        ((if role = .value && !a.hasTurbofish then opTokens [':', ':'] else []) ++ tokens a)

def segmentTokensAll (role : PathRole) : List Segment → Tokens
  | [] => []
  | [s] => segmentTokens role s
  | s :: s' :: rest =>
      segmentTokens role s ++ opTokens [':', ':'] ++ segmentTokensAll role (s' :: rest)

end

/-- The path that a type or expression consists of. Of one that begins with a type in angle brackets
it is the path of the trait, if there is one, and the names behind. -/
def path? : Tree → Option Path
  | .path _ leading segments => some ⟨leading, segments⟩
  | .node .qualified [_, _, .node .asTrait [_, .path _ leading trait], _, _, .path _ _ rest] =>
      some ⟨leading, trait ++ rest⟩
  | .node .qualified [_, _, _, _, _, .path _ _ rest] => some ⟨true, rest⟩
  | _ => none

def display (t : Tree) : String := t.tokens.display

end Tree

namespace Path

def tokens (p : Path) : Tokens := (p.toTree .type).tokens

def display (p : Path) : String := p.tokens.display

end Path

end BuilderForge.Code
