import BuilderForge.Code.IntegerLiteral
import BuilderForge.Code.Item
import BuilderForge.Code.Lexer

set_option autoImplicit false

/-! # Parsing tokens

A `Parser` reads from a list of token trees, the *cursor*. It fails with the first complaint met.
Inside of a group the cursor holds the tokens of the group only; reading past their end is
complained about at the closing delimiter. Tokens left over in a group are no failure by
themselves: the first of them is remembered in the cursor and complained about once everything
else is read.

A complaint says what was wanted. Where several continuations were possible, `wantOneOf` lists
those that the cursor does not show. -/

namespace BuilderForge.Code

/-! ## Complaints -/

/-- What a place in the code can call for. -/
inductive Wanted where
  /-- A word that is no identifier, or is one with a meaning at this place. -/
  | word (text : String)
  | op (text : String)
  | identifier
  | lifetime
  | literal
  | stringLiteral
  | parens
  | brackets
  | braces
  deriving DecidableEq, Repr

namespace Wanted

def describe : Wanted → String
  | .word s => "`" ++ s ++ "`"
  | .op s => "`" ++ s ++ "`"
  | .identifier => "identifier"
  | .lifetime => "lifetime"
  | .literal => "literal"
  | .stringLiteral => "string literal"
  | .parens => "parentheses"
  | .brackets => "square brackets"
  | .braces => "curly braces"

end Wanted

/-- What follows a cast although it cannot. -/
inductive CastSuffix where
  | await
  | methodCall
  | fieldAccess
  | question
  | indexing
  | functionCall
  deriving DecidableEq, Repr

namespace CastSuffix

def describe : CastSuffix → String
  | .await => "`.await`"
  | .methodCall => "a method call"
  | .fieldAccess => "a field access"
  | .question => "`?`"
  | .indexing => "indexing"
  | .functionCall => "a function call"

end CastSuffix

/-- What is wrong with the code at a place. -/
inductive Complaint where
  /-- The text is not made of tokens. -/
  | unreadable
  | wanted (options : List Wanted)
  | keywordAsIdentifier (word : String)
  | leftOver (delimiter : Option Delimiter)
  | noExpression
  | noDelimiter
  | noPathSegment
  | noAlias
  | noWord
  | noMember
  | noLoop
  | noCommaOrSemicolon
  | noRangeEnd
  | missingSemicolon
  | parenthesesRequired
  | suffixedIndex
  | hugeIndex
  | negativeIndex
  | noIndex
  | openRangeInSlice
  | negativeInherent
  | chainedComparison
  | castFollowedBy (suffix : CastSuffix)
  | objectWithoutTrait
  | opaqueWithoutTrait
  | captureOutOfPlace
  | parametersOfClause
  | constBoundOutOfPlace (conditional : Bool)
  | binderWithRelaxedBound
  | attributeInAttribute
  | attributeOnRange
  | secondReceiver
  | misplacedReceiver
  | nestedNothing
  | nestedLiteral
  | nestedToken
  /-- The attribute `name` has no argument list; `bare` says that it has no arguments at all. -/
  | noArguments (name : String) (inner : Bool) (bare : Bool)
  /-- A complaint of whoever reads the code. -/
  | other (text : String)
  deriving Repr

namespace Complaint

def describe : Complaint → String
  | .unreadable => "cannot parse string into token stream"
  | .wanted [] => ""
  | .wanted [a] => "expected " ++ a.describe
  | .wanted [a, b] => "expected " ++ a.describe ++ " or " ++ b.describe
  | .wanted options => "expected one of: " ++ ", ".intercalate (options.map Wanted.describe)
  | .keywordAsIdentifier w => "expected identifier, found keyword `" ++ w ++ "`"
  | .leftOver none => "unexpected token"
  | .leftOver (some d) => "unexpected token, expected `" ++ String.singleton d.closing ++ "`"
  | .noExpression => "expected an expression"
  | .noDelimiter => "expected delimiter"
  | .noPathSegment => "expected path segment after `::`"
  | .noAlias => "expected identifier or underscore"
  | .noWord => "expected ident"
  | .noMember => "expected identifier or integer"
  | .noLoop => "expected loop or block expression"
  | .noCommaOrSemicolon => "expected `,` or `;`"
  | .noRangeEnd => "expected range upper bound"
  | .missingSemicolon => "unexpected token, expected `;`"
  | .parenthesesRequired => "parentheses required"
  | .suffixedIndex => "expected unsuffixed integer"
  | .hugeIndex => "number too large to fit in target type"
  | .negativeIndex => "invalid digit found in string"
  | .noIndex => "expected integer literal"
  | .openRangeInSlice => "range pattern is not allowed unparenthesized inside slice pattern"
  | .negativeInherent => "inherent impls cannot be negative"
  | .chainedComparison => "comparison operators cannot be chained"
  | .castFollowedBy s => "casts cannot be followed by " ++ s.describe
  | .objectWithoutTrait => "at least one trait is required for an object type"
  | .opaqueWithoutTrait => "at least one trait must be specified"
  | .captureOutOfPlace => "`use<...>` precise capturing syntax is not allowed here"
  | .parametersOfClause => "generic parameters on `where` clauses are reserved for future use"
  | .constBoundOutOfPlace true => "`[const]` is not allowed here"
  | .constBoundOutOfPlace false => "`const` is not allowed here"
  | .binderWithRelaxedBound => "`for<...>` binder not allowed with `?` trait polarity modifier"
  | .attributeInAttribute => "unexpected attribute inside of attribute"
  | .attributeOnRange => "attributes are not allowed on range expressions starting with `..`"
  | .secondReceiver => "unexpected second method receiver"
  | .misplacedReceiver => "unexpected method receiver"
  | .nestedNothing => "expected nested attribute"
  | .nestedLiteral => "unexpected literal in nested attribute, expected ident"
  | .nestedToken => "unexpected token in nested attribute, expected ident"
  | .noArguments name inner bare =>
      (if bare then "expected attribute arguments in parentheses: "
        else "expected parentheses: ")
        ++ (if inner then "#![" else "#[") ++ name ++ "(...)]"
  | .other text => text

end Complaint

/-- A complaint and the place it is about. `atEnd` says that the tokens ended there. -/
structure ParseError where
  complaint : Complaint
  span : Span
  atEnd : Bool := false
  deriving Repr

namespace ParseError

def message (e : ParseError) : String :=
  let text := e.complaint.describe
  if e.atEnd then
    if text.isEmpty then "unexpected end of input" else "unexpected end of input, " ++ text
  else if text.isEmpty then "unexpected token"
  else text

end ParseError

/-! ## Cursors -/

/-- The tokens still to be read in the present group. `scope` is where their end is, `delimiter`
the kind of the group, and `stray` the first token left over in a group already read. -/
structure Cursor where
  rest : Tokens
  scope : Span
  delimiter : Option Delimiter
  stray : Option (Span × Option Delimiter)

def reservedWords : List String :=
  ["_", "abstract", "as", "async", "await", "become", "box", "break", "const", "continue", "crate",
    "do", "dyn", "else", "enum", "extern", "false", "final", "fn", "for", "if", "impl", "in", "let",
    "loop", "macro", "match", "mod", "move", "mut", "override", "priv", "pub", "ref", "return",
    "Self", "self", "static", "struct", "super", "trait", "true", "try", "type", "typeof",
    "unsafe", "unsized", "use", "virtual", "where", "while", "yield"]

def Ident.isFree (i : Ident) : Bool := i.raw || !reservedWords.contains i.name

/-- Whether operator characters, joint up to the last, stand at the beginning of the tokens. -/
def startsWithOp : List Char → Tokens → Bool
  | [], _ => false
  | [c], .leaf (.punct d _) _ :: _ => c == d
  | c :: e :: cs, .leaf (.punct d joint) _ :: ts => c == d && joint && startsWithOp (e :: cs) ts
  | _, _ => false

/-- Whether a literal is one of text between plain or raw quotes. -/
def isStringLiteral (s : String) : Bool :=
  match s.toList with
  | '"' :: _ => true
  | 'r' :: _ => true
  | _ => false

def isIntegerLiteral (s : String) : Bool := (IntegerLiteral.read? s).isSome

/-- Whether the tokens begin with a literal: also one of the words for truth values, or a number
behind a minus sign. -/
def startsWithLiteral : Tokens → Bool
  | .leaf (.literal _) _ :: _ => true
  | .leaf (.word i) _ :: _ => i.isWritten "true" || i.isWritten "false"
  | .leaf (.punct '-' _) _ :: .leaf (.literal s) _ :: _ => s.toList.head?.any Char.isDigit
  | _ => false

def Wanted.startsAt (w : Wanted) (ts : Tokens) : Bool :=
  match w, ts with
  | .word s, .leaf (.word i) _ :: _ => i.isWritten s
  | .op s, ts => startsWithOp s.toList ts
  | .identifier, .leaf (.word i) _ :: _ => i.isFree
  | .lifetime, .leaf (.lifetime _) _ :: _ => true
  | .literal, ts => startsWithLiteral ts
  | .stringLiteral, .leaf (.literal s) _ :: _ => isStringLiteral s
  | .parens, .group .paren _ _ _ :: _ => true
  | .brackets, .group .bracket _ _ _ :: _ => true
  | .braces, .group .brace _ _ _ :: _ => true
  | _, _ => false

namespace Cursor

def ofTokens (ts : Tokens) (scope : Span) : Cursor := ⟨ts, scope, none, none⟩

/-- Whether the tokens behind the first `skip` ones begin with what is wanted. -/
def shows (c : Cursor) (w : Wanted) (skip : Nat := 0) : Bool := w.startsAt (c.rest.drop skip)

def showsWord (c : Cursor) (skip : Nat := 0) : Bool :=
  match c.rest.drop skip with
  | .leaf (.word _) _ :: _ => true
  | _ => false

/-- Where a complaint about the next token points. -/
def here (c : Cursor) : Span :=
  match c.rest with
  | [] => c.scope
  | t :: _ => t.headSpan

/-- A complaint about what the cursor shows. One that says nothing but that the next token tree is
wrong is about the whole of it. -/
def complain (c : Cursor) (what : Complaint) : ParseError :=
  match what, c.rest with
  | .wanted [], t :: _ => ⟨what, t.wholeSpan, false⟩
  | _, _ => ⟨what, c.here, c.rest.isEmpty⟩

end Cursor

/-! ## Parsers -/

/-- Reads something from the cursor and moves it. -/
abbrev Parser := StateT Cursor (Except ParseError)

namespace Parser

variable {α β σ : Type}

/-- Fails with a complaint about the place of the cursor. -/
def complain (what : Complaint) : Parser α := fun c => .error (c.complain what)

/-- Fails with a complaint about a given place. -/
def complainAt (span : Span) (what : Complaint) : Parser α := fun _ => .error ⟨what, span, false⟩

/-- Fails because the cursor shows none of the options; one that it does show is left out. -/
def wantOneOf (options : List Wanted) : Parser α := fun c =>
  .error (c.complain (.wanted (options.filter fun w => !c.shows w)))

/-- Whether the cursor shows what is wanted, behind the first `skip` tokens. -/
def shows (w : Wanted) (skip : Nat := 0) : Parser Bool := return (← get).shows w skip

def atEnd : Parser Bool := return (← get).rest.isEmpty

def here : Parser Span := return (← get).here

/-- What `p` answers, without moving the cursor; `none` if it fails. -/
def ahead (p : Parser α) : Parser (Option (α × Cursor)) := fun c =>
  match p.run c with
  | .ok (a, c') => .ok (some (a, c'), c)
  | .error _ => .ok (none, c)

def word (s : String) : Parser Tree := fun c =>
  match c.rest with
  | .leaf (.word i) _ :: ts =>
      if i.isWritten s then .ok (.word i, { c with rest := ts })
      else .error (c.complain (.wanted [.word s]))
  | _ => .error (c.complain (.wanted [.word s]))

/-- Reads the operator `s`, which can be the beginning of a longer one. At the end of the tokens
the complaint is the same as in front of any other token. -/
def op (s : String) : Parser Tree := fun c =>
  if startsWithOp s.toList c.rest then .ok (.op s, { c with rest := c.rest.drop s.length })
  else .error ⟨.wanted [.op s], c.here, false⟩

def word? (s : String) : Parser Tree := do
  if ← shows (.word s) then word s else return Tree.absent

def op? (s : String) : Parser Tree := do
  if ← shows (.op s) then op s else return Tree.absent

def anyWord : Parser (Ident × Span) := fun c =>
  match c.rest with
  | .leaf (.word i) s :: ts => .ok ((i, s), { c with rest := ts })
  | _ => .error (c.complain .noWord)

def identAt : Parser (Ident × Span) := fun c =>
  match c.rest with
  | .leaf (.word i) s :: ts =>
      if i.isFree then .ok ((i, s), { c with rest := ts })
      else .error (c.complain (.keywordAsIdentifier i.text))
  | _ => .error (c.complain (.wanted [.identifier]))

def ident : Parser Ident := return (← identAt).1

def identTree : Parser Tree := return .word (← ident)

def lifetime : Parser Tree := fun c =>
  match c.rest with
  | .leaf (.lifetime name) _ :: ts => .ok (.lifetime name, { c with rest := ts })
  | _ => .error (c.complain (.wanted [.lifetime]))

def literal : Parser Tree := fun c =>
  match c.rest with
  | .leaf (.literal s) _ :: ts => .ok (.literal s, { c with rest := ts })
  | .leaf (.word i) _ :: ts =>
      if i.isWritten "true" || i.isWritten "false" then .ok (.word i, { c with rest := ts })
      else .error (c.complain (.wanted [.literal]))
  | .leaf (.punct '-' _) _ :: .leaf (.literal s) _ :: ts =>
      if s.toList.head?.any Char.isDigit then
        .ok (.node .negative [.op "-", .literal s], { c with rest := ts })
      else .error (c.complain (.wanted [.literal]))
  | _ => .error (c.complain (.wanted [.literal]))

def wantedGroup : Delimiter → Wanted
  | .paren => .parens
  | .bracket => .brackets
  | .brace => .braces

/-- Reads a group with `p`. A token that `p` leaves over is remembered. -/
def inGroup (d : Delimiter) (p : Parser α) : Parser α := fun c =>
  match c.rest with
  | .group e body _ closing :: ts =>
      if d = e then
        match p.run ⟨body, closing, some d, none⟩ with
        | .error e => .error e
        | .ok (a, c') =>
            let leftOver := c'.rest.head?.map fun t => (t.wholeSpan, some d)
            .ok (a, { c with rest := ts, stray := c.stray <|> c'.stray <|> leftOver })
      else .error (c.complain (.wanted [wantedGroup d]))
  | _ => .error (c.complain (.wanted [wantedGroup d]))

def rawGroup : Parser (Delimiter × Tokens × Span) := fun c =>
  match c.rest with
  | .group d body _ closing :: ts => .ok ((d, body, closing), { c with rest := ts })
  | _ => .error (c.complain .noDelimiter)

/-- All tokens of the group that are not read yet. -/
def remaining : Parser Tokens := fun c => .ok (c.rest, { c with rest := [] })

/-- The tokens between an earlier cursor of the same group and the present one. -/
def tokensSince (start : Cursor) : Parser Tokens := fun c =>
  .ok (start.rest.take (start.rest.length - c.rest.length), c)

/-- The stretch from the place of an earlier cursor of the same group to the end of the last token
tree in front of the present one that `last` holds of. -/
def stretchTo (start : Cursor) (last : TokenTree → Bool) : Parser Span := do
  let read := (← tokensSince start).filter last
  return (read.getLast?.map fun t => start.here.join t.span).getD start.here

/-- The stretch of what is read since an earlier cursor of the same group. -/
def stretchSince (start : Cursor) : Parser Span := stretchTo start fun _ => true

/-! ### Repetition -/

/-- Goes on with `step` until it answers a result, at most `fuel` times. -/
def iterate (fuel : Nat) (step : σ → Parser (σ ⊕ β)) (s : σ) : Parser β :=
  match fuel with
  | 0 => complain (.wanted [])
  | fuel + 1 => do
      match ← step s with
      | .inl s' => iterate fuel step s'
      | .inr b => return b

/-- Goes on with `step`, which reads a token whenever it answers no result. -/
def loop (step : σ → Parser (σ ⊕ β)) (s : σ) : Parser β := fun c =>
  iterate (c.rest.length + 1) step s c

/-- Reads `p` as long as `more` holds. -/
def manyWhile (more : Parser Bool) (p : Parser α) : Parser (List α) := do
  let found ← loop (fun (found : List α) => do
    if ← more then return .inl ((← p) :: found) else return .inr found) []
  return found.reverse

def manyToEnd (p : Parser α) : Parser (List α) := manyWhile (return !(← atEnd)) p

/-- Reads `p` and the separator in turn, until `stop` holds in front of either. Separators are kept
as parts. -/
def separatedUntil (stop : Parser Bool) (separator : String) (p : Parser Tree) :
    Parser (List Tree) := do
  let found ← loop (fun (found : List Tree) => do
    if ← stop then return .inr found
    let t ← p
    if ← stop then return .inr (t :: found)
    let s ← op separator
    return .inl (s :: t :: found)) []
  return found.reverse

/-- Reads `p` and commas in turn, up to the end of the group. -/
def commaSeparated (p : Parser Tree) : Parser (List Tree) := separatedUntil atEnd "," p

/-- Reads a list as `commaSeparated` does, without keeping the commas. The second answer says
whether one stands behind the last element. -/
def commaListing (p : Parser α) : Parser (List α × Bool) := do
  let (found, trailing) ← loop (fun (found : List α) => do
    if ← atEnd then return .inr (found, !found.isEmpty)
    let a ← p
    if ← atEnd then return .inr (a :: found, false)
    let _ ← op ","
    return .inl (a :: found)) []
  return (found.reverse, trailing)

def commaList (p : Parser α) : Parser (List α) := return (← commaListing p).1

/-- Reads `p` and the separator in turn: the list ends in front of a separator that is missing, and
behind one if `stop` holds there. -/
def separatedWhile (stop : Parser Bool) (separator : String) (p : Parser Tree) :
    Parser (List Tree) := do
  let found ← loop (fun (found : List Tree) => do
    if ← stop then return .inr found
    let t ← p
    if ← shows (.op separator) then
      let s ← op separator
      return .inl (s :: t :: found)
    else return .inr (t :: found)) []
  return found.reverse

/-! ### Running -/

/-- What `p` reads from all of the tokens. `scope` is where their end is complained about. -/
def runAll (p : Parser α) (ts : Tokens) (scope : Span) : Except ParseError α :=
  match p.run (Cursor.ofTokens ts scope) with
  | .error e => .error e
  | .ok (a, c) =>
      match c.stray, c.rest with
      | some (span, d), _ => .error ⟨.leftOver d, span, false⟩
      | none, t :: _ => .error ⟨.leftOver none, t.wholeSpan, false⟩
      | none, [] => .ok a

end Parser

end BuilderForge.Code
