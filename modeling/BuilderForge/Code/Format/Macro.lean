import BuilderForge.Code.Format.Basic

set_option autoImplicit false

/-! # Formatting macros

What a macro is given, and the rules of its declaration, are tokens without a grammar. Blanks stand
between them by what the last token was (`MacroState`); a line can end at every blank and in front
of every point. -/

namespace BuilderForge.Code.Format

open Layout

/-! ## Tokens -/

/-- What the last token was, as far as it matters for a blank in front of the next one. Behind a
dollar stand the names and the repeated parts of a rule. -/
inductive MacroState where
  | start
  | dollar
  | dollarCrate
  | dollarIdent
  | dollarIdentColon
  | dollarParen
  | dollarParenSeparator
  | pound
  | poundBang
  | dot
  | colon
  | colons
  | ident
  | identBang
  | delimiter
  | other
  deriving DecidableEq

/-- The words behind which a group of tokens is no list of arguments. -/
def macroKeywords : List String :=
  ["as", "async", "await", "box", "break", "const", "continue", "crate", "dyn", "else", "enum",
    "extern", "fn", "for", "if", "impl", "in", "let", "loop", "macro", "match", "mod", "move",
    "mut", "pub", "ref", "return", "static", "struct", "trait", "type", "unsafe", "use", "where",
    "while", "yield"]

/-- Whether a blank stands in front of a token, and what the token is to the next one. `matcher`
says whether the tokens are what a rule matches rather than what it stands for. -/
def macroStep (matcher : Bool) (state : MacroState) (t : TokenTree) : Bool × MacroState :=
  match state, t with
  | .dollarIdent, .leaf (.punct ':' false) _ => (false, .dollarIdentColon)
  | .dollarIdentColon, .leaf (.word _) _ => (false, .other)
  | .dollarParen, .leaf (.punct '+' false) _ => (false, .other)
  | .dollarParen, .leaf (.punct '*' false) _ => (false, .other)
  | .dollarParen, .leaf (.punct '?' false) _ => (false, .other)
  | .dollarParen, .leaf (.word _) _ => (false, .dollarParenSeparator)
  | .dollarParen, .leaf (.literal _) _ => (false, .dollarParenSeparator)
  | .dollarParen, .leaf (.punct _ true) _ => (false, .dollarParen)
  | .dollarParen, .leaf (.punct _ false) _ => (false, .dollarParenSeparator)
  | .dollarParenSeparator, .leaf (.punct '+' _) _ => (false, .other)
  | .dollarParenSeparator, .leaf (.punct '*' _) _ => (false, .other)
  | .pound, .leaf (.punct '!' _) _ => (false, .poundBang)
  | .dollar, .group .paren _ _ _ => (false, .dollarParen)
  | .pound, .group .bracket _ _ _ => (false, .other)
  | .poundBang, .group .bracket _ _ _ => (false, .other)
  | .ident, .group .paren _ _ _ => (false, .delimiter)
  | .ident, .group .bracket _ _ _ => (false, .delimiter)
  | .ident, .leaf (.punct '!' false) _ => (false, .identBang)
  | .identBang, .group .paren _ _ _ => (false, .other)
  | .identBang, .group .bracket _ _ _ => (false, .other)
  | .colon, .leaf (.punct ':' _) _ => (false, .colons)
  | _, .group .brace _ _ _ => (true, .other)
  | _, .group _ _ _ _ => (true, .delimiter)
  | s, .leaf (.word i) _ =>
      if s = .dollar && matcher then (false, .dollarIdent)
      else if s = .dollar then (false, if i.text == "crate" then .dollarCrate else .other)
      else if macroKeywords.contains i.text then (true, .other)
      else (s ≠ .dot && s ≠ .colons, .ident)
  | s, .leaf (.literal text) _ => (s ≠ .dot, if text.endsWith "." then .other else .ident)
  | _, .leaf (.punct ',' _) _ => (false, .other)
  | _, .leaf (.punct ';' _) _ => (false, .other)
  | s, .leaf (.punct c joint) _ =>
      if c == '.' && !matcher then (s ≠ .ident && s ≠ .delimiter, .dot)
      else if c == ':' && joint then (s ≠ .ident && s ≠ .dollarCrate, .colon)
      else if c == '$' then (true, .dollar)
      else if c == '#' then (true, .pound)
      else (true, .other)
  | _, .leaf (.lifetime _) _ => (true, .ident)

/-- Whether the next token follows a token without a blank whatever it is: the token begins an
operator of several characters, or is a dollar. -/
def joinsNext : TokenTree → Bool
  | .leaf (.punct c joint) _ => joint || c == '$'
  | _ => false

/-- What stands between two tokens: `joined` says whether nothing does. -/
def macroGap (joined blank : Bool) (t : TokenTree) : List Doc :=
  if joined then []
  else if blank then spaceBreak
  else
    match t with
    | .leaf (.punct '.' _) _ => zeroBreak
    | _ => []

def lifetimeParts (name : String) (span : Span) : TokenTree × TokenTree :=
  (.leaf (.punct '\'' true) span, .leaf (.word ⟨name, false⟩) span)

mutual

/-- The tokens of a macro behind a token that leaves the state. -/
def macroTokens (matcher joined : Bool) (state : MacroState) : Tokens → List Doc
  | [] => []
  | .leaf (.lifetime name) span :: ts =>
      let (mark, i) := lifetimeParts name span
      let (blank, between) := macroStep matcher state mark
      let (_, next) := macroStep matcher between i
      macroGap joined blank mark ++ word ("'" ++ name) ++ macroTokens matcher false next ts
  | t :: ts =>
      let (blank, next) := macroStep matcher state t
      macroGap joined blank t ++ macroToken matcher t ++ macroTokens matcher (joinsNext t) next ts

def macroToken (matcher : Bool) : TokenTree → List Doc
  | .leaf t _ => word t.text
  | .group d body _ _ =>
      let gap := if d = .brace && !body.isEmpty then spaceBreak else []
      word (String.singleton d.opening) ++ gap ++ macroTokens matcher true .start body ++ gap
        ++ word (String.singleton d.closing)

end

def macroBody (matcher : Bool) (gap : List Doc) (tokens : Tokens) : List Doc :=
  if tokens.isEmpty then []
  else indented (gap ++ ibox 0 (macroTokens matcher true .start tokens) ++ gap)

/-! ## Declarations -/

def macroMatcher (d : Delimiter) (pattern : Tokens) : List Doc :=
  word (String.singleton d.opening) ++ macroBody true zeroBreak pattern
    ++ word (String.singleton d.closing)

/-- The rules of a macro, each on lines of its own. A rule is what it matches, an arrow and what it
stands for; a semicolon follows each. The last one can be cut short. -/
def macroRules : Tokens → List Doc
  | .group d pattern _ _ :: .leaf (.punct '=' _) _ :: .leaf (.punct '>' _) _ ::
      .group _ body _ _ :: rest =>
      let rule := macroMatcher d pattern ++ word " => \x7b" ++ neverBreak
        ++ macroBody false hardBreak body ++ word "\x7d;" ++ hardBreak
      match rest with
      | .leaf (.punct ';' _) _ :: rest => rule ++ macroRules rest
      | _ => rule
  | [.group d pattern _ _, .leaf (.punct '=' _) _, .leaf (.punct '>' _) _] =>
      macroMatcher d pattern ++ word " =>" ++ hardBreak
  | [.group d pattern _ _, .leaf (.punct '=' _) _] =>
      macroMatcher d pattern ++ word " =" ++ hardBreak
  | [.group d pattern _ _] => macroMatcher d pattern ++ hardBreak
  | _ => []

def macroDeclaration (name : Tree) (rules : Tokens) : List Doc :=
  word ("macro_rules! " ++ plain name ++ " \x7b")
    ++ indented (hardBreakIfNonempty ++ macroRules rules) ++ word "\x7d"

/-! ## Calls -/

def isNamed (s : String) : Tree → Bool
  | .path _ leading segments => (Path.mk leading segments).isName s
  | _ => false

/-- A call of a macro; `name` is what stands between the exclamation mark and the arguments. -/
def macroCall (path : Tree) (name : Tree) (d : Delimiter) (tokens : Tokens) (semicolon : Bool) :
    List Doc :=
  if isNamed "macro_rules" path && !name.isAbsent then macroDeclaration name tokens
  else
    simplePath path ++ word "!" ++ (if name.isAbsent then [] else word (" " ++ plain name))
      ++ word (if d = .brace then " \x7b" else String.singleton d.opening)
      ++ macroBody false (if d = .brace then hardBreak else zeroBreak) tokens
      ++ word (String.singleton d.closing ++ if semicolon then ";" else "")

end BuilderForge.Code.Format
