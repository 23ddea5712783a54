import BuilderForge.Code.Parser.Item

set_option autoImplicit false

/-! # Parsing texts

The grammar as a whole, and what can be read from a text with it: a source file, a single
declaration, a type, a path or an identifier. Productions call each other only with fewer tokens to
read, up to a few steps in between. So a fixed depth is enough for every text that fits into memory,
and what is read does not depend on how long the code around it is. -/

namespace BuilderForge.Code

/-- The grammar with productions that call each other at most `depth` times in a row. -/
def Grammar.ofDepth : Nat → Grammar
  | 0 =>
      let stop {α : Type} : Parser α := Parser.complain (.wanted [])
      ⟨fun _ => stop, fun _ => stop, fun _ => stop, fun _ => stop, stop, stop, stop, stop,
        fun _ => stop⟩
  | depth + 1 =>
      { type := fun plus c => Parser.typeOf (ofDepth depth) plus c
        bound := fun rules c => Parser.boundOf (ofDepth depth) rules c
        expr := fun braces c => Parser.exprOf (ofDepth depth) braces c
        operand := fun braces c => Parser.operandOf (ofDepth depth) braces c
        leading := fun c => Parser.leadingExpr (ofDepth depth) c
        pattern := fun c => Parser.singlePattern (ofDepth depth) c
        statements := fun c => Parser.statementsOf (ofDepth depth) c
        item := fun c => Parser.itemOf (ofDepth depth) c
        useTree := fun root c => Parser.useTreeOf (ofDepth depth) root c }

/-- A grammar deep enough for all tokens that fit into memory. -/
def Grammar.whole : Grammar := ofDepth (Nat.pow 2 60)

/-- What `p` reads from all of the tokens, which stand in no group. -/
def Tokens.parse {α : Type} (p : Grammar → Parser α) (ts : Tokens) : Except ParseError α :=
  (p Grammar.whole).runAll ts Span.nowhere

/-- What `p` reads from all of a text. -/
def parseText {α : Type} (p : Grammar → Parser α) (text : String) : Except ParseError α :=
  match tokenize text with
  | .error place => .error ⟨.unreadable, ⟨place, place⟩, false⟩
  | .ok ts => ts.parse p

def Tree.parseType (text : String) : Except ParseError Tree := parseText (fun g => g.type true) text

def Path.parse (text : String) : Except ParseError Path :=
  parseText (fun g => Parser.path g false) text

def Ident.parse (text : String) : Except ParseError Ident := parseText (fun _ => Parser.ident) text

namespace Parser

/-- Reads a struct, an enum or a union. -/
def declaration (g : Grammar) : Parser Item := do
  let attrs ← outerAttributes g
  let vis ← visibility
  if ← shows (.word "struct") then structItem g attrs vis
  else if ← shows (.word "enum") then enumItem g attrs vis
  else if ← shows (.word "union") then unionItem g attrs vis
  else wantOneOf [.word "struct", .word "enum", .word "union"]

def fileContent (g : Grammar) : Parser File := do
  let (attrs, items) ← moduleContent g (itemOf g)
  return ⟨attrs, items⟩

end Parser

def Item.parseDeclaration (text : String) : Except ParseError Item :=
  parseText Parser.declaration text

/-- A text without the line at its beginning that names an interpreter. What begins like one can
also be an attribute. -/
def withoutInterpreter (text : List Char) : List Char :=
  match text with
  | '#' :: '!' :: rest =>
      match Lexer.skipGaps rest with
      | '[' :: _ => text
      | _ => text.dropWhile (· != '\n')
  | _ => text

namespace File

def ofTokens (ts : Tokens) : Except ParseError File := ts.parse Parser.fileContent

/-- Reads the text of a source file. A byte order mark and a line that names an interpreter can
stand in front of its code. -/
def parse (text : String) : Except ParseError File :=
  let chars := match text.toList with
    | '\ufeff' :: rest => rest
    | all => all
  parseText Parser.fileContent (String.ofList (withoutInterpreter chars))

end File

/-- An error with the place it is about, its column counted from one. -/
def ParseError.located (e : ParseError) : String :=
  e.message ++ " at line " ++ toString e.span.start.line ++ ", column "
    ++ toString (e.span.start.column + 1)

end BuilderForge.Code
