import BuilderForge.Code.Tree
import BuilderForge.Text.Quoted
import BuilderForge.Text.Word

set_option autoImplicit false

/-! # Writing code

Code that this library writes is put together from pieces of text. In a text for `spell` the tokens
stand with blanks between them, so that `:: std :: rc` is six tokens. -/

namespace BuilderForge.Code

/-- The stretches of a text between blanks. -/
def stretches : List Char → List (List Char)
  | [] => []
  | ' ' :: rest => stretches rest
  | c :: rest =>
      match rest, stretches rest with
      | d :: _, s :: ss => if d = ' ' then [c] :: s :: ss else (c :: s) :: ss
      | _, ss => [c] :: ss

namespace Tokens

def word (name : String) : Tokens := [.leaf (.word ⟨name, false⟩) Span.nowhere]

def ident (i : Ident) : Tokens := [.leaf (.word i) Span.nowhere]

def op (s : String) : Tokens := Tree.opTokens s.toList

/-- A text as a literal between quotes. -/
def text (s : String) : Tokens := [.leaf (.literal (Text.quoteCode s)) Span.nowhere]

/-- The tokens that are written in a text with blanks between them: words and operators. -/
def spell (s : String) : Tokens :=
  (stretches s.toList).flatMap fun cs =>
    match cs with
    | [] => []
    | c :: _ => if Text.isWordStart c then word (String.ofList cs) else Tree.opTokens cs

def parens (body : Tokens) : Tokens := [.group .paren body Span.nowhere Span.nowhere]

def brackets (body : Tokens) : Tokens := [.group .bracket body Span.nowhere Span.nowhere]

def braces (body : Tokens) : Tokens := [.group .brace body Span.nowhere Span.nowhere]

/-- An attribute in front of an item. -/
def attributeOf (content : Tokens) : Tokens := op "#" ++ brackets content

/-- An attribute that documents what follows with a text. -/
def documented (s : String) : Tokens := attributeOf (word "doc" ++ op "=" ++ text s)

/-- Attributes that document what follows with lines as they stand in a comment. -/
def documentedLines (lines : List String) : Tokens :=
  lines.flatMap fun line => attributeOf (word "doc" ++ op "="
    ++ [.leaf (.literal ("r\"" ++ line ++ "\"")) Span.nowhere])

end Tokens

end BuilderForge.Code
