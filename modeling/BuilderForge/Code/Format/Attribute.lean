import BuilderForge.Code.Format.Macro
import BuilderForge.Code.StringLiteral

set_option autoImplicit false

/-! # Formatting attributes

An attribute is followed by a blank or a line end. One that holds documentation or a comment as a
text is written as the comment it stands for, if the text can be one. -/

namespace BuilderForge.Code.Format

open Layout

/-! ## Arguments -/

/-- What the last token was, as far as it matters for a blank in front of the next one. -/
inductive AttributeState where
  | word
  | punct
  | trailingComma
  deriving DecidableEq

/-- A blank that ends a line only inside of a group. -/
def attributeSpace (inside : Bool) : List Doc := if inside then spaceBreak else word " "

mutual

/-- The tokens behind the path of an attribute; second, what the last of them was. -/
def attributeTokens (inside : Bool) (state : AttributeState) :
    Tokens → List Doc × AttributeState
  | [] => ([], state)
  | t :: ts =>
      let (d, state) := attributeToken inside state ts.isEmpty t
      let (ds, state) := attributeTokens inside state ts
      (d ++ ds, state)

def attributeToken (inside : Bool) (state : AttributeState) (isLast : Bool) :
    TokenTree → List Doc × AttributeState
  | .leaf (.punct c _) _ =>
      let front := if state = .word && c == '=' then word " " else []
      if c == ',' && isLast then (front ++ trailingComma true, .trailingComma)
      else
        let back := if c == '=' then word " "
          else if c == ',' then attributeSpace inside else []
        (front ++ word (String.singleton c) ++ back, .punct)
  | .leaf (.lifetime name) _ => (word ("'" ++ name), .word)
  | .leaf t _ =>
      ((if state = .word then attributeSpace inside else []) ++ word t.text, .word)
  | .group d body _ _ =>
      let (inner, last) := attributeTokens true .punct body
      match d with
      | .paren =>
          let stop := if last = .trailingComma then [] else zeroBreak
          (word "(" ++ indented (zeroBreak ++ inner ++ stop) ++ word ")", .punct)
      | _ =>
          (word (String.singleton d.opening) ++ inner ++ word (String.singleton d.closing), .punct)

end

/-! ## Comments -/

/-- A text without the blanks at its end. -/
def withoutBlanksAtEnd (s : String) : String :=
  String.ofList ((s.toList.reverse.dropWhile (· == ' ')).reverse)

/-- A text without the blanks at the ends of its lines but the last. -/
def withoutBlanksInside (s : String) : String :=
  let lines := s.splitOn "\n"
  "\n".intercalate ((lines.dropLast.map withoutBlanksAtEnd) ++ lines.getLast?.toList)

/-- Whether the block comments in a text, with `depth` open ones in front of it, are all closed and
none is closed that was not opened. -/
def closesComments : Nat → List Char → Bool
  | depth, '/' :: '*' :: r => closesComments (depth + 1) r
  | 0, '*' :: '/' :: _ => false
  | depth + 1, '*' :: '/' :: r => closesComments depth r
  | depth, _ :: r => closesComments depth r
  | depth, [] => depth == 0

def fitsBlockComment (text : List Char) : Bool :=
  closesComments 0 text && text.getLast? != some '/'

/-- A comment up to the end of the line, behind its mark. -/
def lineComment (mark text : String) : List Doc :=
  word mark ++ word (withoutBlanksAtEnd text) ++ hardBreak

def blockComment (mark text : String) : List Doc :=
  word mark ++ word (withoutBlanksInside text) ++ word "*/" ++ hardBreak

/-- The text of a documentation attribute as a comment, if it can be one. -/
def docComment? (inner : Bool) (text : String) : Option (List Doc) :=
  let first := text.toList.head?
  if !text.toList.contains '\n' && (inner || first != some '/') then
    some (lineComment (if inner then "//!" else "///") text)
  else if fitsBlockComment text.toList && (inner || (first != some '*' && first != some '/')) then
    some (blockComment (if inner then "/*!" else "/**") text)
  else none

/-- The text of a comment attribute as a comment, if it can be one. -/
def plainComment? (text : String) : Option (List Doc) :=
  let first := text.toList.head?
  if !text.toList.contains '\n' then some (lineComment "//" text)
  else if fitsBlockComment text.toList && first != some '*' && first != some '!' then
    some (blockComment "/*" text)
  else none

/-! ## Attributes -/

def comment? (inner : Bool) (path : Tree) (args : List Tree) : Option (List Doc) :=
  match args with
  | [_, .literal s] =>
      (StringLiteral.text? s).bind fun text =>
        if isNamed "doc" path then docComment? inner text
        else if isNamed "comment" path then plainComment? text
        else none
  | _ => none

def attributeLine (f : Formatter) : Tree → List Doc
  | .node .attributeEntry [_, bang, .group .bracket (path :: args)] =>
      let inner := !bang.isAbsent
      match comment? inner path args with
      | some comment => comment
      | none =>
          let args := match args with
            | [.group d [.raw ts]] =>
                (attributeToken false .punct true
                  (.group d ts Span.nowhere Span.nowhere)).1
            | [_, value] => word " = " ++ f.expr false value
            | _ => []
          word (if inner then "#![" else "#[") ++ simplePath path ++ args ++ word "]" ++ spaceBreak
  | _ => []

def attributes (f : Formatter) (t : Tree) : List Doc := (partsOf t).flatMap (attributeLine f)

end BuilderForge.Code.Format
