import BuilderForge.Text.Blank

set_option autoImplicit false

/-! # The text a string literal stands for

A plain literal stands between double quotes, with escapes in it; a raw one stands between `r`, any
number of `#` and a quote, and the same number of `#` behind the closing quote. A suffix is not part
of the text. -/

namespace BuilderForge.Code.StringLiteral

def hexValue? (c : Char) : Option Nat :=
  if '0' ≤ c ∧ c ≤ '9' then some (c.toNat - '0'.toNat)
  else if 'a' ≤ c ∧ c ≤ 'f' then some (c.toNat - 'a'.toNat + 10)
  else if 'A' ≤ c ∧ c ≤ 'F' then some (c.toNat - 'A'.toNat + 10)
  else none

/-- The number that hexadecimal digits stand for; underscores between them count for nothing. -/
def hexNumber (cs : List Char) : Nat :=
  cs.foldl (fun n c => match hexValue? c with
    | some d => 16 * n + d
    | none => n) 0

/-- The text of a plain literal from behind its opening quote on. `skipping` says that a line of the
literal was joined to the next one, whose blanks at the beginning do not count. -/
def plain (skipping : Bool) : List Char → List Char
  | [] => []
  | '"' :: _ => []
  | '\\' :: 'n' :: r => '\n' :: plain false r
  | '\\' :: 'r' :: r => '\r' :: plain false r
  | '\\' :: 't' :: r => '\t' :: plain false r
  | '\\' :: '0' :: r => Char.ofNat 0 :: plain false r
  | '\\' :: 'x' :: a :: b :: r => Char.ofNat (hexNumber [a, b]) :: plain false r
  | '\\' :: 'u' :: '\x7b' :: r => code [] r
  | '\\' :: '\n' :: r => plain true r
  | '\\' :: '\r' :: '\n' :: r => plain true r
  | '\\' :: c :: r => c :: plain false r
  | '\r' :: '\n' :: r => if skipping then plain true r else '\n' :: plain false r
  | c :: r => if skipping && Text.isBlank c then plain true r else c :: plain false r
where
  /-- The text from within the braces of a code point on, whose digits so far are given. -/
  code (digits : List Char) : List Char → List Char
    | [] => []
    | '\x7d' :: r => Char.ofNat (hexNumber digits.reverse) :: plain false r
    | d :: r => code (d :: digits) r

/-- The text of a raw literal from behind its opening quote on, which `hashes` many `#` and a quote
end. -/
def raw (hashes : Nat) : List Char → List Char
  | [] => []
  | '"' :: r => if (r.take hashes) == List.replicate hashes '#' then [] else '"' :: raw hashes r
  | c :: r => c :: raw hashes r

/-- The text that a string literal stands for; there is none for any other literal. -/
def text? (literal : String) : Option String :=
  match literal.toList with
  | '"' :: r => some (String.ofList (plain false r))
  | 'r' :: r =>
      let hashes := (r.takeWhile (· == '#')).length
      match r.drop hashes with
      | '"' :: body => some (String.ofList (raw hashes body))
      | _ => none
  | _ => none

end BuilderForge.Code.StringLiteral
