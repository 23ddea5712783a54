set_option autoImplicit false

/-! # The number an integer literal stands for

A literal of a whole number is a row of digits in base ten, or in base sixteen, eight or two behind
`0x`, `0o` or `0b`. Underscores can stand between digits, and a suffix behind them. A number with a
point or an exponent is none. -/

namespace BuilderForge.Code.IntegerLiteral

def digit? (base : Nat) (c : Char) : Option Nat :=
  if c.isDigit then some (c.toNat - '0'.toNat)
  else if 10 < base && 'a' ≤ c && c ≤ 'f' then some (c.toNat - 'a'.toNat + 10)
  else if 10 < base && 'A' ≤ c && c ≤ 'F' then some (c.toNat - 'A'.toNat + 10)
  else none

/-- Whether the characters behind an `e` are an exponent rather than the rest of a suffix. -/
def isExponent (cs : List Char) : Bool :=
  match cs.dropWhile (· == '_') with
  | c :: _ => c.isDigit || c == '+' || c == '-'
  | [] => false

/-- The number that the digits at the beginning of a text stand for, and the suffix behind them;
`value` is the number so far. -/
def readDigits (base : Nat) (value : Option Nat) : List Char → Option (Nat × String)
  | [] => value.map (·, "")
  | c :: r =>
      match digit? base c with
      | some d => if d < base then readDigits base (some (base * value.getD 0 + d)) r else none
      | none =>
          if c == '_' then readDigits base value r
          else if base == 10 && (c == '.' || ((c == 'e' || c == 'E') && isExponent r)) then none
          else value.map (·, String.ofList (c :: r))

/-- The number that a literal stands for, and its suffix. -/
def read? (literal : String) : Option (Nat × String) :=
  match literal.toList with
  | '0' :: 'x' :: r => readDigits 16 none r
  | '0' :: 'o' :: r => readDigits 8 none r
  | '0' :: 'b' :: r => readDigits 2 none r
  | c :: r => if c.isDigit then readDigits 10 none (c :: r) else none
  | [] => none

end BuilderForge.Code.IntegerLiteral
