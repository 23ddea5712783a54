import BuilderForge.CommandLine.Arguments

set_option autoImplicit false

/-! # Colours

A piece of output is painted in the colour of its role: control characters before it choose the
colour, others after it go back to the colour of the terminal. Without colours, both go back. -/

namespace BuilderForge.CommandLine

/-- The background that colours are chosen for. -/
inductive Theme where
  | dark
  | light
  deriving DecidableEq, Repr

inductive Role where
  | timestamp
  | primary
  | label
  | value
  | success
  | error
  | warning
  | note
  deriving DecidableEq, Repr

/-- A colour, as its red, green and blue. -/
structure Rgb where
  red : Nat
  green : Nat
  blue : Nat
  deriving DecidableEq, Repr

def Theme.color : Theme → Role → Rgb
  | .dark, .timestamp => ⟨118, 166, 166⟩
  | .dark, .primary => ⟨191, 126, 4⟩
  | .dark, .label => ⟨217, 164, 4⟩
  | .dark, .value => ⟨242, 211, 56⟩
  | .dark, .success => ⟨118, 196, 140⟩
  | .dark, .error => ⟨230, 96, 80⟩
  | .dark, .warning => ⟨242, 211, 56⟩
  | .dark, .note => ⟨118, 166, 166⟩
  | .light, .timestamp => ⟨92, 62, 38⟩
  | .light, .primary => ⟨70, 42, 25⟩
  | .light, .label => ⟨176, 103, 66⟩
  | .light, .value => ⟨199, 146, 76⟩
  | .light, .success => ⟨34, 142, 90⟩
  | .light, .error => ⟨180, 40, 30⟩
  | .light, .warning => ⟨160, 110, 0⟩
  | .light, .note => ⟨40, 111, 170⟩

/-- How output is painted: in the colours of a theme, or in none. -/
structure Palette where
  theme : Option Theme
  deriving DecidableEq, Repr

namespace Palette

/-- The control characters that set what the codes say. -/
def control (codes : String) : String := "\x1b[" ++ codes ++ "m"

/-- The code of the terminal's own colour. -/
def plainCode : String := "39"

/-- The code of the colour of a role. -/
def code (p : Palette) (role : Role) : String :=
  match p.theme with
  | none => plainCode
  | some theme =>
      let c := theme.color role
      ";".intercalate ["38", "2", toString c.red, toString c.green, toString c.blue]

def paint (p : Palette) (role : Role) (text : String) : String :=
  control (p.code role) ++ text ++ control plainCode

end Palette

/-! ## The terminal -/

/-- What is known of the terminal: whether output goes to one, its columns, and the value of the
variable for its colours. -/
structure Terminal where
  isTerminal : Bool := false
  columns : Nat := 80
  colorVariable : Option String := none

/-- The number of an eight-bit colour. -/
def colorNumber? (text : String) : Option Nat :=
  let digits := match text.toList with
    | '+' :: rest => rest
    | digits => digits
  if digits.isEmpty || digits.any (fun c => !c.isDigit) then none
  else
    let n := digits.foldl (fun n c => 10 * n + (c.toNat - '0'.toNat)) 0
    if n < 256 then some n else none

namespace Terminal

/-- What is behind the last semicolon of a text. -/
def lastPiece (text : String) : String :=
  String.ofList (text.toList.reverse.takeWhile (· != ';')).reverse

/-- The theme for the background that the variable tells of: numbers from 8 on are light colours. -/
def background (t : Terminal) : Theme :=
  match t.colorVariable.bind fun text => colorNumber? (lastPiece text) with
  | some n => if n ≥ 8 then .light else .dark
  | none => .dark

def palette (t : Terminal) (color : ColorMode) (theme : ThemeMode) : Palette where
  theme :=
    let theme := match theme with
      | .dark => Theme.dark
      | .light => .light
      | .auto => t.background
    match color with
    | .always => some theme
    | .never => none
    | .auto => if t.isTerminal then some theme else none

end Terminal

end BuilderForge.CommandLine
