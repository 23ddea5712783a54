import BuilderForge.Text.Wrap

set_option autoImplicit false

/-! # Tables

A table has a head and rows. Its columns are as wide as what they hold, as long as all of them fit
into a line. Otherwise the ones that need less than their share of the room keep what they need, and
the others divide the rest. -/

namespace BuilderForge.Text

/-- A table. Every row has as many cells as the head. -/
structure Table where
  head : List String
  rows : List (List String)

namespace Table

/-! ## Widths -/

/-- A column: what its cells hold, and its width as soon as it is settled. -/
structure Column where
  cells : List String
  width : Option Nat := none

namespace Column

/-- The longest line of the column with lines of at most this width. Its bytes count here, and not
its columns: a column of the table that holds more than plain letters is rather left too wide. -/
def longest (c : Column) (limit : Nat) : Nat :=
  ((c.cells.flatMap (wrap limit)).map String.utf8ByteSize).foldl max 0

def natural (c : Column) : Nat :=
  ((c.cells.flatMap fun cell => splitAt '\n' cell.toList).map charsWidth).foldl max 0

end Column

/-- Room that some columns are to share. -/
structure Sharing where
  room : Nat
  columns : Nat

namespace Sharing

def share (s : Sharing) : Nat := s.room / s.columns

/-- What is left after a column of this width. -/
def after (s : Sharing) (width : Nat) : Sharing := ⟨s.room - width, s.columns - 1⟩

/-- Settles the columns that `need` tells a width of, from left to right. It is given the share that
a column could have. -/
def settle (need : Nat → Column → Option Nat) : Sharing → List Column → Sharing × List Column
  | s, [] => (s, [])
  | s, c :: cs =>
      match c.width, need s.share c with
      | none, some width =>
          let (rest, cs) := settle need (s.after width) cs
          (rest, { c with width } :: cs)
      | _, _ =>
          let (rest, cs) := settle need s cs
          (rest, c :: cs)

/-- Goes through the columns again and again: the share of a column grows with every other one that
needs less. -/
def settleAll (need : Nat → Column → Option Nat) :
    Nat → Sharing × List Column → Sharing × List Column
  | 0, p => p
  | n + 1, (s, cs) => settleAll need n (settle need s cs)

end Sharing

/-- The width of a column that fits into its share. -/
def fitting (share : Nat) (c : Column) : Option Nat :=
  if c.natural ≤ share then some c.natural else none

/-- The width of a column that leaves much of its share after its lines are broken. -/
def broken (share : Nat) (c : Column) : Option Nat :=
  let longest := c.longest (max share 1)
  if share - longest > spareRoom then some longest else none

/-- Divides the room among the columns without a width. What is left over goes to the first ones. -/
def divide (share : Nat) : Nat → List Column → List Nat
  | _, [] => []
  | excess, c :: cs =>
      match c.width with
      | some width => max width 1 :: divide share excess cs
      | none => max (if excess > 0 then share + 1 else share) 1 :: divide share (excess - 1) cs

def columns (t : Table) : List Column :=
  (List.range t.head.length).map fun i =>
    { cells := (t.head :: t.rows).map fun row => row.getD i "" }

/-- The widths of the columns in lines of `total` columns. Each has a blank on both sides, and there
is one between two of them. -/
def widths (t : Table) (total : Nat) : List Nat :=
  let n := t.head.length
  let start := (⟨total - (n - 1) - 2 * n, n⟩, t.columns)
  let (s, columns) := Sharing.settleAll broken n (Sharing.settleAll fitting n start)
  divide s.share (s.room % s.columns) columns

/-! ## Writing -/

def fill (c : Char) (n : Nat) : String := String.ofList (List.replicate n c)

/-- A line of a cell with blanks around it. -/
def padded (columns : Nat) (line : String) : String :=
  " " ++ line ++ fill ' ' (columns - Text.width line) ++ " "

def rowLines (widths : List Nat) (row : List String) : List String :=
  let cells := List.zipWith wrap widths row
  let height := (cells.map List.length).foldl max 0
  (List.range height).map fun i =>
    " ".intercalate (List.zipWith (fun w cell => padded w (cell.getD i "")) widths cells)

def render (t : Table) (total : Nat) : List String :=
  let widths := t.widths total
  let bars := widths.map fun w => fill '─' (w + 2)
  let border := " ".intercalate bars
  [border] ++ rowLines widths t.head ++ ["─".intercalate bars]
    ++ t.rows.flatMap (rowLines widths) ++ [border]

end Table

end BuilderForge.Text
