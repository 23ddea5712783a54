set_option autoImplicit false

/-! # Breaking lines

A `Doc` is a text with places where a line can end (*breaks*), grouped in boxes. A box that fits on
the rest of the line has no line ends. In a *consistent* box that does not fit every break ends a
line; in another one a break does so only if what follows it, up to the next break, does not fit.

What fits is decided by widths: a box has to fit together with what follows it up to the next break
outside of it. Widths are counted in bytes, and a hard break is one that never fits. The content of
a box that is broken stands farther to the right by the offset of the box. -/

namespace BuilderForge.Code.Layout

/-- The length of a line. -/
def margin : Int := 89

/-- The room that every line has, however far to the right it begins. -/
def minimalRoom : Int := 60

/-- The width of what never fits. -/
def endless : Nat := 0xffff

/-- A place where a line can end. -/
structure Break where
  /-- How much farther to the right the next line begins. -/
  offset : Int := 0
  /-- The blanks in place of a line end. -/
  blanks : Nat := 0
  /-- What the line ends with. -/
  closing : String := ""
  /-- What the next line begins with. -/
  opening : String := ""
  /-- What stands in place of a line end, behind the blanks. -/
  between : String := ""
  /-- The line does not end here whatever happens. -/
  never : Bool := false
  /-- At the end of a box the break counts as absent. -/
  ifNonempty : Bool := false
  deriving Repr

inductive Doc where
  | text (s : String)
  /-- Nothing, but too wide for any line. -/
  | endless
  | gap (b : Break)
  | box (offset : Int) (consistent : Bool) (body : List Doc)
  deriving Repr

/-! ## Widths -/

mutual

def width : Doc → Nat
  | .text s => s.utf8ByteSize
  | .endless => endless
  | .gap b => b.blanks
  | .box _ _ body => widths body

def widths : List Doc → Nat
  | [] => 0
  | d :: ds => width d + widths ds

end

/-- The width of what stands in front of the first break, or of everything with the width `after` of
what follows. -/
def lead (after : Nat) : List Doc → Nat
  | [] => after
  | .gap _ :: _ => 0
  | d :: ds => width d + lead after ds

/-! ## Lines -/

/-- How the breaks of the present box behave. -/
inductive Mode where
  | fits
  | broken (consistent : Bool)
  deriving DecidableEq, Repr

/-- What is laid out so far. `pending` blanks are written only when something follows them on the
line. -/
structure Page where
  written : List String := []
  room : Int := margin
  indent : Int := 0
  pending : Nat := 0

namespace Page

def write (p : Page) (s : String) : Page :=
  { p with
    written := s :: "".pushn ' ' p.pending :: p.written
    pending := 0
    room := p.room - s.utf8ByteSize }

/-- Writes a break that ends no line. -/
def leaveGap (p : Page) (b : Break) : Page :=
  let p := { p with pending := p.pending + b.blanks, room := p.room - b.blanks }
  if b.between.isEmpty then p else { p with
    written := b.between :: p.written
    room := p.room - b.between.utf8ByteSize }

def endLine (p : Page) (b : Break) : Page :=
  let p := if b.closing.isEmpty then p else p.write b.closing
  let indent := p.indent + b.offset
  let p : Page := { p with
    written := "\n" :: p.written
    pending := indent.toNat
    room := max (margin - indent) minimalRoom }
  if b.opening.isEmpty then p else p.write b.opening

def text (p : Page) : String := String.join p.written.reverse

end Page

mutual

def lay (mode : Mode) (after : Nat) : Doc → Page → Page
  | .text s, p => p.write s
  | .endless, p => p
  | .gap b, p =>
      let fits := b.never ||
        match mode with
        | .fits => true
        | .broken true => false
        | .broken false => decide (((b.blanks + after : Nat) : Int) ≤ p.room)
      if fits then p.leaveGap b else p.endLine b
  | .box offset consistent body, p =>
      if ((widths body + after : Nat) : Int) > p.room then
        let q := layAll (.broken consistent) after body { p with indent := p.indent + offset }
        { q with indent := p.indent }
      else layAll .fits after body p

def layAll (mode : Mode) (after : Nat) : List Doc → Page → Page
  | [], p => p
  | d :: ds, p => layAll mode after ds (lay mode (lead after ds) d p)

end

/-- The lines of texts one behind the other. -/
def render (ds : List Doc) : String := (layAll (.broken false) 0 ds {}).text

/-! ## Building texts -/

def word (s : String) : List Doc := if s.isEmpty then [] else [.text s]

def blanks (n : Nat) : List Doc := [.gap { blanks := n }]

def zeroBreak : List Doc := blanks 0

def spaceBreak : List Doc := blanks 1

def hardBreak : List Doc := blanks endless

/-- A line end that is absent at the end of a box. -/
def hardBreakIfNonempty : List Doc := [.gap { blanks := endless, ifNonempty := true }]

/-- A blank or line end that is absent at the end of a box. -/
def spaceBreakIfNonempty : List Doc := [.gap { blanks := 1, ifNonempty := true }]

/-- A place where the line does not end; widths are measured up to it all the same. -/
def neverBreak : List Doc := [.gap { never := true }]

/-- Behind an element of a list: a comma, which the last element has only where the line ends. -/
def trailingComma (isLast : Bool) : List Doc :=
  if isLast then [.gap { closing := "," }] else word "," ++ spaceBreak

/-- As `trailingComma`, with a blank behind the last element where the line does not end. -/
def trailingCommaOrSpace (isLast : Bool) : List Doc :=
  if isLast then [.gap { blanks := 1, closing := "," }] else word "," ++ spaceBreak

/-- Moves the line behind the last break, which ends the text, to the right by `n`. -/
def shift (n : Int) : List Doc → List Doc
  | [] => []
  | [.gap b] => [.gap { b with offset := b.offset + n }]
  | d :: ds => d :: shift n ds

/-- A text without a break at its end that counts as absent there. -/
def withoutIdleEnd : List Doc → List Doc
  | [] => []
  | [.gap b] => if b.ifNonempty then [] else [.gap b]
  | d :: ds => d :: withoutIdleEnd ds

/-- A box. One that holds nothing but a break is left out. -/
def box (offset : Int) (consistent : Bool) (body : List Doc) : List Doc :=
  match body with
  | [.gap _] => []
  | _ => [.box offset consistent (withoutIdleEnd body)]

def cbox (offset : Int) (body : List Doc) : List Doc := box offset true body

/-- The content of a box that is broken if it is wider than `limit`, even where it would fit. -/
def atMost (limit : Nat) (body : List Doc) : List Doc :=
  if widths body > limit then body ++ [.endless] else body

/-- A box whose breaks end lines one by one. -/
def ibox (offset : Int) (body : List Doc) : List Doc := box offset false body

/-- How much farther to the right the content of a block stands. -/
def indentation : Int := 4

/-- A consistent box of indented content whose last break leads back. -/
def indented (body : List Doc) : List Doc := cbox indentation (shift (-indentation) body)

/-- Elements in a row; `f` is told whether an element is the last one. -/
def inRow {α : Type} (f : α → Bool → List Doc) : List α → List Doc
  | [] => []
  | [a] => f a true
  | a :: b :: rest => f a false ++ inRow f (b :: rest)

def commaRow (elements : List (List Doc)) : List Doc :=
  inRow (fun e isLast => e ++ trailingComma isLast) elements

end BuilderForge.Code.Layout
