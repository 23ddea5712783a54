import BuilderForge.Text.Cluster
import BuilderForge.Text.Split
import BuilderForge.Text.Width

set_option autoImplicit false

/-! # Lines of bounded width

A line that is too wide is broken between its words, and a word that is wider than a whole line is
broken between its clusters. A line with hardly any room left counts as full. -/

namespace BuilderForge.Text

/-- Clusters as long as there is room for them, and all that is after them. -/
def takeClusters (room : Nat) : List (List Char) → List Char × List Char
  | [] => ([], [])
  | c :: cs =>
      if charsWidth c ≤ room then
        let (taken, rest) := takeClusters (room - charsWidth c) cs
        (c ++ taken, rest)
      else ([], c ++ cs.flatten)

/-- The clusters of a word as long as there is room for them, and the rest of the word. -/
def takeWidth (room : Nat) (word : List Char) : List Char × List Char :=
  takeClusters room (clusters word)

/-- What of a word goes into a line of its own, and the rest of the word. If there is no room even
for its first cluster, a single character goes into the line all the same. -/
def takeLine (width : Nat) (word : List Char) : List Char × List Char :=
  match takeWidth width word with
  | ([], c :: rest) => ([c], rest)
  | parts => parts

theorem append_takeClusters (room : Nat) (cs : List (List Char)) :
    (takeClusters room cs).1 ++ (takeClusters room cs).2 = cs.flatten := by
  induction cs generalizing room with
  | nil => rfl
  | cons c cs ih =>
      have := ih (room - charsWidth c)
      rw [takeClusters]
      split <;> simp_all

theorem append_takeWidth (room : Nat) (word : List Char) :
    (takeWidth room word).1 ++ (takeWidth room word).2 = word := by
  rw [takeWidth, append_takeClusters, flatten_clusters]

/-- Something goes into every line. -/
theorem length_snd_takeLine_lt (width : Nat) (word : List Char) (h : word ≠ []) :
    (takeLine width word).2.length < word.length := by
  have parts := append_takeWidth width word
  rw [takeLine]
  split
  · next heq =>
      rw [heq] at parts
      simp [← parts]
  · next hne =>
      match heq : takeWidth width word with
      | ([], []) => rw [heq] at parts; exact absurd parts.symm h
      | ([], c :: rest) => exact absurd heq (hne c rest)
      | (c :: taken, rest) =>
          rw [heq] at parts
          simp only [← parts, List.length_append, List.length_cons]
          omega

/-- Full lines, and the line that is still open. -/
structure Wrapping where
  full : List (List Char) := []
  current : List Char := []
  deriving DecidableEq, Repr

/-- The most room that is left empty instead of being filled with a part of a word. -/
def spareRoom : Nat := 2

namespace Wrapping

def finish (w : Wrapping) (line : List Char) : Wrapping := ⟨w.full ++ [line], []⟩

/-- The line becomes `line`, which is ended if it is full. -/
def extend (width : Nat) (w : Wrapping) (line : List Char) : Wrapping :=
  if charsWidth line > width - spareRoom then w.finish line else { w with current := line }

/-- Adds a word at the start of a line. One that is too wide fills lines. -/
def addFresh (width : Nat) (w : Wrapping) (word : List Char) : Wrapping :=
  if charsWidth word ≤ width then w.extend width word
  else
    let parts := takeLine width word
    (w.finish parts.1).addFresh width parts.2
  termination_by word.length
  decreasing_by
    apply length_snd_takeLine_lt
    rintro rfl
    simp_all [charsWidth, measure]

def add (width : Nat) (w : Wrapping) (word : List Char) : Wrapping :=
  if w.current.isEmpty then w.addFresh width word
  else
    let room := width - charsWidth w.current - 1
    if charsWidth w.current + 1 + charsWidth word ≤ width then
      w.extend width (w.current ++ ' ' :: word)
    else if charsWidth word > width && room > spareRoom then
      let (taken, rest) := takeWidth room word
      (w.finish (w.current ++ ' ' :: taken)).addFresh width rest
    else (w.finish w.current).addFresh width word

def lines (w : Wrapping) : List (List Char) :=
  if w.current.isEmpty then w.full else w.full ++ [w.current]

end Wrapping

def wrapLine (width : Nat) (line : List Char) : List (List Char) :=
  if charsWidth line ≤ width then [line]
  else ((splitAt ' ' line).foldl (Wrapping.add width) {}).lines

/-- A text as lines of at most this width. -/
def wrap (width : Nat) (s : String) : List String :=
  ((splitAt '\n' s.toList).flatMap (wrapLine width)).map String.ofList

end BuilderForge.Text
