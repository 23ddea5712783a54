set_option autoImplicit false

/-! # Sets of code points

A property of characters is kept as an array of inclusive ranges of code points, sorted and
disjoint, and is looked up by bisection. -/

namespace BuilderForge.Text

/-- A set of code points: inclusive ranges, sorted and disjoint. -/
abbrev Ranges := Array (Nat × Nat)

namespace Ranges

/-- Bisection between the indices `low` (inclusive) and `high` (exclusive): of the half that can
still hold `n`, until the half is empty. -/
def search (ranges : Ranges) (n low high : Nat) : Bool :=
  if low < high then
    let middle := (low + high) / 2
    match ranges[middle]? with
    | none => false
    | some (first, last) =>
        if n < first then ranges.search n low middle
        else if last < n then ranges.search n (middle + 1) high
        else true
  else false
termination_by high - low

def contains (ranges : Ranges) (c : Char) : Bool :=
  ranges.search c.toNat 0 ranges.size

end Ranges

end BuilderForge.Text
