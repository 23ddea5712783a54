import BuilderForge.Text.Ranges

set_option autoImplicit false

/-! # White space

The class *White_Space* of characters, and cutting it off the ends of a text. -/

namespace BuilderForge.Text

/-- The class *White_Space*. -/
def blankRanges : Ranges := #[
  (0x9, 0xd), (0x20, 0x20), (0x85, 0x85), (0xa0, 0xa0), (0x1680, 0x1680), (0x2000, 0x200a),
  (0x2028, 0x2029), (0x202f, 0x202f), (0x205f, 0x205f), (0x3000, 0x3000)]

def isBlank (c : Char) : Bool := blankRanges.contains c

/-- The characters without the white space at both ends. -/
def trimChars (s : List Char) : List Char :=
  ((s.dropWhile isBlank).reverse.dropWhile isBlank).reverse

def trim (s : String) : String := String.ofList (trimChars s.toList)

end BuilderForge.Text
