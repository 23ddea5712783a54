import BuilderForge.Text.CharWidth

set_option autoImplicit false

/-! # Ligatures

Some letters take one shape with a letter before them. In most scripts a joiner between the two asks
for it. -/

namespace BuilderForge.Text

/-- Characters of no width that stand between two letters as a letter would. -/
def separatingRanges : Ranges := #[
  (0x605, 0x605), (0x890, 0x891), (0x8e2, 0x8e2), (0x9be, 0x9be), (0x9d7, 0x9d7), (0xb3e, 0xb3e),
  (0xb57, 0xb57), (0xbbe, 0xbbe), (0xbd7, 0xbd7), (0xcc0, 0xcc0), (0xcc2, 0xcc2), (0xcc7, 0xcc8),
  (0xcca, 0xccb), (0xcd5, 0xcd6), (0xd3e, 0xd3e), (0xd4e, 0xd4e), (0xd57, 0xd57), (0xdcf, 0xdcf),
  (0xddf, 0xddf), (0x1160, 0x11ff), (0x1715, 0x1715), (0x1734, 0x1734), (0x180e, 0x180e),
  (0x1b35, 0x1b35), (0x1b3b, 0x1b3b), (0x1b3d, 0x1b3d), (0x1b43, 0x1b44), (0x1baa, 0x1baa),
  (0x1bf2, 0x1bf3), (0x200c, 0x200d), (0x2065, 0x2069), (0x302e, 0x302f), (0x3164, 0x3164),
  (0xa8fa, 0xa8fa), (0xa953, 0xa953), (0xa9c0, 0xa9c0), (0xd7b0, 0xd7c6), (0xd7cb, 0xd7fb),
  (0xff9e, 0xffa0), (0xfff0, 0xfff8), (0x111c0, 0x111c0), (0x111c2, 0x111c3), (0x11235, 0x11235),
  (0x1133e, 0x1133e), (0x1134d, 0x1134d), (0x11357, 0x11357), (0x113b8, 0x113b8),
  (0x113c2, 0x113c2), (0x113c5, 0x113c5), (0x113c7, 0x113c9), (0x113cf, 0x113cf),
  (0x113d1, 0x113d1), (0x114b0, 0x114b0), (0x114bd, 0x114bd), (0x115af, 0x115af),
  (0x116b6, 0x116b6), (0x11930, 0x11930), (0x1193d, 0x1193d), (0x1193f, 0x1193f),
  (0x11941, 0x11941), (0x11a84, 0x11a89), (0x11d46, 0x11d46), (0x11f02, 0x11f02),
  (0x11f41, 0x11f41), (0x16ff0, 0x16ff1), (0x1d165, 0x1d166), (0x1d16d, 0x1d172),
  (0xe0000, 0xe0000), (0xe0002, 0xe001f), (0xe0080, 0xe00ff), (0xe01f0, 0xe0fff)]

/-- Whether the character is a mark that does not keep two letters apart. -/
def isTransparent (c : Char) : Bool := charWidth c == 0 && !separatingRanges.contains c

/-- Whether the character is a selector or a filler that is not seen between two letters. -/
def isUnseen (c : Char) : Bool :=
  let n := c.toNat
  n == 0x34f || (0x17b4 ≤ n && n ≤ 0x17b5) || (0x180b ≤ n && n ≤ 0x180d) || n == 0x180f
    || (0xfe00 ≤ n && n ≤ 0xfe0f) || (0xe0100 ≤ n && n ≤ 0xe01ef)

def isAlef (n : Nat) : Bool :=
  n ∈ [0x622, 0x623, 0x625, 0x627, 0x671, 0x672, 0x673, 0x675, 0x773, 0x774]
    || (0x870 ≤ n && n ≤ 0x882)

def isLam (n : Nat) : Bool := n ∈ [0x644, 0x6b5, 0x6b6, 0x6b7, 0x6b8, 0x76a, 0x8a6, 0x8c7]

/-- Whether the character is a Khmer letter that can stand below another one. -/
def isKhmerSubscript (n : Nat) : Bool :=
  (0x1780 ≤ n && n ≤ 0x1782) || (0x1784 ≤ n && n ≤ 0x1787) || (0x1789 ≤ n && n ≤ 0x178c)
    || (0x178e ≤ n && n ≤ 0x1793) || (0x1795 ≤ n && n ≤ 0x1798) || (0x179b ≤ n && n ≤ 0x179d)
    || n ∈ [0x17a0, 0x17a2, 0x17a7, 0x17ab, 0x17ac, 0x17af]

def isTifinagh (n : Nat) : Bool := (0x2d31 ≤ n && n ≤ 0x2d65) || n == 0x2d6f

/-- A letter, or some, that can become one shape with what is before them. -/
inductive Ligature where
  | lamed
  | ya
  /-- The vowel i, a joiner and ya. -/
  | vowelYa
  | tifinagh
  /-- The Tifinagh joiner and a consonant. -/
  | tifinaghTail
  | lisuTone
  | orkhonI
  | khmer
  deriving DecidableEq, Repr

namespace Ligature

def ofCodePoint? (n : Nat) : Option Ligature :=
  if n == 0x5dc then some .lamed
  else if n == 0x1a10 then some .ya
  else if isTifinagh n then some .tifinagh
  else if n == 0xa4fc || n == 0xa4fd then some .lisuTone
  else if n == 0x10c03 then some .orkhonI
  else if isKhmerSubscript n then some .khmer
  else none

/-- What a character before the letters adds to their columns if it becomes one shape with them, and
what can go on from there. A joiner between the character and the letters is `joined`. -/
def before? (l : Ligature) (joined : Bool) (n : Nat) : Option (Int × Option Ligature) :=
  match l, joined with
  | .lamed, true => if n == 0x5d0 then some (0, none) else none
  | .ya, true => if n == 0x1a17 then some (0, some .vowelYa) else none
  | .vowelYa, false => if n == 0x1a15 then some (0, none) else none
  | .tifinagh, _ =>
      if n == 0x2d7f then some (1, some .tifinaghTail)
      else if joined && isTifinagh n then some (0, none)
      else none
  | .tifinaghTail, false => if isTifinagh n then some (-1, none) else none
  | .lisuTone, false => if 0xa4f8 ≤ n && n ≤ 0xa4fb then some (0, none) else none
  | .orkhonI, true => if n == 0x10c32 then some (0, none) else none
  | .khmer, false => if n == 0x17d2 then some (-1, none) else none
  | _, _ => none

end Ligature

end BuilderForge.Text
