set_option autoImplicit false

/-! # Stretches between marks -/

namespace BuilderForge.Text

/-- The stretches of a text between the characters `mark`. There is one more of them than there are
marks. -/
def splitAt (mark : Char) : List Char → List (List Char)
  | [] => [[]]
  | c :: rest =>
      if c = mark then [] :: splitAt mark rest
      else
        match splitAt mark rest with
        | [] => [[c]]
        | p :: ps => (c :: p) :: ps

end BuilderForge.Text
