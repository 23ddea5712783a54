import BuilderForge.Text.Quoted

set_option autoImplicit false

/-! # JSON

As much of JSON as reports are made of, and how it is written over several lines. -/

namespace BuilderForge.Text

inductive Json where
  | null
  | text (s : String)
  | list (items : List Json)
  | object (entries : List (String × Json))

namespace Json

def optionalText : Option String → Json
  | some s => .text s
  | none => .null

def texts (ss : List String) : Json := .list (ss.map .text)

/-- The start of a line inside of `depth` lists and objects. -/
def lineStart (depth : Nat) : String := "\n" ++ String.ofList (List.replicate (2 * depth) ' ')

/-- Written items between two brackets, each on a line of its own. -/
def bracketed (left right : String) (depth : Nat) : List String → String
  | [] => left ++ right
  | items =>
      left ++ ",".intercalate (items.map fun item => lineStart (depth + 1) ++ item)
        ++ lineStart depth ++ right

mutual

/-- A value inside of `depth` lists and objects, as it is written. -/
def pretty (depth : Nat) : Json → String
  | .null => "null"
  | .text s => quoteJson s
  | .list items => bracketed "[" "]" depth (prettyAll (depth + 1) items)
  | .object entries => bracketed "\x7b" "\x7d" depth (prettyEntries (depth + 1) entries)

def prettyAll (depth : Nat) : List Json → List String
  | [] => []
  | j :: js => pretty depth j :: prettyAll depth js

def prettyEntries (depth : Nat) : List (String × Json) → List String
  | [] => []
  | (key, j) :: rest => (quoteJson key ++ ": " ++ pretty depth j) :: prettyEntries depth rest

end

end Json

end BuilderForge.Text
