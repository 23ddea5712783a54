import BuilderForge.Naming
import BuilderForge.Code.Tree

set_option autoImplicit false

/-! # Module paths

A module is named by the names on the way from the root of the crate to it. The path `a::b` is
written `crate::a::b`, and read with or without the leading `crate`. -/

namespace BuilderForge

open Code (Tokens Token TokenTree Span Ident)

/-- The place of a module in the crate; the root has no segments. -/
structure ModulePath where
  segments : List String
  deriving DecidableEq, Repr

namespace ModulePath

def root : ModulePath := ⟨[]⟩

/-- The pieces of a text between double colons. -/
def pieces : List Char → List (List Char)
  | [] => [[]]
  | ':' :: ':' :: rest => [] :: pieces rest
  | c :: rest =>
      match pieces rest with
      | [] => [[c]]
      | p :: ps => (c :: p) :: ps

/-- A text without a leading `crate` that stands for the root. -/
def withoutCrate (text : List Char) : List Char :=
  match text with
  | 'c' :: 'r' :: 'a' :: 't' :: 'e' :: [] => []
  | 'c' :: 'r' :: 'a' :: 't' :: 'e' :: ':' :: ':' :: rest => rest
  | _ => text

/-- Reads a path written with or without a leading `crate`; empty names are passed over. -/
def parse (text : String) : ModulePath :=
  ⟨((pieces (withoutCrate text.toList)).filter fun p => !p.isEmpty).map String.ofList⟩

/-- The module `name` inside of this one. -/
def child (m : ModulePath) (name : String) : ModulePath := ⟨m.segments ++ [name]⟩

def parent? (m : ModulePath) : Option ModulePath :=
  if m.segments.isEmpty then none else some ⟨m.segments.dropLast⟩

def isRoot (m : ModulePath) : Bool := m.segments.isEmpty

/-- How the path behind `crate` is written. -/
def displaySegments (segments : List String) : String :=
  segments.foldl (fun s name => s ++ "::" ++ name) "crate"

def display (m : ModulePath) : String := displaySegments m.segments

/-- How the path to an item of the module is written. -/
def itemPath (m : ModulePath) (name : String) : String := m.display ++ "::" ++ name

/-- The path as identifiers, from `crate` on. -/
def idents (m : ModulePath) : List Ident := ⟨"crate", false⟩ :: m.segments.map identFor

/-- The path as a path in code. -/
def toPath (m : ModulePath) : Code.Path := ⟨false, m.idents.map Code.Segment.ofIdent⟩

/-- The path as code. A name that is no identifier cannot be written. -/
def tokens? (m : ModulePath) : Except NameError Tokens :=
  match m.idents.findSome? nameError? with
  | some e => .error e
  | none => .ok m.toPath.tokens

end ModulePath

end BuilderForge
