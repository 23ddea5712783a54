import BuilderForge.Code.Parser.File
import BuilderForge.Diagnostic
import BuilderForge.ModulePath

set_option autoImplicit false

/-! # Declared types

What the registry keeps of a struct, an enum or a union: where it is declared, which derives it
carries, and, of a struct with named fields, the fields and the link to its parent. -/

namespace BuilderForge

open Code (Ident Tree Attribute Item Fields Field Parser ParseError Tokens)

/-! ## Markers -/

/-- Which of the derives a type carries, in rising order. -/
inductive Marker where
  | none
  | fieldAccess
  | testBuilder
  deriving DecidableEq, Repr

namespace Marker

def max : Marker → Marker → Marker
  | .testBuilder, _ | _, .testBuilder => .testBuilder
  | .fieldAccess, _ | _, .fieldAccess => .fieldAccess
  | .none, .none => .none

def hasFieldAccess (m : Marker) : Bool := m ≠ .none

/-- The marker that a derived path stands for, which is told by its last name. -/
def ofPath (p : Code.Path) : Marker :=
  match p.segments.getLast? with
  | some s =>
      if s.ident.isWritten "TestBuilder" then .testBuilder
      else if s.ident.isWritten "FieldAccess" then .fieldAccess
      else .none
  | Option.none => .none

end Marker

/-- The arguments of an attribute, read by a parser that is given the grammar. -/
def attributeArgs? {α : Type} (a : Attribute) (p : Code.Grammar → Parser α) : Option α :=
  match a.parseArgs (p Code.Grammar.whole) with
  | .ok x => some x
  | .error _ => none

def derivePaths (g : Code.Grammar) : Parser (List Code.Path) :=
  Parser.commaList (Parser.path g false)

/-- One entry of a list of attributes: `path`, `path(tokens)` or `path = value`. -/
def attributeEntry (g : Code.Grammar) : Parser Attribute := Parser.attributeContent g false

/-- The paths that an attribute derives, written as a derive or as one that depends on a condition,
which is the first argument then. -/
def derivedPaths (a : Attribute) : List Code.Path :=
  if a.isNamed "derive" then (attributeArgs? a derivePaths).getD []
  else if a.isNamed "cfg_attr" then
    let entries := (attributeArgs? a fun g => Parser.commaList (attributeEntry g)).getD []
    (entries.drop 1).flatMap fun e =>
      match e.args with
      | .list .. => if e.isNamed "derive" then (attributeArgs? e derivePaths).getD [] else []
      | _ => []
  else []

def Marker.ofAttributes (attrs : List Attribute) : Marker :=
  (attrs.flatMap derivedPaths).foldl (fun m p => m.max (.ofPath p)) .none

/-! ## Parent links -/

/-- The name of the attribute that speaks to the generator. -/
def helperName : String := "test_builder"

/-- Whether one `test_builder` attribute of a field marks the link to the parent. -/
def marksParent (a : Attribute) : Except ParseError Bool :=
  a.parseArgs (Parser.nestedEntries (fun _ path span =>
    if path.isName "parent" then return true
    else Parser.complainAt span
      (.other "unsupported field attribute; expected `parent`")) false)

def isParentLink (attrs : List Attribute) : Except ParseError Bool :=
  (attrs.filter fun a => a.isNamed helperName).foldlM
    (fun found a => return found || (← marksParent a)) false

/-! ## Declarations -/

inductive DeclKind where
  | struct
  | tupleStruct
  | enum
  | union
  deriving DecidableEq, Repr

namespace DeclKind

def describe : DeclKind → String
  | .struct => "struct"
  | .tupleStruct => "tuple struct"
  | .enum => "enum"
  | .union => "union"

end DeclKind

structure DeclaredField where
  ident : Ident
  type : Tree
  deriving Repr

/-- The declaration of a type. The link to the parent is not among the fields. -/
structure Declaration where
  module : ModulePath
  ident : Ident
  kind : DeclKind
  marker : Marker
  generic : Bool
  fields : List DeclaredField
  parent : Option DeclaredField
  deriving Repr

namespace Declaration

def pathString (d : Declaration) : String := d.module.itemPath d.ident.name

/-- The path to the type behind `crate`. -/
def segments (d : Declaration) : List String := d.module.segments ++ [d.ident.name]

/-- The path to the type, raw where it is declared raw. -/
def path (d : Declaration) : Code.Path :=
  ⟨false, (d.module.idents ++ [d.ident]).map Code.Segment.ofIdent⟩

/-- The path to the type, or its bare name if a name on the way stands for no module. -/
def typePath (d : Declaration) : Code.Path :=
  if d.module.segments.contains "_" then Code.Path.ofIdent d.ident else d.path

def fieldless (module : ModulePath) (i : Ident) (kind : DeclKind) (attrs : List Attribute)
    (generic : Bool) : Declaration :=
  ⟨module, i, kind, Marker.ofAttributes attrs, generic, [], none⟩

/-- Adds a field to a declaration, as the link to the parent if it is the first one marked so. A
mark that cannot be read counts as none and is remarked upon. -/
def addField (acc : Declaration × List Diagnostic) (f : Field) : Declaration × List Diagnostic :=
  match f.ident with
  | none => acc
  | some i =>
      let (d, remarks) := acc
      let field : DeclaredField := ⟨i, f.type⟩
      let (isParent, remarks) := match isParentLink f.attrs with
        | .ok b => (b, remarks)
        | .error e =>
            (false, remarks ++ [.invalidFieldAttribute d.pathString i.name e.message])
      if isParent && d.parent.isNone then ({ d with parent := some field }, remarks)
      else ({ d with fields := d.fields ++ [field] }, remarks)

/-- The declaration of a struct, with remarks on its fields. -/
def ofStruct (module : ModulePath) (i : Ident) (attrs : List Attribute) (generic : Bool)
    (fields : Fields) : Declaration × List Diagnostic :=
  let bare (kind : DeclKind) := fieldless module i kind attrs generic
  match fields with
  | .unit => (bare .struct, [])
  | .tuple _ _ => (bare .tupleStruct, [])
  | .named fs _ => fs.foldl addField (bare .struct, [])

end Declaration

end BuilderForge
