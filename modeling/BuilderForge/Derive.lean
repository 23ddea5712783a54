import BuilderForge.BuilderCode
import BuilderForge.Registry.Declaration

set_option autoImplicit false

/-! # Derives

What the derives put beside a struct: the access to its fields by name, and its construction
without arguments. Both have to stand in the module of the struct, where its private fields and
functions can be named.

`Derive.accept` says which structs a derive accepts and what it takes from them. The access to
fields is a match on names with an arm for each field and a last arm for all other names, and the
construction is a call; `FieldMatch` and `Construction` hold these before they become code. -/

namespace BuilderForge

open Code (Ident Attribute Item Fields Field Generics Parser ParseError Span Tokens)
open Code.Tokens

/-- The derives: the access to fields alone, or with the construction. -/
inductive Derive where
  | fieldAccess
  | testBuilder
  deriving DecidableEq, Repr

namespace Derive

def name : Derive → String
  | .fieldAccess => "FieldAccess"
  | .testBuilder => "TestBuilder"

end Derive

/-! ## What is refused -/

/-- Why a derive refuses an item, and where the reason stands. -/
inductive Refusal where
  | noStruct (derive : Derive) (ident : Ident) (span : Span)
  | tupleStruct (derive : Derive) (span : Span)
  | generic (derive : Derive) (span : Span)
  | secondParent (span : Span)
  | badAttribute (error : ParseError)
  | noType
  deriving Repr

namespace Refusal

def message : Refusal → String
  | .noStruct d i _ => d.name ++ " annotation can not be used on " ++ i.text
  | .tupleStruct d _ =>
      d.name ++ " can only be used on structs with named fields, not tuple structs"
  | .generic d _ => d.name ++ " does not support generic types"
  | .secondParent _ => "only one field can be marked #[" ++ helperName ++ "(parent)]"
  | .badAttribute e => e.message
  | .noType => "expected one of: `struct`, `enum`, `union`"

def span : Refusal → Span
  | .noStruct _ _ s | .tupleStruct _ s | .generic _ s | .secondParent s => s
  | .badAttribute e => e.span
  | .noType => Span.nowhere

end Refusal

/-! ## What is accepted -/

/-- What derives take from a struct. The link to the parent is not among the fields. -/
structure DerivedStruct where
  ident : Ident
  fields : List Ident
  parent : Option Ident
  constructor : Option Code.Path
  deriving Repr

/-- Adds a field to the fields and the link to the parent. -/
def addDerivedField (found : List Ident × Option Ident) (f : Field) :
    Except Refusal (List Ident × Option Ident) := do
  match f.ident with
  | none => return found
  | some i =>
      match isParentLink f.attrs, found.2 with
      | .error e, _ => .error (.badAttribute e)
      | .ok false, _ => return (found.1 ++ [i], found.2)
      | .ok true, none => return (found.1, some i)
      | .ok true, some _ => .error (.secondParent f.identSpan)

/-- The constructor that one `test_builder` attribute of a struct names last, or else `found`. -/
def constructorIn (found : Option Code.Path) (a : Attribute) :
    Except ParseError (Option Code.Path) :=
  a.parseArgs (Parser.nestedEntries (fun _ path span => do
    if path.isName "constructor" then
      let _ ← Parser.op "="
      return some (← Parser.path Code.Grammar.whole false)
    else
      Parser.complainAt span
        (.other "unsupported struct attribute; expected `constructor = path`")) found)

/-- The constructor that the attributes of a struct name last. -/
def constructorOf (attrs : List Attribute) : Except ParseError (Option Code.Path) :=
  (attrs.filter fun a => a.isNamed helperName).foldlM constructorIn none

namespace Derive

/-- What a derive takes from a struct: one with named fields or none at all, without parameters.
A tuple is told before parameters are, and fields are read before the struct's own attributes. -/
def acceptStruct (d : Derive) (attrs : List Attribute) (i : Ident) (span : Span) (g : Generics)
    (fields : Fields) : Except Refusal DerivedStruct := do
  let named ← match fields with
    | .tuple _ _ => .error (.tupleStruct d span)
    | .named fs _ => pure fs
    | .unit => pure []
  if !g.isEmpty then .error (.generic d g.span)
  let (own, parent) ← named.foldlM addDerivedField ([], none)
  match constructorOf attrs with
  | .ok c => return ⟨i, own, parent, c⟩
  | .error e => .error (.badAttribute e)

/-- What a derive takes from an item. -/
def accept (d : Derive) : Item → Except Refusal DerivedStruct
  | .struct attrs _ i span g fields => d.acceptStruct attrs i span g fields
  | .enum _ _ i span _ _ | .union _ _ i span _ _ => .error (.noStruct d i span)
  | _ => .error .noType

end Derive

/-! ## The access to fields -/

/-- An arm of the match on names: the field that is assigned for a name. -/
structure Arm where
  key : String
  field : Ident
  deriving DecidableEq, Repr

/-- What happens to a name that no arm has: the parent is asked, or it is not found. -/
inductive Fallback where
  | parent (link : Ident)
  | notFound
  deriving DecidableEq, Repr

structure FieldMatch where
  arms : List Arm
  fallback : Fallback
  deriving DecidableEq, Repr

namespace FieldMatch

/-- The match for a struct: an arm for each field, keyed by its name without the mark of a raw
identifier. -/
def ofFields (fields : List Ident) (parent : Option Ident) : FieldMatch where
  arms := fields.map fun i => ⟨i.name, i⟩
  fallback := match parent with
    | some link => .parent link
    | none => .notFound

/-- The field that is assigned for a name, if it is not left to the fallback. -/
def field? (m : FieldMatch) (name : String) : Option Ident :=
  (m.arms.find? fun a => a.key == name).map fun a => a.field

end FieldMatch

/-- How a value is made: by a function, or by the default of the type if it has one. -/
inductive Construction where
  | call (path : Code.Path)
  | probe
  deriving Repr

/-! ## The code -/

/-- A path to what only derived code uses. -/
def privatePath (name : String) : Tokens := spell (":: testbuilder :: __private :: " ++ name)

namespace Arm

def tokens (a : Arm) : Tokens :=
  text a.key ++ op "=>" ++ privatePath "assign" ++ parens
    (spell "& mut self ." ++ ident a.field ++ spell ", :: core :: any :: type_name :: < Self >"
      ++ parens [] ++ spell ", field , value") ++ op ","

end Arm

namespace Fallback

def tokens : Fallback → Tokens
  | .parent link => spell "_ => :: testbuilder :: FieldAccess :: set_field" ++ parens
      (spell "& mut self ." ++ ident link ++ spell ", field , value") ++ op ","
  | .notFound => spell "_ =>" ++ braces
      (word "drop" ++ parens (word "value") ++ op ";"
        ++ spell ":: core :: result :: Result :: Err" ++ parens
          (privatePath "not_found" ++ parens (word "field")))

end Fallback

namespace FieldMatch

def tokens (m : FieldMatch) : Tokens :=
  spell "match field" ++ braces (m.arms.flatMap Arm.tokens ++ m.fallback.tokens)

end FieldMatch

namespace Construction

def tokens : Construction → Tokens
  | .call path => privatePath "construct" ++ parens path.tokens
  | .probe =>
      attributeOf (word "allow" ++ parens (word "unused_imports"))
        ++ word "use" ++ spell ":: testbuilder :: __private ::"
        ++ braces (spell "ViaDefault as _ , ViaMissing as _") ++ op ";"
        ++ parens (op "&" ++ privatePath "Probe" ++ spell ":: < Self > :: new" ++ parens [])
        ++ spell ". zero_arg" ++ parens []

end Construction

/-- A trait's body for a type, marked as derived. -/
def derivedImpl (trait : String) (type : Ident) (m : Method) : Tokens :=
  attributeOf (word "automatically_derived")
    ++ implTokens (spell (":: testbuilder :: " ++ trait ++ " for") ++ ident type) [m]

namespace DerivedStruct

def fieldMatch (s : DerivedStruct) : FieldMatch := .ofFields s.fields s.parent

/-- How the struct is made without arguments. -/
def construction (s : DerivedStruct) : Construction :=
  match s.constructor with
  | some path => .call path
  | none => .probe

def setFieldMethod (s : DerivedStruct) : Method :=
  { attributes := attributeOf (word "allow" ++ parens (spell "clippy :: match_single_binding"))
    visibility := []
    name := ⟨"set_field", false⟩
    params := spell "& mut self , field : & str , value :"
      ++ spell ":: std :: boxed :: Box < dyn :: core :: any :: Any > ,"
    result := resultPath ++ op "<" ++ parens [] ++ spell ", :: testbuilder :: FieldError >"
    body := s.fieldMatch.tokens }

def instantiateMethod (s : DerivedStruct) : Method :=
  { attributes := []
    visibility := []
    name := ⟨"instantiate", false⟩
    params := []
    result := resultPath ++ spell "< Self , :: testbuilder :: ConstructError >"
    body := s.construction.tokens }

def accessCode (s : DerivedStruct) : Tokens := derivedImpl "FieldAccess" s.ident s.setFieldMethod

def instantiateCode (s : DerivedStruct) : Tokens :=
  derivedImpl "Instantiate" s.ident s.instantiateMethod

end DerivedStruct

namespace Derive

/-- What a derive puts beside a struct. -/
def expand : Derive → DerivedStruct → Tokens
  | .fieldAccess, s => s.accessCode
  | .testBuilder, s => s.accessCode ++ s.instantiateCode

end Derive

end BuilderForge
