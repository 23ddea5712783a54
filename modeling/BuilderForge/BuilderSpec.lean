import BuilderForge.Config
import BuilderForge.FieldChain

set_option autoImplicit false

/-! # The plan of a builder

A builder has one setter for every field name along the chain of its struct. Where a name occurs
again at a farther struct, the shadow policy decides: the type is refused, or the farther field goes
without a setter. -/

namespace BuilderForge

open Code (Ident Tree Path)

/-- A setter: the method, the name of the field it assigns and the type it takes. -/
structure Setter where
  ident : Ident
  fieldName : String
  type : Tree
  declaredOn : String
  deriving Repr

/-- All that has to be known to write the builder of a struct. `space` is the module of the struct,
under which the builder module has its place. -/
structure BuilderSpec where
  target : Path
  targetName : String
  wrapper : Ident
  module : Ident
  space : ModulePath
  setters : List Setter
  /-- The fields without a setter because a nearer struct declares their name. -/
  skipped : List ChainField
  exposure : Exposure
  deriving Repr

namespace BuilderSpec

/-- Adds a field to the setters or to the skipped fields. -/
def addField (policy : ShadowPolicy) (acc : List Setter × List ChainField) (f : ChainField) :
    Except BuilderFailure (List Setter × List ChainField) :=
  let name := f.ident.name
  if reservedSetterNames.contains name then .error (.reservedSetterName name f.declaredOn)
  else
    match acc.1.find? fun s => s.fieldName == name, policy with
    | none, _ => .ok (acc.1 ++ [⟨f.ident, name, f.type, f.declaredOn⟩], acc.2)
    | some first, .reject => .error (.shadowedField name f.declaredOn first.declaredOn)
    | some _, .mostDerived => .ok (acc.1, acc.2 ++ [f])

/-- The setters for fields, nearest first, and the fields that get none. -/
def partition (policy : ShadowPolicy) (fields : List ChainField) :
    Except BuilderFailure (List Setter × List ChainField) :=
  fields.foldlM (addField policy) ([], [])

/-- The plan of the builder of a struct with these fields. The struct is named by the path it is
declared at. -/
def ofFields (policy : ShadowPolicy) (exposure : Exposure) (d : Declaration)
    (fields : List ChainField) : Except BuilderFailure BuilderSpec := do
  let (setters, skipped) ← partition policy fields
  return { target := d.typePath, targetName := d.pathString, wrapper := wrapperIdent d.ident,
           module := builderModuleIdent d.ident, space := d.module, setters, skipped, exposure }

end BuilderSpec

end BuilderForge
