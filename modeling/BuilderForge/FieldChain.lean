import BuilderForge.Anchoring

set_option autoImplicit false

/-! # Fields along the parents of a struct

A builder sets the fields of its struct and those of every struct above it. `FieldChain.ofDecl`
walks from a struct to its parent, and on from there, and gathers the fields, nearest struct first.
The link to the parent is no field to be set. Names that occur at several levels are all kept. -/

namespace BuilderForge

open Code (Ident Tree Path)

/-- A field that can be set, its type anchored so that it means the same in every module. `depth`
counts the parents between the struct at the beginning of the chain and the declaring one. -/
structure ChainField where
  ident : Ident
  type : Tree
  declaredOn : String
  depth : Nat
  deriving Repr

/-- A struct with all structs above it. -/
structure FieldChain where
  /-- A path under which the whole crate can name the struct. -/
  target : Path
  fields : List ChainField
  /-- The struct and its parents, nearest first. -/
  chain : List String
  /-- Names in the types of fields without a known meaning, each with its field. -/
  unresolved : List (String × String)
  deriving Repr

namespace FieldChain

/-- The type as it is named in a complaint: without any blanks. -/
def compact (type : Tree) : String := String.ofList (type.display.toList.filter (· != ' '))

/-- The declaration of the parent that a link leads to. -/
def ancestor (r : Registry) (child : Declaration) (link : Tree) :
    Except BuilderFailure Declaration :=
  match r.resolveDecl? child.module link with
  | none => .error (.unresolvedAncestor child.pathString (compact link))
  | some d =>
      if d.kind ≠ .struct then
        .error (.ancestorNotStruct child.pathString d.pathString d.kind.describe)
      else if d.generic then .error (.unsupportedGenerics d.pathString)
      else if !d.marker.hasFieldAccess then
        .error (.missingFieldAccess child.pathString d.pathString)
      else .ok d

/-- Adds a field of `d`, which stands at the end of the chain. -/
def addField (place : Place) (typeName : String) (d : Declaration) (c : FieldChain)
    (f : DeclaredField) : Except BuilderFailure FieldChain :=
  let anchored := place.anchor f.type
  match anchored.notes.unreachable with
  | path :: _ => .error (.notReachable typeName path)
  | [] =>
      .ok { c with
        fields := c.fields ++ [⟨f.ident, anchored.type, d.pathString, c.chain.length - 1⟩]
        unresolved := c.unresolved ++ anchored.notes.unresolved.map fun n => (f.ident.name, n) }

/-- Goes on with the struct `d`, at most `fuel` levels up. A struct that is reached again ends the
walk with a failure. -/
def extend (r : Registry) (typeName : String) : Nat → FieldChain → Declaration →
    Except BuilderFailure FieldChain
  | 0, c, _ => .error (.inheritanceCycle typeName c.chain)
  | fuel + 1, c, d => do
      let again := c.chain.contains d.pathString
      let c := { c with chain := c.chain ++ [d.pathString] }
      if again then .error (.inheritanceCycle typeName c.chain)
      let place := ({ registry := r, module := d.module } : Place).withSelf d.typePath
      let c ← d.fields.foldlM (addField place typeName d) c
      match d.parent with
      | none => return c
      | some link => extend r typeName fuel c (← ancestor r d link.type)

/-- The chain that begins with a declaration. No struct occurs in it twice, so it has no more levels
than there are types. -/
def ofDecl (r : Registry) (d : Declaration) : Except BuilderFailure FieldChain :=
  if d.generic then .error (.unsupportedGenerics d.pathString)
  else
    match r.reachablePath? d with
    | none => .error (.notReachable d.pathString d.pathString)
    | some target => extend r d.pathString (r.types.length + 2) ⟨target, [], [], []⟩ d

end FieldChain

end BuilderForge
