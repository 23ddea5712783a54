import BuilderForge.Registry

set_option autoImplicit false

/-! # Resolving paths

What a path means depends on the module it is written in. Its first name is an item of the module,
an import, a name that a glob import supplies, a name that means the same everywhere, or else, for
a path of several names, a crate. `resolveIn` finds out; imports that lead to each other are
followed only so far.

A path that leads to a module can lead on to a type through the imports of that module (`find?`).
A type can be *visible* to the crate under the path it is declared at, or else under a shorter or
longer one that a `pub use` gives it (`visiblePath?`). -/

namespace BuilderForge

open Code (Tree Path)

/-- What a path stands for. -/
inductive Resolution where
  /-- A path from the root of the crate. -/
  | crate (segments : List String)
  /-- A path that begins with the name of another crate. -/
  | external (segments : List String)
  /-- A name that means the same in every module. -/
  | builtin
  | unresolved
  deriving DecidableEq, Repr

/-- Where a path stands: in a type or in a `use` item. A single unknown name is a crate only in the
latter. -/
inductive PathUse where
  | type
  | import
  deriving DecidableEq, Repr

/-- Primitive types and the names that every module starts out with. -/
def builtinNames : List String :=
  ["bool", "char", "str", "u8", "u16", "u32", "u64", "u128", "usize", "i8", "i16", "i32", "i64",
    "i128", "isize", "f32", "f64", "String", "Vec", "Option", "Result", "Box", "Some", "None", "Ok",
    "Err", "ToString", "ToOwned", "Clone", "Copy", "Send", "Sync", "Sized", "Unpin", "Fn", "FnMut",
    "FnOnce", "Drop", "Iterator", "IntoIterator", "DoubleEndedIterator", "ExactSizeIterator",
    "Extend", "FromIterator", "Default", "Eq", "PartialEq", "Ord", "PartialOrd", "AsRef", "AsMut",
    "Into", "From", "TryFrom", "TryInto"]

/-- How many imports are followed to resolve one path. -/
def importDepth : Nat := 8

/-- How many re-exports are followed to find one declaration. -/
def reexportDepth : Nat := 8

namespace Resolution

/-- The path that goes on with these names. -/
def append (r : Resolution) (rest : List String) : Resolution :=
  match r with
  | .crate segments => .crate (segments ++ rest)
  | .external segments => .external (segments ++ rest)
  | .builtin => .builtin
  | .unresolved => .unresolved

def crate? : Resolution → Option (List String)
  | .crate segments => some segments
  | _ => none

end Resolution

/-- The module that `super` at the beginning of a path leads to, and the names behind. -/
def climb (module : Option ModulePath) : List String → Option ModulePath × List String
  | [] => (module, [])
  | name :: rest =>
      if name == "super" then climb (module.bind ModulePath.parent?) rest
      else (module, name :: rest)

namespace Registry

/-! ## Resolving -/

/-- What a path means whose first name no scope supplies. -/
def resolveUnscoped (segments : List String) (use : PathUse) : Resolution :=
  match segments with
  | [] => .unresolved
  | name :: rest =>
      if builtinNames.contains name then .builtin
      else if use = .import || !rest.isEmpty then .external segments
      else .unresolved

/-- What a path means that is written in a module, if at most `fuel - 1` imports are followed. -/
def resolveIn (r : Registry) (fuel : Nat) (module : ModulePath) (leading : Bool)
    (segments : List String) (use : PathUse) : Resolution :=
  match fuel with
  | 0 => .unresolved
  | fuel + 1 =>
      if leading then .external segments
      else
        match segments with
        | [] => .unresolved
        | "crate" :: rest => .crate rest
        | "self" :: rest => .crate (module.segments ++ rest)
        | "super" :: rest =>
            match climb module.parent? rest with
            | (some target, rest) => .crate (target.segments ++ rest)
            | (none, _) => .unresolved
        | name :: rest =>
            match r.scope? module with
            | none => resolveUnscoped segments use
            | some scope =>
                if scope.hasLocal name then .crate (module.segments ++ segments)
                else
                  match scope.import? name with
                  | some path =>
                      (r.resolveIn fuel module path.leadingColon path.segments .import).append rest
                  | none =>
                      let supplier := scope.globs.findSome? fun glob =>
                        match r.resolveIn fuel module glob.leadingColon glob.segments .import with
                        | .crate target =>
                            match r.scope? ⟨target⟩ with
                            | some s => if s.declares name then some target else none
                            | none => none
                        | _ => none
                      match supplier with
                      | some target => r.resolveIn fuel ⟨target⟩ false segments use
                      | none => resolveUnscoped segments use

def resolveImport (r : Registry) (module : ModulePath) (path : ImportPath) : Resolution :=
  r.resolveIn (importDepth + 1) module path.leadingColon path.segments .import

/-- What a path in a type means that is written in a module. -/
def resolvePath (r : Registry) (module : ModulePath) (path : Path) : Resolution :=
  r.resolveIn (importDepth + 1) module path.leadingColon path.names .type

/-! ## Finding declarations -/

/-- The declaration that a path from the root of the crate leads to, if at most `fuel` re-exports
are followed. -/
def findWithin (r : Registry) (fuel : Nat) (segments : List String) : Option Declaration :=
  match r.get? (ModulePath.displaySegments segments) with
  | some d => some d
  | none =>
      match fuel with
      | 0 => none
      | fuel + 1 =>
          match segments.getLast? with
          | none => none
          | some name =>
              let module : ModulePath := ⟨segments.dropLast⟩
              match r.scope? module with
              | none => none
              | some scope =>
                  let imported := (scope.import? name).bind fun path =>
                    (r.resolveImport module path).crate?
                  match imported with
                  | some target => r.findWithin fuel target
                  | none =>
                      scope.globs.findSome? fun glob =>
                        match r.resolveImport module glob with
                        | .crate target => r.findWithin fuel (target ++ [name])
                        | _ => none

def find? (r : Registry) (segments : List String) : Option Declaration :=
  r.findWithin reexportDepth segments

def resolveDecl? (r : Registry) (module : ModulePath) (type : Tree) : Option Declaration :=
  match type with
  | .path _ leading segments =>
      (r.resolvePath module ⟨leading, segments⟩).crate?.bind r.find?
  | _ => none

/-! ## Visible paths -/

/-- The path that what a path leads to is declared at. -/
def canonical (r : Registry) (segments : List String) : List String :=
  match r.find? segments with
  | some d => d.segments
  | none => segments

/-- The paths that lead up to an item, itself included. -/
def pathsUpTo (segments : List String) : List (List String) :=
  (List.range segments.length).map fun n => segments.take (n + 1)

/-- Whether every item on the way can be named from everywhere in the crate. An item that is not
noted counts as one that can. -/
def isPathVisible (r : Registry) (segments : List String) : Bool :=
  (pathsUpTo segments).all fun s =>
    (r.visible.lookup (ModulePath.displaySegments s)).getD true

/-- The names under which a module re-exports what is declared at `target`. -/
def reexportNames (r : Registry) (module : ModulePath) (scope : Scope) (target : List String) :
    List String :=
  let leadsTo (segments : Option (List String)) : Bool :=
    match segments with
    | some s => r.canonical s == target
    | none => false
  let named := scope.exportedImports.filterMap fun e =>
    if leadsTo (r.resolveImport module e.2).crate? then some e.1 else none
  let last := target.getLast?.toList
  let globbed := scope.exportedGlobs.flatMap fun glob =>
    if leadsTo ((r.resolveImport module glob).crate?.map (· ++ last)) then last else []
  named ++ globbed

/-- The shorter one of two paths; the first of two that are as long as each other. -/
def shorter (best : Option (List String)) (path : List String) : Option (List String) :=
  match best with
  | none => some path
  | some b => if path.length < b.length then some path else some b

/-- A shortest path under which a visible module re-exports what is declared at `target`. -/
def reexportOf? (r : Registry) (target : List String) : Option (List String) :=
  if target.isEmpty then none
  else
    r.scopes.foldl (fun best e =>
      if r.isPathVisible e.1.segments then
        (r.reexportNames e.1 e.2 target).foldl
          (fun best name => shorter best (e.1.segments ++ [name])) best
      else best) none

/-- A path under which the whole crate can name an item. -/
def visiblePath? (r : Registry) (segments : List String) : Option (List String) :=
  let declared := r.canonical segments
  if r.isPathVisible declared then some declared else r.reexportOf? declared

/-- A path from the root of the crate, in code. -/
def cratePath (segments : List String) : Path :=
  ⟨false, (("crate" :: segments).map identFor).map Code.Segment.ofIdent⟩

def reachablePath? (r : Registry) (d : Declaration) : Option Path :=
  (r.visiblePath? d.segments).map cratePath

end Registry

end BuilderForge
