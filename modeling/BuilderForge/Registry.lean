import BuilderForge.Registry.Declaration
import BuilderForge.Registry.Scope
import BuilderForge.Source

set_option autoImplicit false

/-! # Registry

All types of a crate and the scopes of its modules. Of two types declared under one path the first
is kept. The items of a module come before those of the modules inside of it. A module that is given
in several parts has one scope for all of them. -/

namespace BuilderForge

open Code (Ident Item)

/-- The types of a crate by their written paths, the scopes of its modules, and for every item
whether it can be named from everywhere in the crate. -/
structure Registry where
  types : List (String × Declaration) := []
  scopes : List (ModulePath × Scope) := []
  visible : List (String × Bool) := []
  diagnostics : List Diagnostic := []

/-- Whether what is declared in a module can be named from everywhere in the crate. -/
def isCrateVisible (vis : Code.Visibility) (module : ModulePath) : Bool :=
  match vis with
  | .everywhere => true
  | .inherited => module.isRoot
  | .within _ path =>
      let supers := (path.segments.takeWhile fun s => s.ident.isWritten "super").length
      path.isName "crate" || (path.isName "self" && module.isRoot)
        || (!path.isName "self" && supers = path.segments.length
          && decide (module.segments.length ≤ supers))

namespace Registry

/-! ## Looking up -/

def get? (r : Registry) (path : String) : Option Declaration := r.types.lookup path

def scope? (r : Registry) (module : ModulePath) : Option Scope := r.scopes.lookup module

/-- The types that a builder is asked for, whatever kind of item they are. -/
def annotated (r : Registry) : List Declaration :=
  (r.types.map (·.2)).filter fun d => d.marker = .testBuilder

/-! ## Building -/

/-- Adds a type unless its path is taken. -/
def insert (r : Registry) (d : Declaration) : Registry :=
  if (r.get? d.pathString).isSome then r else { r with types := r.types ++ [(d.pathString, d)] }

/-- Notes whether an item can be named from everywhere in the crate, unless its path is taken. -/
def noteVisibility (r : Registry) (module : ModulePath) (i : Ident) (vis : Code.Visibility) :
    Registry :=
  let key := module.itemPath i.name
  if (r.visible.lookup key).isSome then r
  else { r with visible := r.visible ++ [(key, isCrateVisible vis module)] }

/-- Adds an item of a module to the registry and to the scope of the module. What stands inside of
an inline module is left for later. -/
def addItem (module : ModulePath) (acc : Registry × Scope) (item : Item) : Registry × Scope :=
  let (r, s) := acc
  match item with
  | .struct attrs vis i _ g fields =>
      let (d, remarks) := Declaration.ofStruct module i attrs (!g.isEmpty) fields
      let r := { r with diagnostics := r.diagnostics ++ remarks }
      ((r.noteVisibility module i vis).insert d, s.addLocal i)
  | .enum attrs vis i _ g _ =>
      ((r.noteVisibility module i vis).insert (.fieldless module i .enum attrs (!g.isEmpty)),
        s.addLocal i)
  | .union attrs vis i _ g _ =>
      ((r.noteVisibility module i vis).insert (.fieldless module i .union attrs (!g.isEmpty)),
        s.addLocal i)
  | .named vis i _ => (r.noteVisibility module i vis, s.addLocal i)
  | .use _ vis leading tree => (r, s.addUse leading (isCrateVisible vis module) tree)
  | .externCrate _ _ i rename => (r, s.addExternCrate i rename)
  | .module _ vis _ i _ => (r.noteVisibility module i vis, s.addLocal i)
  | .other _ => (r, s)

def addScope (r : Registry) (module : ModulePath) (s : Scope) : Registry :=
  match r.scope? module with
  | none => { r with scopes := r.scopes ++ [(module, Scope.merge {} s)] }
  | some _ =>
      { r with scopes := r.scopes.map fun e => if e.1 = module then (e.1, e.2.merge s) else e }

/-- Adds the items of a module, without what stands inside of inline modules. -/
def addItems (r : Registry) (module : ModulePath) (items : List Item) : Registry :=
  let (r, s) := items.foldl (addItem module) (r, {})
  r.addScope module s

mutual

def addInline (r : Registry) (module : ModulePath) : Item → Registry
  | .module _ _ _ i (some items) =>
      let inner := module.child i.name
      addInlines (r.addItems inner items) inner items
  | _ => r

def addInlines (r : Registry) (module : ModulePath) : List Item → Registry
  | [] => r
  | i :: is => addInlines (addInline r module i) module is

end

/-- Adds the items of a module, inline modules included. -/
def addModule (r : Registry) (module : ModulePath) (items : List Item) : Registry :=
  addInlines (r.addItems module items) module items

def ofSources (sources : SourceSet) : Registry :=
  sources.files.foldl (fun r f => r.addModule f.module f.code.items) {}

end Registry

end BuilderForge
