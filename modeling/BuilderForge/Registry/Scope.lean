import BuilderForge.Code.Item

set_option autoImplicit false

/-! # Scopes

The scope of a module holds the names that the module brings in: those of its own items, those
that a `use` item binds, and the modules whose names it takes over as a whole (*globs*). Of two
imports under one name the first is kept. An import is *exported* if it can be named from the whole
crate through the module. -/

namespace BuilderForge

open Code (Ident UseTree)

/-- The path of an import as written. -/
structure ImportPath where
  leadingColon : Bool
  segments : List String
  deriving DecidableEq, Repr

/-- The names that a module brings in. `exports` holds the names of exported imports. It stands for a
set: the list enumerates them as they are declared, and a run may enumerate them in another order
(`Registry.Enumerates`). -/
structure Scope where
  locals : List String := []
  imports : List (String × ImportPath) := []
  globs : List ImportPath := []
  exports : List String := []
  exportedGlobs : List ImportPath := []
  deriving DecidableEq, Repr

namespace Scope

/-! ## Looking up -/

def hasLocal (s : Scope) (name : String) : Bool := s.locals.contains name

def import? (s : Scope) (name : String) : Option ImportPath := s.imports.lookup name

/-- Whether the module itself supplies the name, by an item or an import. -/
def declares (s : Scope) (name : String) : Bool := s.hasLocal name || (s.import? name).isSome

def exportedImports (s : Scope) : List (String × ImportPath) :=
  s.exports.filterMap fun name => (s.import? name).map fun path => (name, path)

/-- Every name that occurs in the scope, once. -/
def names (s : Scope) : List String := (s.locals ++ s.imports.map (·.1)).eraseDups

/-! ## Adding -/

/-- A list with `a` at its end, unless it holds `a` already. -/
def withNew {α : Type} [BEq α] (l : List α) (a : α) : List α := if l.contains a then l else l ++ [a]

def addLocal (s : Scope) (i : Ident) : Scope := { s with locals := withNew s.locals i.name }

/-- Binds a name to an import unless it is bound already. -/
def bind (s : Scope) (name : String) (path : ImportPath) : Scope :=
  if (s.import? name).isSome then s else { s with imports := s.imports ++ [(name, path)] }

/-- Binds a name to an import in place of what it was bound to. -/
def rebind (s : Scope) (name : String) (path : ImportPath) : Scope :=
  if (s.import? name).isSome then
    { s with imports := s.imports.map fun e => if e.1 == name then (name, path) else e }
  else { s with imports := s.imports ++ [(name, path)] }

/-- The name that a leaf of an import binds: the new name, or its own one, or, for `self`, the last
of the names above it. The name `_` binds nothing. -/
def boundName? (above : List String) (i : Ident) (rename : Option Ident) : Option String :=
  let name := match rename with
    | some j => some j.name
    | none => if i.name == "self" then above.getLast? else some i.name
  name.filter (· != "_")

/-- Adds a leaf of an import below the names `above`. -/
def addLeaf (s : Scope) (leading exported : Bool) (above : List String) (i : Ident)
    (rename : Option Ident) : Scope :=
  match boundName? above i rename with
  | none => s
  | some name =>
      let path : ImportPath := ⟨leading, if i.name == "self" then above else above ++ [i.name]⟩
      let s := if exported then { s with exports := withNew s.exports name } else s
      s.bind name path

def addGlob (s : Scope) (exported : Bool) (path : ImportPath) : Scope :=
  { s with
    globs := s.globs ++ [path]
    exportedGlobs := if exported then s.exportedGlobs ++ [path] else s.exportedGlobs }

/-- A scope that an import is added to, and the names above the branch of the import at hand. -/
structure Walk where
  scope : Scope
  above : List String
  deriving Repr

mutual

/-- Adds what a branch brings in. The name of a branch stands above all that it branches into, and
is taken away behind it. -/
def Walk.add (w : Walk) (leading exported : Bool) : UseTree → Walk
  | .path i rest =>
      let w := Walk.add { w with above := w.above ++ [i.name] } leading exported rest
      { w with above := w.above.dropLast }
  | .name i => { w with scope := w.scope.addLeaf leading exported w.above i none }
  | .rename i j => { w with scope := w.scope.addLeaf leading exported w.above i (some j) }
  | .glob => { w with scope := w.scope.addGlob exported ⟨leading, w.above⟩ }
  | .group ts _ => w.addAll leading exported ts

def Walk.addAll (w : Walk) (leading exported : Bool) : List UseTree → Walk
  | [] => w
  | t :: ts => (w.add leading exported t).addAll leading exported ts

end

def addUse (s : Scope) (leading exported : Bool) (tree : UseTree) : Scope :=
  (Walk.add ⟨s, []⟩ leading exported tree).scope

/-- Adds the import of a library; the name `self` stands for the crate at hand. -/
def addExternCrate (s : Scope) (i : Ident) (rename : Option Ident) : Scope :=
  let name := (rename.getD i).name
  if name == "_" then s
  else s.rebind name (if i.name == "self" then ⟨false, ["crate"]⟩ else ⟨true, [i.name]⟩)

/-! ## Joining -/

/-- The scope of a module that is given in two parts, the second of which is `t`. -/
def merge (s t : Scope) : Scope :=
  let s := t.imports.foldl (fun s e => s.bind e.1 e.2) s
  { s with
    locals := t.locals.foldl withNew s.locals
    globs := s.globs ++ t.globs
    exports := t.exports.foldl withNew s.exports
    exportedGlobs := s.exportedGlobs ++ t.exportedGlobs }

end Scope

end BuilderForge
