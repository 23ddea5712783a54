import BuilderForge.Proofs.Resolution.Introductions

set_option autoImplicit false

/-! # Imports are flattened faithfully

A `use` item is a tree, and what it is good for are its leaves: names, new names and globs, each
with the names above it (`UseTree.leaves`). For a leaf by itself it is told what it binds and to
which path. A scope takes over the leaves in the order in which they are written and nothing else,
and the list of names that the walk through the tree keeps is the same behind each branch as in
front of it (`addUse_records`).
-/

namespace BuilderForge

open Code (Ident UseTree)

namespace Code

/-! ## Leaves -/

/-- A leaf of an import with the names above it, from the root of the tree on. -/
inductive UseLeaf where
  | name (above : List String) (ident : Ident)
  | rename (above : List String) (ident «alias» : Ident)
  | glob (above : List String)

namespace UseLeaf

/-- The path from the root of the tree to the leaf. The leaf `self` stands for what is above it. -/
def path : UseLeaf → List String
  | .name above i | .rename above i _ => if i.name = "self" then above else above ++ [i.name]
  | .glob above => above

/-- The name that the leaf binds. The name `_` binds nothing, and neither does `self` with nothing
above it. -/
def alias? (l : UseLeaf) : Option String :=
  Option.filter (fun name => name ≠ "_") <| match l with
    | .name above i => if i.name = "self" then above.getLast? else some i.name
    | .rename _ _ j => some j.name
    | .glob _ => none

def isGlob : UseLeaf → Bool
  | .glob _ => true
  | _ => false

end UseLeaf

namespace UseTree

mutual

/-- The leaves of an import below the names `above`, in the order in which they are written. -/
def leaves (above : List String) : UseTree → List UseLeaf
  | .path i rest => leaves (above ++ [i.name]) rest
  | .name i => [.name above i]
  | .rename i j => [.rename above i j]
  | .glob => [.glob above]
  | .group ts _ => leavesAll above ts

/-- The leaves of the branches of an import below the names `above`. -/
def leavesAll (above : List String) : List UseTree → List UseLeaf
  | [] => []
  | t :: ts => leaves above t ++ leavesAll above ts

end

/-- What a leaf binds, with its path. -/
def bindingOf? (l : UseLeaf) : Option (String × List String) :=
  l.alias?.map fun name => (name, l.path)

theorem leaf_name (above : List String) (i : Ident) :
    binding?.leaf above i none = bindingOf? (.name above i) := by
  simp [bindingOf?, binding?.leaf, Scope.boundName?, UseLeaf.alias?, UseLeaf.path, bne,
    decide_not, ← beq_eq_decide]

theorem leaf_rename (above : List String) (i j : Ident) :
    binding?.leaf above i (some j) = bindingOf? (.rename above i j) := by
  simp [bindingOf?, binding?.leaf, Scope.boundName?, UseLeaf.alias?, UseLeaf.path, bne,
    decide_not, ← beq_eq_decide]

theorem filterMap_singleton {α β : Type} (f : α → Option β) (a : α) :
    [a].filterMap f = (f a).toList := by
  rw [List.filterMap_cons]
  cases f a <;> rfl

mutual

theorem bindings_eq : ∀ (t : UseTree) (above : List String),
    t.bindings above = (t.leaves above).filterMap bindingOf?
  | .path i rest, above => by
      rw [bindings, leaves, bindings_eq rest]
  | .name i, above => by rw [bindings, leaves, leaf_name, filterMap_singleton]
  | .rename i j, above => by rw [bindings, leaves, leaf_rename, filterMap_singleton]
  | .glob, above => rfl
  | .group ts _, above => by rw [bindings, leaves, bindingsAll_eq ts]

theorem bindingsAll_eq : ∀ (ts : List UseTree) (above : List String),
    bindingsAll above ts = (leavesAll above ts).filterMap bindingOf?
  | [], _ => rfl
  | t :: ts, above => by
      rw [bindingsAll, leavesAll, List.filterMap_append, bindings_eq t, bindingsAll_eq ts]

end

/-- Of the leaves that bind a name the first one gives the path. -/
theorem find?_bindings (t : UseTree) (name : String) :
    (t.bindings []).find? (·.1 == name)
      = ((t.leaves []).find? fun l => l.alias? = some name).map fun l => (name, l.path) := by
  have hbinds : (fun l => (bindingOf? l).any (·.1 == name))
      = fun l : UseLeaf => decide (l.alias? = some name) := by
    funext l
    rw [bindingOf?, Option.any_map]
    cases l.alias? <;> simp [beq_eq_decide]
  rw [bindings_eq, List.find?_filterMap, hbinds]
  cases hfind : (t.leaves []).find? fun l => l.alias? = some name with
  | none => rfl
  | some l =>
      have halias : l.alias? = some name := by simpa using List.find?_some hfind
      simp [bindingOf?, halias]

theorem exists_mem_bindings_iff (t : UseTree) (name : String) :
    (∃ b ∈ t.bindings [], b.1 = name) ↔ ∃ l ∈ t.leaves [], l.alias? = some name := by
  simp only [bindings_eq, List.mem_filterMap, bindingOf?, Option.map_eq_some_iff]
  constructor
  · rintro ⟨_, ⟨l, hl, x, hx, rfl⟩, rfl⟩
    exact ⟨l, hl, hx⟩
  · rintro ⟨l, hl, hx⟩
    exact ⟨_, ⟨l, hl, name, hx, rfl⟩, rfl⟩

end UseTree

end Code

namespace Scope

/-! ## Globs -/

variable {leading exported : Bool}

/-- The paths of the globs among leaves. -/
def globPaths (leading : Bool) (ls : List Code.UseLeaf) : List ImportPath :=
  (ls.filter Code.UseLeaf.isGlob).map fun l => ⟨leading, l.path⟩

theorem globPaths_append (ls ls' : List Code.UseLeaf) :
    globPaths leading (ls ++ ls') = globPaths leading ls ++ globPaths leading ls' := by
  rw [globPaths, List.filter_append, List.map_append]
  rfl

theorem globs_addLeaf (s : Scope) (above : List String) (i : Ident) (rename : Option Ident) :
    (s.addLeaf leading exported above i rename).globs = s.globs
      ∧ (s.addLeaf leading exported above i rename).exportedGlobs = s.exportedGlobs := by
  unfold addLeaf
  split
  · exact ⟨rfl, rfl⟩
  · dsimp only
    rw [globs_bind, exportedGlobs_bind]
    cases exported <;> exact ⟨rfl, rfl⟩

mutual

/-- The globs of a tree come behind those that are there. -/
theorem globs_addTree : ∀ (t : UseTree) (s : Scope) (above : List String),
    (s.addTree leading exported above t).globs = s.globs ++ globPaths leading (t.leaves above)
      ∧ (s.addTree leading exported above t).exportedGlobs = s.exportedGlobs
        ++ if exported then globPaths leading (t.leaves above) else []
  | .path i rest, s, above => by
      rw [addTree, UseTree.leaves]
      exact globs_addTree rest s (above ++ [i.name])
  | .name i, s, above => by
      simpa [addTree, UseTree.leaves, globPaths, Code.UseLeaf.isGlob] using
        globs_addLeaf s above i none
  | .rename i j, s, above => by
      simpa [addTree, UseTree.leaves, globPaths, Code.UseLeaf.isGlob] using
        globs_addLeaf s above i (some j)
  | .glob, s, above => by
      rw [addTree, UseTree.leaves, addGlob]
      cases exported with
      | false => exact ⟨rfl, (List.append_nil _).symm⟩
      | true => exact ⟨rfl, rfl⟩
  | .group ts _, s, above => by
      rw [addTree, UseTree.leaves]
      exact globs_addTrees ts s above

theorem globs_addTrees : ∀ (ts : List UseTree) (s : Scope) (above : List String),
    (s.addTrees leading exported above ts).globs
        = s.globs ++ globPaths leading (UseTree.leavesAll above ts)
      ∧ (s.addTrees leading exported above ts).exportedGlobs = s.exportedGlobs
        ++ if exported then globPaths leading (UseTree.leavesAll above ts) else []
  | [], s, above => by simp [addTrees, UseTree.leavesAll, globPaths]
  | t :: ts, s, above => by
      obtain ⟨hglobs, hexported⟩ := globs_addTree t s above
      obtain ⟨hglobs', hexported'⟩ :=
        globs_addTrees ts (s.addTree leading exported above t) above
      rw [addTrees, UseTree.leavesAll, globPaths_append, hglobs', hexported', hglobs, hexported,
        List.append_assoc, List.append_assoc]
      refine ⟨rfl, congrArg _ ?_⟩
      cases exported <;> rfl

end

/-! ## A `use` item -/

/-- The scope `s'` is `s` with what these leaves bring in, and nothing else. -/
structure Records (s s' : Scope) (leading exported : Bool) (ls : List Code.UseLeaf) : Prop where
  /-- An alias keeps the path it has, or gets that of the first leaf that binds it. -/
  imports : ∀ name, s'.import? name = (s.import? name).or
    ((ls.find? fun l => l.alias? = some name).map fun l => ⟨leading, l.path⟩)
  globs : s'.globs = s.globs ++ globPaths leading ls
  exports : ∀ name, name ∈ s'.exports
    ↔ name ∈ s.exports ∨ exported = true ∧ ∃ l ∈ ls, l.alias? = some name
  exportedGlobs : s'.exportedGlobs = s.exportedGlobs
    ++ if exported then globPaths leading ls else []
  items : s'.locals = s.locals

/-- A `use` item brings in exactly the leaves of its tree, and the walk through a tree leaves the
names above it as they are. -/
theorem addUse_records (s : Scope) (leading exported : Bool) (t : UseTree) :
    s.Records (s.addUse leading exported t) leading exported (t.leaves [])
      ∧ ∀ (w : Walk) (branch : UseTree), (w.add leading exported branch).above = w.above := by
  refine ⟨?_, fun w branch => by rw [Walk.add_eq]⟩
  rw [addUse_eq]
  obtain ⟨hglobs, hexported⟩ :
      (s.addTree leading exported [] t).globs = s.globs ++ globPaths leading (t.leaves [])
        ∧ (s.addTree leading exported [] t).exportedGlobs = s.exportedGlobs
          ++ if exported then globPaths leading (t.leaves []) else [] := globs_addTree t s []
  refine ⟨fun name => ?_, hglobs, fun name => ?_, hexported, addTree_locals s _ _ _ t⟩
  · rw [import?_addTree, UseTree.find?_bindings, Option.map_map]
    rfl
  · rw [mem_exports_addTree, UseTree.exists_mem_bindings_iff]

end Scope

end BuilderForge
