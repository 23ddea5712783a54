import BuilderForge.Proofs.Registry.Contents
import BuilderForge.Proofs.Registry.Exports
import BuilderForge.Proofs.Registry.Insertion
import BuilderForge.Proofs.Resolution.Visible

set_option autoImplicit false

/-! # Where exported imports come from

A scope is built in steps: an item, a `use` item, a library, or another scope that is built in the
same way and joined to it. We follow every name that the steps *introduce* for a path. A scope
exports the names that an exported `use` introduces anywhere (`mem_exports_ofSteps`), but the path
that comes with a name is that of one introduction (`import?_ofSteps`): the last library of that
name, or else the first of all others; within a scope that is joined this is told for itself. So the
paths that come with exported names are exported ones exactly if these *deciding* introductions are
of exported paths (`exportedImports_introduced_iff`).
-/

namespace BuilderForge

open Code (Ident UseTree Item)

namespace Code

mutual

/-- The names that an import binds below the names `above`, with their paths. -/
def UseTree.bindings (above : List String) : UseTree → List (String × List String)
  | .path i rest => rest.bindings (above ++ [i.name])
  | .name i => (UseTree.binding?.leaf above i none).toList
  | .rename i j => (UseTree.binding?.leaf above i (some j)).toList
  | .glob => []
  | .group ts _ => UseTree.bindingsAll above ts

/-- The names that the branches of an import bind below the names `above`, with their paths. -/
def UseTree.bindingsAll (above : List String) : List UseTree → List (String × List String)
  | [] => []
  | t :: ts => t.bindings above ++ UseTree.bindingsAll above ts

end

end Code

namespace Scope

/-! ## Steps -/

/-- A step in which a scope is built. -/
inductive Step where
  | item (i : Ident)
  | use (leading exported : Bool) (tree : UseTree)
  | library (i : Ident) (rename : Option Ident)
  | joined (steps : List Step)

mutual

/-- The scope after a step. -/
def Step.apply (s : Scope) : Step → Scope
  | .item i => s.addLocal i
  | .use leading exported tree => s.addUse leading exported tree
  | .library i rename => s.addExternCrate i rename
  | .joined steps => s.merge (Step.applyAll {} steps)

/-- The scope after some steps. -/
def Step.applyAll (s : Scope) : List Step → Scope
  | [] => s
  | a :: as => Step.applyAll (a.apply s) as

end

/-- The scope that is built in these steps. -/
def ofSteps (steps : List Step) : Scope := Step.applyAll {} steps

/-! ## Introductions -/

/-- What makes a name stand for a path. -/
structure Introduction where
  name : String
  path : ImportPath
  /-- Whether it is a `use` item that can be named from the whole crate. -/
  exported : Bool
  deriving DecidableEq

/-- What a `use` item introduces. -/
def Introduction.ofUse (leading exported : Bool) (tree : UseTree) : List Introduction :=
  (tree.bindings []).map fun b => ⟨b.1, ⟨leading, b.2⟩, exported⟩

/-- What the import of a library introduces. -/
def Introduction.ofLibrary (i : Ident) (rename : Option Ident) : List Introduction :=
  let name := (rename.getD i).name
  if name == "_" then []
  else [⟨name, if i.name == "self" then ⟨false, ["crate"]⟩ else ⟨true, [i.name]⟩, false⟩]

mutual

/-- What a step introduces. -/
def Step.introductions : Step → List Introduction
  | .item _ => []
  | .use leading exported tree => Introduction.ofUse leading exported tree
  | .library i rename => Introduction.ofLibrary i rename
  | .joined steps => Step.introductionsAll steps

/-- What some steps introduce. -/
def Step.introductionsAll : List Step → List Introduction
  | [] => []
  | a :: as => a.introductions ++ Step.introductionsAll as

end

/-- An exported `use` among the steps introduces the name for the path. -/
def ExportedAs (steps : List Step) (name : String) (path : ImportPath) : Prop :=
  ⟨name, path, true⟩ ∈ Step.introductionsAll steps

mutual

/-- The deciding introduction of a name after a step, given the one before. A library takes the
place of what was introduced before, all else gives way to it. -/
def Step.deciding (name : String) (before : Option Introduction) : Step → Option Introduction
  | .item _ => before
  | .use leading exported tree =>
      before.or ((Introduction.ofUse leading exported tree).find? (·.name == name))
  | .library i rename => ((Introduction.ofLibrary i rename).find? (·.name == name)).or before
  | .joined steps => before.or (Step.decidingAll name none steps)

/-- The deciding introduction of a name after some steps, given the one before. -/
def Step.decidingAll (name : String) (before : Option Introduction) :
    List Step → Option Introduction
  | [] => before
  | a :: as => Step.decidingAll name (a.deciding name before) as

end

/-- The deciding introduction of a name in a scope that is built in these steps. -/
def deciding? (steps : List Step) (name : String) : Option Introduction :=
  Step.decidingAll name none steps

/-! ## A `use` item -/

variable {s : Scope} {leading exported : Bool} {above : List String} {name : String}

theorem import?_addLeaf (i : Ident) (rename : Option Ident) :
    (s.addLeaf leading exported above i rename).import? name = (s.import? name).or
      ((((UseTree.binding?.leaf above i rename).toList.find? (·.1 == name))).map
        fun b => ⟨leading, b.2⟩) := by
  rw [addLeaf, UseTree.binding?.leaf]
  cases boundName? above i rename with
  | none => exact Option.or_none.symm
  | some bound =>
      -- which names are exported has no part in it
      have hexports : ∀ path, ((if exported then { s with exports := withNew s.exports bound }
          else s).bind bound path).import? name = (s.bind bound path).import? name := by
        intro path
        rw [import?_bind, import?_bind]
        cases exported <;> rfl
      dsimp only
      rw [hexports, import?_bind]
      by_cases hname : name = bound
      · simp [hname]
      · simp [hname, beq_eq_false_iff_ne.mpr (Ne.symm hname)]

mutual

theorem import?_addTree : ∀ (t : UseTree) (s : Scope) (above : List String),
    (s.addTree leading exported above t).import? name = (s.import? name).or
      (((t.bindings above).find? (·.1 == name)).map fun b => ⟨leading, b.2⟩)
  | .path i rest, s, above => by
      rw [addTree, UseTree.bindings]
      exact import?_addTree rest s (above ++ [i.name])
  | .name i, s, above => by
      rw [addTree, UseTree.bindings]
      exact import?_addLeaf i none
  | .rename i j, s, above => by
      rw [addTree, UseTree.bindings]
      exact import?_addLeaf i (some j)
  | .glob, s, above => by
      rw [addTree, UseTree.bindings]
      exact Option.or_none.symm
  | .group ts _, s, above => by
      rw [addTree, UseTree.bindings]
      exact import?_addTrees ts s above

theorem import?_addTrees : ∀ (ts : List UseTree) (s : Scope) (above : List String),
    (s.addTrees leading exported above ts).import? name = (s.import? name).or
      (((UseTree.bindingsAll above ts).find? (·.1 == name)).map fun b => ⟨leading, b.2⟩)
  | [], s, above => by
      rw [addTrees, UseTree.bindingsAll]
      exact Option.or_none.symm
  | t :: ts, s, above => by
      rw [addTrees, UseTree.bindingsAll, import?_addTrees ts, import?_addTree t, Option.or_assoc,
        List.find?_append, Option.map_or]

end

theorem mem_exports_addLeaf (i : Ident) (rename : Option Ident) :
    name ∈ (s.addLeaf leading exported above i rename).exports ↔ name ∈ s.exports
      ∨ exported = true ∧ ∃ b ∈ (UseTree.binding?.leaf above i rename).toList, b.1 = name := by
  rw [addLeaf, UseTree.binding?.leaf]
  cases boundName? above i rename with
  | none => simp
  | some bound =>
      dsimp only
      rw [exports_bind]
      cases exported with
      | false => simp
      | true => simp [mem_withNew, eq_comm (a := name)]

mutual

theorem mem_exports_addTree : ∀ (t : UseTree) (s : Scope) (above : List String),
    name ∈ (s.addTree leading exported above t).exports ↔ name ∈ s.exports
      ∨ exported = true ∧ ∃ b ∈ t.bindings above, b.1 = name
  | .path i rest, s, above => by
      rw [addTree, UseTree.bindings]
      exact mem_exports_addTree rest s (above ++ [i.name])
  | .name i, s, above => by
      rw [addTree, UseTree.bindings]
      exact mem_exports_addLeaf i none
  | .rename i j, s, above => by
      rw [addTree, UseTree.bindings]
      exact mem_exports_addLeaf i (some j)
  | .glob, s, above => by
      rw [addTree, UseTree.bindings]
      simp [addGlob]
  | .group ts _, s, above => by
      rw [addTree, UseTree.bindings]
      exact mem_exports_addTrees ts s above

theorem mem_exports_addTrees : ∀ (ts : List UseTree) (s : Scope) (above : List String),
    name ∈ (s.addTrees leading exported above ts).exports ↔ name ∈ s.exports
      ∨ exported = true ∧ ∃ b ∈ UseTree.bindingsAll above ts, b.1 = name
  | [], s, above => by simp [addTrees, UseTree.bindingsAll]
  | t :: ts, s, above => by
      rw [addTrees, UseTree.bindingsAll, mem_exports_addTrees ts, mem_exports_addTree t]
      simp only [List.mem_append, or_and_right, exists_or, and_or_left, or_assoc]

end

/-! ## A step -/

theorem import?_addUse (tree : UseTree) : (s.addUse leading exported tree).import? name
    = (s.import? name).or (((Introduction.ofUse leading exported tree).find? (·.name == name)).map
      (·.path)) := by
  rw [addUse_eq, import?_addTree, Introduction.ofUse, List.find?_map, Option.map_map]
  rfl

theorem import?_addExternCrate (i : Ident) (rename : Option Ident) :
    (s.addExternCrate i rename).import? name
      = (((Introduction.ofLibrary i rename).find? (·.name == name)).map (·.path)).or
        (s.import? name) := by
  rw [addExternCrate, Introduction.ofLibrary]
  split
  · rfl
  · rw [import?_rebind]
    by_cases hname : name = (rename.getD i).name
    · simp [hname]
    · simp [hname, beq_eq_false_iff_ne.mpr (Ne.symm hname)]

mutual

/-- The deciding introduction gives the path of a name. -/
theorem import?_apply {before : Option Introduction} : ∀ (a : Step) (s : Scope),
    s.import? name = before.map (·.path) →
    (a.apply s).import? name = (a.deciding name before).map (·.path)
  | .item i, s, h => by
      rw [Step.apply, Step.deciding]
      exact h
  | .use leading exported tree, s, h => by
      rw [Step.apply, Step.deciding, import?_addUse, h, Option.map_or]
  | .library i rename, s, h => by
      rw [Step.apply, Step.deciding, import?_addExternCrate, h, Option.map_or]
  | .joined steps, s, h => by
      -- the other scope starts empty, whatever this one holds
      have hjoined : (Step.applyAll {} steps).import? name
          = (Step.decidingAll name none steps).map (·.path) := by
        exact import?_applyAll steps {} rfl
      rw [Step.apply, Step.deciding, import?_merge, h, Option.map_or, hjoined]

theorem import?_applyAll {before : Option Introduction} : ∀ (steps : List Step) (s : Scope),
    s.import? name = before.map (·.path) →
    (Step.applyAll s steps).import? name = (Step.decidingAll name before steps).map (·.path)
  | [], s, h => by
      rw [Step.applyAll, Step.decidingAll]
      exact h
  | a :: as, s, h => by
      rw [Step.applyAll, Step.decidingAll]
      exact import?_applyAll as _ (import?_apply a s h)

end

theorem mem_exports_addUse (tree : UseTree) : name ∈ (s.addUse leading exported tree).exports
    ↔ name ∈ s.exports ∨ ∃ path, ⟨name, path, true⟩ ∈ Introduction.ofUse leading exported tree := by
  rw [addUse_eq, mem_exports_addTree, Introduction.ofUse]
  simp only [List.mem_map, Introduction.mk.injEq]
  constructor
  · rintro (h | ⟨hexported, b, hb, hname⟩)
    · exact Or.inl h
    · exact Or.inr ⟨_, b, hb, hname, rfl, hexported⟩
  · rintro (h | ⟨_, b, hb, hname, -, hexported⟩)
    · exact Or.inl h
    · exact Or.inr ⟨hexported, b, hb, hname⟩

theorem exports_addExternCrate (i : Ident) (rename : Option Ident) :
    (s.addExternCrate i rename).exports = s.exports := by
  rw [addExternCrate]
  split
  · rfl
  · unfold rebind
    split <;> rfl

theorem not_exported_of_mem_ofLibrary {i : Ident} {rename : Option Ident} {x : Introduction}
    (h : x ∈ Introduction.ofLibrary i rename) : x.exported = false := by
  rw [Introduction.ofLibrary] at h
  split at h
  · cases h
  · obtain rfl := List.mem_singleton.mp h
    rfl

mutual

/-- A step exports the names that an exported `use` in it introduces. -/
theorem mem_exports_apply : ∀ (a : Step) (s : Scope), name ∈ (a.apply s).exports
    ↔ name ∈ s.exports ∨ ∃ path, ⟨name, path, true⟩ ∈ a.introductions
  | .item i, s => by simp [Step.apply, Step.introductions, addLocal]
  | .use leading exported tree, s => by
      rw [Step.apply, Step.introductions, mem_exports_addUse]
  | .library i rename, s => by
      rw [Step.apply, Step.introductions, exports_addExternCrate]
      -- a library is never exported
      refine ⟨Or.inl, fun h => h.resolve_right ?_⟩
      rintro ⟨path, hmem⟩
      exact Bool.noConfusion (not_exported_of_mem_ofLibrary hmem)
  | .joined steps, s => by
      rw [Step.apply, Step.introductions, exports_merge, mem_foldl_withNew,
        mem_exports_applyAll steps {}]
      simp

theorem mem_exports_applyAll : ∀ (steps : List Step) (s : Scope),
    name ∈ (Step.applyAll s steps).exports
      ↔ name ∈ s.exports ∨ ∃ path, ⟨name, path, true⟩ ∈ Step.introductionsAll steps
  | [], s => by simp [Step.applyAll, Step.introductionsAll]
  | a :: as, s => by
      rw [Step.applyAll, Step.introductionsAll, mem_exports_applyAll as, mem_exports_apply a]
      simp only [List.mem_append, exists_or, or_assoc]

end

/-! ## The scope as a whole -/

/-- A name stands for the path of its deciding introduction. -/
theorem import?_ofSteps (steps : List Step) (name : String) :
    (ofSteps steps).import? name = (deciding? steps name).map (·.path) := by
  exact import?_applyAll steps {} rfl

/-- The names of exported `use` items are exported. -/
theorem mem_exports_ofSteps (steps : List Step) (name : String) :
    name ∈ (ofSteps steps).exports ↔ ∃ path, ExportedAs steps name path := by
  rw [ofSteps, mem_exports_applyAll]
  simp [ExportedAs]

theorem mem_exportedImports_ofSteps (steps : List Step) (name : String) (path : ImportPath) :
    (name, path) ∈ (ofSteps steps).exportedImports
      ↔ (∃ exported, ExportedAs steps name exported)
        ∧ ∃ x, deciding? steps name = some x ∧ x.path = path := by
  rw [mem_exportedImports, mem_exports_ofSteps, import?_ofSteps, Option.map_eq_some_iff]

mutual

theorem mem_of_deciding_step {before : Option Introduction} {x : Introduction} : ∀ a : Step,
    a.deciding name before = some x → before = some x ∨ x ∈ a.introductions ∧ x.name = name
  | .item i, h => by
      rw [Step.deciding] at h
      exact Or.inl h
  | .use leading exported tree, h => by
      rw [Step.deciding, Option.or_eq_some_iff] at h
      refine h.imp id fun h => ?_
      exact ⟨List.mem_of_find?_eq_some h.2, by simpa using List.find?_some h.2⟩
  | .library i rename, h => by
      rw [Step.deciding, Option.or_eq_some_iff] at h
      refine h.symm.imp And.right fun h => ?_
      exact ⟨List.mem_of_find?_eq_some h, by simpa using List.find?_some h⟩
  | .joined steps, h => by
      rw [Step.deciding, Option.or_eq_some_iff] at h
      refine h.imp id fun h => ?_
      rw [Step.introductions]
      exact (mem_of_deciding_steps steps h.2).resolve_left (Option.some_ne_none x).symm

theorem mem_of_deciding_steps {before : Option Introduction} {x : Introduction} :
    ∀ steps : List Step, Step.decidingAll name before steps = some x →
      before = some x ∨ x ∈ Step.introductionsAll steps ∧ x.name = name
  | [], h => by
      rw [Step.decidingAll] at h
      exact Or.inl h
  | a :: as, h => by
      rw [Step.decidingAll] at h
      rw [Step.introductionsAll, List.mem_append]
      rcases mem_of_deciding_steps as h with h | ⟨hmem, hname⟩
      · exact (mem_of_deciding_step a h).imp id fun h => ⟨Or.inl h.1, h.2⟩
      · exact Or.inr ⟨Or.inr hmem, hname⟩

end

/-- A deciding introduction is one of the name. -/
theorem mem_of_deciding? {steps : List Step} {x : Introduction}
    (h : deciding? steps name = some x) :
    x ∈ Step.introductionsAll steps ∧ x.name = name :=
  (mem_of_deciding_steps steps h).resolve_left (Option.some_ne_none x).symm

/-! ## Where exported imports decide -/

/-- Where an exported `use` introduces a name, it does so for the path of the deciding
introduction, or another exported `use` does. -/
def ExportedDecide (steps : List Step) : Prop := ∀ name path x, ExportedAs steps name path →
  deciding? steps name = some x → ExportedAs steps name x.path

/-- It is enough that what else introduces the name of an exported `use` has the same path. -/
theorem exportedDecide_of_agree {steps : List Step}
    (h : ∀ x ∈ Step.introductionsAll steps, ∀ y ∈ Step.introductionsAll steps,
      x.exported = true → y.exported = false → x.name = y.name → x.path = y.path) :
    ExportedDecide steps := by
  intro name path x hexported hdeciding
  obtain ⟨hmem, rfl⟩ := mem_of_deciding? hdeciding
  cases hx : x.exported with
  | true =>
      rw [ExportedAs, ← hx]
      exact hmem
  | false =>
      have hpath : path = x.path := h _ hexported x hmem rfl hx rfl
      rw [← hpath]
      exact hexported

end Scope

open Scope (Step ofSteps ExportedAs ExportedDecide)

namespace Registry

/-- A module exports a name by an exported `use` item that leads to what is declared at `target`. -/
def ExportsByUse (r : Registry) (m : ModulePath) (steps : List Step) (name : String)
    (target : List String) : Prop :=
  ∃ path found, ExportedAs steps name path
    ∧ r.resolveImport m path = .crate found ∧ r.canonical found = target

end Registry

section ExportedDecide

variable {steps : List Step} (hdecide : ExportedDecide steps)

include hdecide

theorem Scope.exportedAs_of_mem_exportedImports {e : String × ImportPath}
    (he : e ∈ (ofSteps steps).exportedImports) : ExportedAs steps e.1 e.2 := by
  obtain ⟨⟨path, hexported⟩, x, hdeciding, hpath⟩ := (mem_exportedImports_ofSteps ..).mp he
  rw [← hpath]
  exact hdecide e.1 path x hexported hdeciding

theorem Registry.exportsByUse_of_exportsByImport {r : Registry} {m : ModulePath} {name : String}
    {target : List String} (h : r.ExportsByImport m (ofSteps steps) name target) :
    r.ExportsByUse m steps name target := by
  obtain ⟨hname, path, found, himport, hfound, htarget⟩ := h
  have hmem : (name, path) ∈ (ofSteps steps).exportedImports :=
    (Scope.mem_exportedImports ..).mpr ⟨hname, himport⟩
  exact ⟨path, found, Scope.exportedAs_of_mem_exportedImports hdecide hmem, hfound, htarget⟩

end ExportedDecide

/-! ## The modules of a crate -/

/-- The step in which an item of a module is added to the scope. -/
def Code.Item.step? (m : ModulePath) : Item → Option Step
  | .struct _ _ i .. | .enum _ _ i .. | .union _ _ i .. | .named _ i _ | .module _ _ _ i _ =>
      some (.item i)
  | .use _ vis leading tree => some (.use leading (isCrateVisible vis m) tree)
  | .externCrate _ _ i rename => some (.library i rename)
  | .other _ => none

/-- The steps in which the scope of a module is built: its bodies are joined one by one. -/
def SourceSet.stepsOf (sources : SourceSet) (m : ModulePath) : List Step :=
  (sources.bodies.filter fun body => body.1 = m).map fun body =>
    .joined (body.2.filterMap (·.step? m))

namespace Scope

theorem addTo_eq (m : ModulePath) (i : Item) (s : Scope) :
    i.addTo m s = (i.step? m).elim s fun a => a.apply s := by
  cases i <;> rfl

theorem foldl_addTo_eq (m : ModulePath) (items : List Item) (s : Scope) :
    items.foldl (fun s i => i.addTo m s) s = Step.applyAll s (items.filterMap (·.step? m)) := by
  induction items generalizing s with
  | nil => rfl
  | cons i items ih =>
      rw [List.foldl_cons, ih, addTo_eq]
      cases h : i.step? m <;> simp [h, Step.applyAll]

theorem foldl_merge_eq (m : ModulePath) (bodies : List (ModulePath × List Item)) (s : Scope) :
    (bodies.map fun body => Item.scopeOf m body.2).foldl merge s
      = Step.applyAll s (bodies.map fun body => .joined (body.2.filterMap (·.step? m))) := by
  induction bodies generalizing s with
  | nil => rfl
  | cons body bodies ih =>
      rw [List.map_cons, List.foldl_cons, ih, List.map_cons, Step.applyAll, Step.apply,
        Item.scopeOf, foldl_addTo_eq]

end Scope

namespace Registry

variable {sources : SourceSet}

/-- The scope of a module is built in the steps of its bodies. -/
theorem eq_ofSteps_of_scope? {m : ModulePath} {s : Scope}
    (hs : (ofSources sources).scope? m = some s) : s = ofSteps (sources.stepsOf m) := by
  rw [scope?_ofSources, Option.ite_none_left_eq_some, Option.some.injEq] at hs
  rw [← hs.2, ofSteps, SourceSet.stepsOf, SourceSet.partsOf, Scope.foldl_merge_eq]

/-- If exported imports decide in every module of a crate, then a path that the whole crate can name
an item by is the one it is declared at, or an exported `use` or glob of a visible module leads from
it to the item. -/
theorem canonical_or_exportsByUse_of_visiblePath? {segments path : List String}
    (hdecide : ∀ m, ExportedDecide (sources.stepsOf m))
    (h : (ofSources sources).visiblePath? segments = some path) :
    path = (ofSources sources).canonical segments
      ∨ ∃ m name, path = m.segments ++ [name]
        ∧ (ofSources sources).isPathVisible m.segments = true
        ∧ ((ofSources sources).ExportsByUse m (sources.stepsOf m) name
            ((ofSources sources).canonical segments)
          ∨ ∃ s, (ofSources sources).scope? m = some s
            ∧ (ofSources sources).ExportsByGlob m s name
              ((ofSources sources).canonical segments)) := by
  refine ((ofSources sources).canonical_or_isReexport_of_visiblePath? h).imp And.left ?_
  -- the path is a re-export of a module, and the scope of that is built in its steps
  rintro ⟨⟨m, s⟩, hmem, hvisible, name, hpath, hexports⟩
  have hs : (ofSources sources).scope? m = some s := (scope?_eq_some_iff sources m s).mpr hmem
  refine ⟨m, name, hpath, hvisible, hexports.imp (fun himport => ?_) fun hglob => ⟨s, hs, hglob⟩⟩
  obtain rfl := eq_ofSteps_of_scope? hs
  exact exportsByUse_of_exportsByImport (hdecide m) himport

end Registry

/-! ## The result -/

/-- **Exports carry exported imports as far as these decide.** However a scope is built, every path
that it exports under a name is one that an exported `use` introduced under that name, if and only
if this holds of the paths of the deciding introductions. Then what a module re-exports by an import
is what an exported `use` leads to. -/
theorem Scope.exportedImports_introduced_iff (steps : List Step) :
    ((∀ e ∈ (ofSteps steps).exportedImports, ExportedAs steps e.1 e.2) ↔ ExportedDecide steps)
    ∧ (ExportedDecide steps → ∀ (r : Registry) (m : ModulePath) (name : String)
        (target : List String), r.ExportsByImport m (ofSteps steps) name target →
        r.ExportsByUse m steps name target) := by
  refine ⟨⟨fun h name path x hexported hdeciding => ?_, fun hdecide _ he => ?_⟩, ?_⟩
  · exact h (name, x.path) ((mem_exportedImports_ofSteps steps name x.path).mpr
      ⟨⟨path, hexported⟩, x, hdeciding, rfl⟩)
  · exact exportedAs_of_mem_exportedImports hdecide he
  · exact fun hdecide _ _ _ _ h => Registry.exportsByUse_of_exportsByImport hdecide h

/-! ## Two imports of one name

The module `a` imports the type `T` of its private module `x` for itself, and exports that of its
private module `y` under the same name, say under the opposite condition. -/

/-- The crate with the types of `x` and `y`. -/
def twinSources : SourceSet where
  files := [
    ⟨"src/lib.rs", .root, [], [.outlined .everywhere "a"]⟩,
    ⟨"src/a.rs", ⟨["a"]⟩, [], [.outlined .inherited "x", .outlined .inherited "y",
      .importOf ["self", "x"] "T",
      .use [] .everywhere false (.path ⟨"self", false⟩ (.path ⟨"y", false⟩ (.name ⟨"T", false⟩)))]⟩,
    ⟨"src/a/x.rs", ⟨["a", "x"]⟩, [], [.unitStruct .everywhere "T"]⟩,
    ⟨"src/a/y.rs", ⟨["a", "y"]⟩, [], [.unitStruct .everywhere "T"]⟩]

/-- The type of `x` is offered under the name that is exported for that of `y`. -/
theorem not_exportedAs_twinSources :
    (¬ ∀ steps, ∀ e ∈ (ofSteps steps).exportedImports, ExportedAs steps e.1 e.2)
    ∧ (Registry.ofSources twinSources).visiblePath? ["a", "x", "T"] = some ["a", "T"]
    ∧ (Registry.ofSources twinSources).visiblePath? ["a", "y", "T"] = none := by
  refine ⟨fun h => ?_, rfl, rfl⟩
  have hexported := h (twinSources.stepsOf ⟨["a"]⟩) ("T", ⟨false, ["self", "x", "T"]⟩)
    (by decide +kernel)
  rw [ExportedAs] at hexported
  exact absurd hexported (by decide +kernel)

end BuilderForge
