import BuilderForge.Proofs.Registry.Additions

set_option autoImplicit false

/-! # What a scope exports

Besides what names are looked up in, an item adds to what the scope exports, and this does not
depend on the scope either: some names come behind those that are exported, unless they are among
them, and some globs (`isExporting_addTo`).
-/

namespace BuilderForge

open Code (Ident UseTree Item)

namespace Scope

/-! ## Operations that export something -/

/-- The operation exports these names and these globs, whatever the scope is. -/
structure ExportsOf (f : Scope → Scope) (names : List String) (globs : List ImportPath) : Prop where
  ofNames : ∀ s, (f s).exports = names.foldl withNew s.exports
  ofGlobs : ∀ s, (f s).exportedGlobs = s.exportedGlobs ++ globs

/-- What the operation exports does not depend on the scope. -/
def IsExporting (f : Scope → Scope) : Prop := ∃ names globs, ExportsOf f names globs

variable {f g : Scope → Scope}

/-- An operation that exports nothing. -/
theorem isExporting_of_same (hexports : ∀ s, (f s).exports = s.exports)
    (hexported : ∀ s, (f s).exportedGlobs = s.exportedGlobs) : IsExporting f := by
  refine ⟨[], [], hexports, fun s => ?_⟩
  rw [hexported, List.append_nil]

theorem isExporting_id : IsExporting fun s => s :=
  isExporting_of_same (fun _ => rfl) fun _ => rfl

theorem IsExporting.comp (hg : IsExporting g) (hf : IsExporting f) :
    IsExporting fun s => g (f s) := by
  obtain ⟨names, globs, hf⟩ := hf
  obtain ⟨more, moreGlobs, hg⟩ := hg
  refine ⟨names ++ more, globs ++ moreGlobs, ?_, ?_⟩
  · intro s
    rw [hg.ofNames, hf.ofNames, List.foldl_append]
  · intro s
    rw [hg.ofGlobs, hf.ofGlobs, List.append_assoc]

/-! ## Items -/

variable (s : Scope) (name : String) (path : ImportPath)

theorem exports_bind : (s.bind name path).exports = s.exports := by
  unfold bind
  split <;> rfl

theorem exportedGlobs_bind : (s.bind name path).exportedGlobs = s.exportedGlobs := by
  unfold bind
  split <;> rfl

theorem isExporting_bind : IsExporting fun s => s.bind name path :=
  isExporting_of_same (fun s => exports_bind s name path) fun s => exportedGlobs_bind s name path

theorem isExporting_rebind : IsExporting fun s => s.rebind name path := by
  refine isExporting_of_same (fun s => ?_) fun s => ?_
  all_goals
    unfold rebind
    split <;> rfl

theorem isExporting_addLocal (i : Ident) : IsExporting fun s => s.addLocal i :=
  isExporting_of_same (fun _ => rfl) fun _ => rfl

theorem isExporting_addGlob (exported : Bool) :
    IsExporting fun s => s.addGlob exported path := by
  cases exported with
  | false => exact isExporting_of_same (fun _ => rfl) fun _ => rfl
  | true => exact ⟨[], [path], fun _ => rfl, fun _ => rfl⟩

theorem isExporting_addLeaf (leading exported : Bool) (above : List String) (i : Ident)
    (rename : Option Ident) : IsExporting fun s => s.addLeaf leading exported above i rename := by
  unfold addLeaf
  cases boundName? above i rename with
  | none => exact isExporting_id
  | some name =>
      have hexports : IsExporting fun s : Scope =>
          if exported then { s with exports := withNew s.exports name } else s := by
        cases exported with
        | false => exact isExporting_id
        | true => exact ⟨[name], [], fun _ => rfl, fun s => (List.append_nil _).symm⟩
      exact (isExporting_bind name _).comp hexports

mutual

theorem isExporting_addTree (leading exported : Bool) (above : List String) :
    ∀ t : UseTree, IsExporting fun s => s.addTree leading exported above t
  | .path i rest => by
      simp only [addTree]
      exact isExporting_addTree leading exported (above ++ [i.name]) rest
  | .name i => by
      simp only [addTree]
      exact isExporting_addLeaf leading exported above i none
  | .rename i j => by
      simp only [addTree]
      exact isExporting_addLeaf leading exported above i (some j)
  | .glob => by
      simp only [addTree]
      exact isExporting_addGlob _ exported
  | .group ts _ => by
      simp only [addTree]
      exact isExporting_addTrees leading exported above ts

theorem isExporting_addTrees (leading exported : Bool) (above : List String) :
    ∀ ts : List UseTree, IsExporting fun s => s.addTrees leading exported above ts
  | [] => isExporting_id
  | t :: ts => by
      simp only [addTrees]
      exact (isExporting_addTrees leading exported above ts).comp
        (isExporting_addTree leading exported above t)

end

theorem isExporting_addTo (m : ModulePath) (i : Item) : IsExporting (i.addTo m) := by
  unfold Item.addTo
  cases i with
  | struct | enum | union | named | module => exact isExporting_addLocal _
  | use _ vis leading tree =>
      simp only [Registry.addItem, addUse_eq]
      exact isExporting_addTree leading _ [] tree
  | externCrate _ _ i rename =>
      simp only [Registry.addItem, addExternCrate]
      split
      · exact isExporting_id
      · exact isExporting_rebind _ _
  | other => exact isExporting_id

/-! ## Joining -/

variable (t : Scope)

theorem exports_foldl_bind (imports : List (String × ImportPath)) :
    (imports.foldl (fun s e => s.bind e.1 e.2) s).exports = s.exports := by
  induction imports generalizing s with
  | nil => rfl
  | cons e imports ih => rw [List.foldl_cons, ih, exports_bind]

theorem exportedGlobs_foldl_bind (imports : List (String × ImportPath)) :
    (imports.foldl (fun s e => s.bind e.1 e.2) s).exportedGlobs = s.exportedGlobs := by
  induction imports generalizing s with
  | nil => rfl
  | cons e imports ih => rw [List.foldl_cons, ih, exportedGlobs_bind]

theorem exports_merge : (s.merge t).exports = t.exports.foldl withNew s.exports := by
  show t.exports.foldl withNew (t.imports.foldl (fun s e => s.bind e.1 e.2) s).exports = _
  rw [exports_foldl_bind]

theorem exportedGlobs_merge : (s.merge t).exportedGlobs = s.exportedGlobs ++ t.exportedGlobs := by
  show (t.imports.foldl (fun s e => s.bind e.1 e.2) s).exportedGlobs ++ t.exportedGlobs = _
  rw [exportedGlobs_foldl_bind]

end Scope

end BuilderForge
