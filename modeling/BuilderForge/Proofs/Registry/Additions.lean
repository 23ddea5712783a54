import BuilderForge.Proofs.Registry.Building

set_option autoImplicit false

/-! # What is added to a scope

An item adds to a scope in a way that does not depend on what else is in it: some names become
items, some are bound to imports in place of what they were bound to, some are bound if they are
free, and some globs come along. We call this an *addition* and show that every operation on scopes
is one: a single item (`isAddition_addTo`), the items of a body one after the other
(`isAddition_foldl`), and the joining of two parts, whichever of them is seen as given
(`isAddition_merge`, `isAddition_mergeInto`).

Additions keep two scopes apart or alike as they were. That is what the comparison of two crates
rests on that differ in one item.
-/

namespace BuilderForge

open Code (Ident UseTree Item)

namespace Scope

/-! ## Looking up after an addition -/

variable (s t : Scope) (name x : String) (path : ImportPath)

theorem hasLocal_addLocal (i : Ident) :
    (s.addLocal i).hasLocal x = (s.hasLocal x || x == i.name) := by
  rw [Bool.eq_iff_iff, Bool.or_eq_true, hasLocal_iff, hasLocal_iff, beq_iff_eq]
  exact mem_withNew

theorem hasLocal_bind : (s.bind name path).hasLocal x = s.hasLocal x := by
  rw [hasLocal, bind_locals, hasLocal]

/-- A name is only bound if it is free. -/
theorem import?_bind :
    (s.bind name path).import? x = (s.import? x).or (if x = name then some path else none) := by
  unfold bind
  by_cases hbound : (s.import? name).isSome = true
  · rw [if_pos hbound]
    by_cases hx : x = name
    · subst hx
      obtain ⟨old, hold⟩ := Option.isSome_iff_exists.mp hbound
      rw [hold, Option.some_or]
    · rw [if_neg hx, Option.or_none]
  · rw [if_neg hbound]
    show (s.imports ++ [(name, path)]).lookup x = _
    rw [List.lookup_append]
    congr 1
    by_cases hx : x = name
    · simp [hx]
    · simp [hx]

theorem globs_bind : (s.bind name path).globs = s.globs := by
  unfold bind
  split <;> rfl

theorem import?_rebind :
    (s.rebind name path).import? x = (if x = name then some path else none).or (s.import? x) := by
  unfold rebind
  by_cases hbound : (s.import? name).isSome = true
  · rw [if_pos hbound]
    have hreplace : (s.imports.map fun e => if e.1 == name then (name, path) else e)
        = s.imports.map fun e => if e.1 = name then (e.1, path) else e := by
      refine List.map_congr_left fun e _ => ?_
      by_cases he : e.1 = name <;> simp [he]
    have hupdate := Registry.lookup_map_update name x (fun _ => path) s.imports
    show (s.imports.map _).lookup x = _
    rw [hreplace, hupdate]
    by_cases hx : x = name
    · obtain ⟨old, hold⟩ := Option.isSome_iff_exists.mp hbound
      rw [if_pos hx, if_pos hx, show s.imports.lookup name = some old from hold]
      rfl
    · rw [if_neg hx, if_neg hx, Option.none_or]
      rfl
  · rw [if_neg hbound]
    show (s.imports ++ [(name, path)]).lookup x = _
    rw [List.lookup_append]
    by_cases hx : x = name
    · subst hx
      have hfree : s.import? x = none := by simpa using hbound
      rw [show s.imports.lookup x = none from hfree]
      simp
    · simp only [hx, if_false, Option.none_or, List.lookup_cons, beq_eq_false_iff_ne.mpr hx,
        List.lookup_nil, Option.or_none]
      rfl

theorem import?_foldl_bind (imports : List (String × ImportPath)) :
    (imports.foldl (fun s e => s.bind e.1 e.2) s).import? x
      = (s.import? x).or (imports.lookup x) := by
  induction imports generalizing s with
  | nil => rw [List.foldl_nil, List.lookup_nil, Option.or_none]
  | cons e imports ih =>
      rw [List.foldl_cons, ih, import?_bind, Option.or_assoc, List.lookup_cons]
      congr 1
      by_cases hx : x = e.1
      · simp [hx]
      · simp [hx, beq_eq_false_iff_ne.mpr hx]

theorem globs_foldl_bind (imports : List (String × ImportPath)) :
    (imports.foldl (fun s e => s.bind e.1 e.2) s).globs = s.globs := by
  induction imports generalizing s with
  | nil => rfl
  | cons e imports ih => rw [List.foldl_cons, ih, globs_bind]

/-- Of two parts of a scope the first one decides on an import. -/
theorem import?_merge : (s.merge t).import? x = (s.import? x).or (t.import? x) := by
  exact import?_foldl_bind s x t.imports

theorem hasLocal_merge_eq : (s.merge t).hasLocal x = (s.hasLocal x || t.hasLocal x) := by
  rw [Bool.eq_iff_iff, Bool.or_eq_true]
  exact hasLocal_merge s t x

theorem globs_merge : (s.merge t).globs = s.globs ++ t.globs := by
  show (t.imports.foldl (fun s e => s.bind e.1 e.2) s).globs ++ t.globs = _
  rw [globs_foldl_bind]

/-! ## Additions -/

/-- What an operation adds to a scope. -/
structure Addition where
  /-- The names that become items. -/
  items : String → Bool := fun _ => false
  /-- The imports of names whether they are bound or not. -/
  replacing : String → Option ImportPath := fun _ => none
  /-- The imports of names that are free. -/
  filling : String → Option ImportPath := fun _ => none
  /-- The globs that come before those of the scope. -/
  before : List ImportPath := []
  /-- The globs that come after those of the scope. -/
  after : List ImportPath := []

/-- What two operations add one after the other. -/
def Addition.then (a b : Addition) : Addition where
  items := fun x => a.items x || b.items x
  replacing := fun x => (b.replacing x).or (a.replacing x)
  filling := fun x => (a.filling x).or (b.filling x)
  before := b.before ++ a.before
  after := a.after ++ b.after

/-- The operation adds this to every scope. -/
structure Addition.IsOf (a : Addition) (f : Scope → Scope) : Prop where
  ofItems : ∀ s x, (f s).hasLocal x = (s.hasLocal x || a.items x)
  ofImports : ∀ s x, (f s).import? x = (a.replacing x).or ((s.import? x).or (a.filling x))
  ofGlobs : ∀ s, (f s).globs = a.before ++ s.globs ++ a.after

/-- What the operation adds does not depend on the scope. -/
def IsAddition (f : Scope → Scope) : Prop := ∃ a : Addition, a.IsOf f

variable {f g : Scope → Scope}

/-- An operation that leaves alone what names are looked up in. -/
theorem isAddition_of_same (hitems : ∀ s x, (f s).hasLocal x = s.hasLocal x)
    (himports : ∀ s x, (f s).import? x = s.import? x) (hglobs : ∀ s, (f s).globs = s.globs) :
    IsAddition f := by
  refine ⟨{}, fun s x => ?_, fun s x => ?_, fun s => ?_⟩
  · rw [hitems, Bool.or_false]
  · rw [himports, Option.none_or, Option.or_none]
  · rw [hglobs, List.nil_append, List.append_nil]

theorem isAddition_id : IsAddition fun s => s :=
  isAddition_of_same (fun _ _ => rfl) (fun _ _ => rfl) (fun _ => rfl)

/-- One addition after the other is an addition. -/
theorem IsAddition.comp (hg : IsAddition g) (hf : IsAddition f) : IsAddition fun s => g (f s) := by
  obtain ⟨a, ha⟩ := hf
  obtain ⟨b, hb⟩ := hg
  refine ⟨a.then b, ?_, ?_, ?_⟩
  · intro s x
    rw [hb.ofItems, ha.ofItems, Bool.or_assoc, Addition.then]
  · intro s x
    rw [hb.ofImports, ha.ofImports]
    simp only [Addition.then, Option.or_assoc]
  · intro s
    rw [hb.ofGlobs, ha.ofGlobs]
    simp only [Addition.then, List.append_assoc]

theorem isAddition_foldl {α : Type} {op : α → Scope → Scope} (l : List α)
    (h : ∀ a ∈ l, IsAddition (op a)) : IsAddition fun s => l.foldl (fun s a => op a s) s := by
  induction l with
  | nil => exact isAddition_id
  | cons a l ih =>
      have hrest : IsAddition fun s => l.foldl (fun s a => op a s) s :=
        ih fun b hb => h b (List.mem_cons_of_mem _ hb)
      exact hrest.comp (h a List.mem_cons_self)

theorem isAddition_addLocal (i : Ident) : IsAddition fun s => s.addLocal i := by
  refine ⟨{ items := fun x => x == i.name }, fun s x => hasLocal_addLocal s x i,
    fun s x => ?_, fun s => ?_⟩
  · rw [Option.none_or, Option.or_none]
    rfl
  · rw [List.nil_append, List.append_nil]
    rfl

theorem isAddition_bind : IsAddition fun s => s.bind name path := by
  refine ⟨{ filling := fun x => if x = name then some path else none },
    fun s x => ?_, fun s x => ?_, fun s => ?_⟩
  · rw [hasLocal_bind, Bool.or_false]
  · rw [import?_bind, Option.none_or]
  · rw [globs_bind, List.nil_append, List.append_nil]

theorem isAddition_rebind : IsAddition fun s => s.rebind name path := by
  refine ⟨{ replacing := fun x => if x = name then some path else none },
    fun s x => ?_, fun s x => ?_, fun s => ?_⟩
  · rw [Bool.or_false]
    unfold rebind
    split <;> rfl
  · rw [import?_rebind, Option.or_none]
  · rw [List.nil_append, List.append_nil]
    unfold rebind
    split <;> rfl

theorem isAddition_addGlob (exported : Bool) : IsAddition fun s => s.addGlob exported path := by
  refine ⟨{ after := [path] }, fun s x => ?_, fun s x => ?_, fun s => ?_⟩
  · rw [Bool.or_false]
    rfl
  · rw [Option.none_or, Option.or_none]
    rfl
  · rw [List.nil_append]
    rfl

/-- Joining a given part to a scope. -/
theorem isAddition_merge : IsAddition fun s => s.merge t := by
  refine ⟨{ items := t.hasLocal, filling := t.import?, after := t.globs },
    fun s x => hasLocal_merge_eq s t x, fun s x => ?_, fun s => ?_⟩
  · rw [import?_merge, Option.none_or]
  · rw [globs_merge, List.nil_append]

/-- Joining a scope to a given part. -/
theorem isAddition_mergeInto : IsAddition fun t => s.merge t := by
  refine ⟨{ items := s.hasLocal, replacing := s.import?, before := s.globs },
    fun t x => ?_, fun t x => ?_, fun t => ?_⟩
  · rw [hasLocal_merge_eq, Bool.or_comm]
  · rw [import?_merge, Option.or_none]
  · rw [globs_merge, List.append_nil]

/-! ## Items are additions -/

theorem isAddition_addLeaf (leading exported : Bool) (above : List String) (i : Ident)
    (rename : Option Ident) : IsAddition fun s => s.addLeaf leading exported above i rename := by
  unfold addLeaf
  cases boundName? above i rename with
  | none => exact isAddition_id
  | some name =>
      have hexports : IsAddition fun s : Scope =>
          if exported then { s with exports := withNew s.exports name } else s := by
        cases exported with
        | false => exact isAddition_id
        | true => exact isAddition_of_same (fun _ _ => rfl) (fun _ _ => rfl) (fun _ => rfl)
      exact (isAddition_bind name _).comp hexports

mutual

theorem isAddition_addTree (leading exported : Bool) (above : List String) :
    ∀ t : UseTree, IsAddition fun s => s.addTree leading exported above t
  | .path i rest => by
      simp only [addTree]
      exact isAddition_addTree leading exported (above ++ [i.name]) rest
  | .name i => by
      simp only [addTree]
      exact isAddition_addLeaf leading exported above i none
  | .rename i j => by
      simp only [addTree]
      exact isAddition_addLeaf leading exported above i (some j)
  | .glob => by
      simp only [addTree]
      exact isAddition_addGlob _ exported
  | .group ts _ => by
      simp only [addTree]
      exact isAddition_addTrees leading exported above ts

theorem isAddition_addTrees (leading exported : Bool) (above : List String) :
    ∀ ts : List UseTree, IsAddition fun s => s.addTrees leading exported above ts
  | [] => isAddition_id
  | t :: ts => by
      simp only [addTrees]
      exact (isAddition_addTrees leading exported above ts).comp
        (isAddition_addTree leading exported above t)

end

theorem isAddition_addExternCrate (i : Ident) (rename : Option Ident) :
    IsAddition fun s => s.addExternCrate i rename := by
  unfold addExternCrate
  dsimp only
  split
  · exact isAddition_id
  · exact isAddition_rebind _ _

end Scope

namespace Code.Item

/-- The scope of a module with one more item. -/
def addTo (m : ModulePath) (i : Item) (s : Scope) : Scope := (Registry.addItem m ({}, s) i).2

/-- The scope that the items of a module make up. -/
def scopeOf (m : ModulePath) (items : List Item) : Scope :=
  items.foldl (fun s i => i.addTo m s) {}

theorem isAddition_addTo (m : ModulePath) (i : Item) : Scope.IsAddition (i.addTo m) := by
  unfold addTo
  cases i with
  | struct | enum | union | named | module => exact Scope.isAddition_addLocal _
  | use _ vis leading tree =>
      simp only [Registry.addItem, Scope.addUse_eq]
      exact Scope.isAddition_addTree leading _ [] tree
  | externCrate _ _ i rename => exact Scope.isAddition_addExternCrate i rename
  | other => exact Scope.isAddition_id

/-- What an item adds to the scope does not depend on the registry. -/
theorem addItem_snd (m : ModulePath) (acc : Registry × Scope) (i : Item) :
    (Registry.addItem m acc i).2 = i.addTo m acc.2 := by
  cases i <;> rfl

theorem foldl_addItem_snd (m : ModulePath) (items : List Item) (acc : Registry × Scope) :
    (items.foldl (Registry.addItem m) acc).2 = items.foldl (fun s i => i.addTo m s) acc.2 := by
  induction items generalizing acc with
  | nil => rfl
  | cons i items ih => rw [List.foldl_cons, List.foldl_cons, ih, addItem_snd]

end Code.Item

namespace Registry

/-- The scope of a module after a body is added. -/
theorem scope?_addBody (r : Registry) (body : ModulePath × List Item) (k : ModulePath) :
    (r.addBody body).scope? k = if k = body.1 then
      some (((r.scope? k).getD {}).merge (Item.scopeOf body.1 body.2)) else r.scope? k := by
  have hscopes : ∀ k, (body.2.foldl (addItem body.1) (r, {})).1.scope? k = r.scope? k := by
    intro k
    rw [scope?, foldl_addItem_scopes, scope?]
  rw [addBody, addItems, scope?_addScope, hscopes, hscopes, Item.foldl_addItem_snd]
  by_cases hk : k = body.1
  · rw [if_pos hk, if_pos hk, hk]
    rfl
  · rw [if_neg hk, if_neg hk]

end Registry

end BuilderForge
