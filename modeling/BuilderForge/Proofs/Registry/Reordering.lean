import BuilderForge.Proofs.Registry.Exports
import Mathlib.Data.List.Forall2

set_option autoImplicit false

/-! # Items in another order

The `use` items of a module can be put in another order. If no two items import one name, what the
module has stays the same, and what it lists, its globs and what it exports, is the same in another
order (`reorders_of_reordersUses`). Two neighbouring items may be swapped because what they add does
not depend on the scope (`reorders_swap`), and whatever is added to both scopes leaves one a
reordering of the other (`Reorders.apply`).
-/

namespace BuilderForge

open Code (Item)

namespace Scope

/-! ## Lists without duplicates -/

section WithNew

variable {α : Type} [BEq α] {l l' new new' : List α}

theorem perm_withNew (h : l.Perm l') (a : α) : (withNew l a).Perm (withNew l' a) := by
  unfold withNew
  rw [h.contains_eq]
  split
  · exact h
  · exact h.append_right [a]

variable [LawfulBEq α]

theorem perm_withNew_swap (l : List α) (a b : α) :
    (withNew (withNew l a) b).Perm (withNew (withNew l b) a) := by
  by_cases hab : a = b
  · rw [hab]
  · simp only [withNew]
    by_cases ha : a ∈ l <;> by_cases hb : b ∈ l <;>
      simp [ha, hb, hab, Ne.symm hab, List.Perm.append_left l (List.Perm.swap b a [])]

/-- The order of what is added to a list does not matter, up to the order in the list. -/
theorem perm_foldl_withNew (hnew : new.Perm new') (h : l.Perm l') :
    (new.foldl withNew l).Perm (new'.foldl withNew l') := by
  -- the two lists in front differ in their order only, from the first swap on
  induction hnew generalizing l l' with
  | nil => exact h
  | cons a _ ih => exact ih (perm_withNew h a)
  | swap a b new =>
      have hswap : (withNew (withNew l b) a).Perm (withNew (withNew l' a) b) :=
        (perm_withNew (perm_withNew h b) a).trans (perm_withNew_swap l' b a)
      exact List.foldl_rel (r := List.Perm) hswap fun c _ _ _ hc => perm_withNew hc c
  | trans _ _ ih ih' => exact (ih h).trans (ih' (List.Perm.refl l'))

end WithNew

/-! ## Scopes that list the same in another order -/

/-- Both scopes have the same items and imports; their globs and exports may stand in another
order. -/
structure Reorders (s s' : Scope) : Prop where
  items : ∀ x, s'.hasLocal x = s.hasLocal x
  imports : ∀ x, s'.import? x = s.import? x
  globs : s.globs.Perm s'.globs
  exports : s.exports.Perm s'.exports
  exportedGlobs : s.exportedGlobs.Perm s'.exportedGlobs

variable {s s' t t' u : Scope} {f g : Scope → Scope}

theorem Reorders.refl (s : Scope) : s.Reorders s :=
  ⟨fun _ => rfl, fun _ => rfl, .refl _, .refl _, .refl _⟩

theorem Reorders.trans (h : s.Reorders t) (h' : t.Reorders u) : s.Reorders u where
  items x := (h'.items x).trans (h.items x)
  imports x := (h'.imports x).trans (h.imports x)
  globs := h.globs.trans h'.globs
  exports := h.exports.trans h'.exports
  exportedGlobs := h.exportedGlobs.trans h'.exportedGlobs

/-- The same addition to both scopes. -/
theorem Reorders.apply (h : s.Reorders s') (hf : IsAddition f) (hexports : IsExporting f) :
    (f s).Reorders (f s') := by
  obtain ⟨a, ha⟩ := hf
  obtain ⟨names, globs, hexports⟩ := hexports
  refine ⟨fun x => ?_, fun x => ?_, ?_, ?_, ?_⟩
  · rw [ha.ofItems, ha.ofItems, h.items]
  · rw [ha.ofImports, ha.ofImports, h.imports]
  · rw [ha.ofGlobs, ha.ofGlobs]
    exact (h.globs.append_left a.before).append_right a.after
  · rw [hexports.ofNames, hexports.ofNames]
    exact perm_foldl_withNew (.refl _) h.exports
  · rw [hexports.ofGlobs, hexports.ofGlobs]
    exact h.exportedGlobs.append_right globs

/-- Two parts of a scope, each in another order. -/
theorem Reorders.merge (hs : s.Reorders s') (ht : t.Reorders t') :
    (s.merge t).Reorders (s'.merge t') := by
  refine ⟨fun x => ?_, fun x => ?_, ?_, ?_, ?_⟩
  · rw [hasLocal_merge_eq, hasLocal_merge_eq, hs.items, ht.items]
  · rw [import?_merge, import?_merge, hs.imports, ht.imports]
  · rw [globs_merge, globs_merge]
    exact hs.globs.append ht.globs
  · rw [exports_merge, exports_merge]
    exact perm_foldl_withNew ht.exports hs.exports
  · rw [exportedGlobs_merge, exportedGlobs_merge]
    exact hs.exportedGlobs.append ht.exportedGlobs

end Scope

namespace Code.Item

/-! ## Items that import different names -/

variable {m : ModulePath} {i j : Item} {items items' : List Item} {s s' : Scope}

/-- The item binds the name to an import. -/
def Imports (m : ModulePath) (i : Item) (name : String) : Prop :=
  ((i.addTo m {}).import? name).isSome = true

/-- No name is imported by both items. -/
def ImportsApart (m : ModulePath) (i j : Item) : Prop :=
  ∀ name, ¬ (i.Imports m name ∧ j.Imports m name)

theorem ImportsApart.symm (h : ImportsApart m i j) : ImportsApart m j i :=
  fun name hboth => h name hboth.symm

/-- An item that imports nothing under a name adds nothing to the imports of the name. -/
theorem replacing_filling_of_not_imports {a : Scope.Addition} (ha : a.IsOf (i.addTo m))
    {name : String} (h : ¬ i.Imports m name) : a.replacing name = none ∧ a.filling name = none := by
  have hnone : (i.addTo m {}).import? name = none := by
    rw [← Option.not_isSome_iff_eq_none]
    exact h
  rw [ha.ofImports, Option.or_eq_none_iff, Option.or_eq_none_iff] at hnone
  exact ⟨hnone.1, hnone.2.2⟩

/-- Two neighbouring items may be swapped. -/
theorem reorders_swap (h : ImportsApart m i j) (s : Scope) :
    (j.addTo m (i.addTo m s)).Reorders (i.addTo m (j.addTo m s)) := by
  obtain ⟨a, ha⟩ := isAddition_addTo m i
  obtain ⟨b, hb⟩ := isAddition_addTo m j
  obtain ⟨names, globs, hi⟩ := Scope.isExporting_addTo m i
  obtain ⟨names', globs', hj⟩ := Scope.isExporting_addTo m j
  refine ⟨fun x => ?_, fun x => ?_, ?_, ?_, ?_⟩
  · rw [hb.ofItems, ha.ofItems, ha.ofItems, hb.ofItems, Bool.or_right_comm]
  · rw [hb.ofImports, ha.ofImports, ha.ofImports, hb.ofImports]
    -- one of the items has nothing to do with the name
    by_cases himports : i.Imports m x
    · have hother : ¬ j.Imports m x := fun hx => h x ⟨himports, hx⟩
      obtain ⟨hreplacing, hfilling⟩ := replacing_filling_of_not_imports hb hother
      simp only [hreplacing, hfilling, Option.none_or, Option.or_none]
    · obtain ⟨hreplacing, hfilling⟩ := replacing_filling_of_not_imports ha himports
      simp only [hreplacing, hfilling, Option.none_or, Option.or_none]
  · rw [hb.ofGlobs, ha.ofGlobs, ha.ofGlobs, hb.ofGlobs, List.perm_iff_count]
    intro glob
    simp only [List.count_append]
    omega
  · rw [hj.ofNames, hi.ofNames, hi.ofNames, hj.ofNames, ← List.foldl_append, ← List.foldl_append]
    exact Scope.perm_foldl_withNew List.perm_append_comm (.refl _)
  · rw [hj.ofGlobs, hi.ofGlobs, hi.ofGlobs, hj.ofGlobs, List.append_assoc, List.append_assoc]
    exact List.perm_append_comm.append_left s.exportedGlobs

/-- The items of a module in another order. -/
theorem reorders_foldl (h : items.Perm items') (hapart : items.Pairwise (ImportsApart m))
    (hs : s.Reorders s') : (items.foldl (fun s i => i.addTo m s) s).Reorders
      (items'.foldl (fun s i => i.addTo m s) s') := by
  have hstep : ∀ (i : Item) (t t' : Scope), t.Reorders t' → (i.addTo m t).Reorders (i.addTo m t') :=
    fun i _ _ ht => ht.apply (isAddition_addTo m i) (Scope.isExporting_addTo m i)
  induction h generalizing s s' with
  | nil => exact hs
  | cons i _ ih => exact ih hapart.of_cons (hstep i _ _ hs)
  | swap i j items =>
      have hij : ImportsApart m j i := List.rel_of_pairwise_cons hapart List.mem_cons_self
      have hswap : (i.addTo m (j.addTo m s)).Reorders (j.addTo m (i.addTo m s')) :=
        (reorders_swap hij s).trans (hstep j _ _ (hstep i _ _ hs))
      exact List.foldl_rel (r := Scope.Reorders) hswap fun k _ _ _ ht => hstep k _ _ ht
  | trans h _ ih ih' =>
      have hmiddle := h.pairwise hapart ImportsApart.symm
      exact (ih hapart hs).trans (ih' hmiddle (.refl s'))

/-! ## What items add to the registry -/

def isUse : Item → Bool
  | .use .. => true
  | _ => false

/-- The registry with one more item, without its scope. -/
def register (m : ModulePath) (r : Registry) (i : Item) : Registry :=
  (Registry.addItem m (r, {}) i).1

theorem foldl_addItem_fst (m : ModulePath) (items : List Item) (acc : Registry × Scope) :
    (items.foldl (Registry.addItem m) acc).1 = items.foldl (register m) acc.1 := by
  have hstep : ∀ (acc : Registry × Scope) (i : Item),
      (Registry.addItem m acc i).1 = register m acc.1 i := fun acc i => by cases i <;> rfl
  induction items generalizing acc with
  | nil => rfl
  | cons i items ih => rw [List.foldl_cons, List.foldl_cons, ih, hstep]

/-- Imports add nothing to the registry. -/
theorem foldl_register_filter (m : ModulePath) (items : List Item) (r : Registry) :
    (items.filter fun i => !i.isUse).foldl (register m) r = items.foldl (register m) r := by
  rw [List.foldl_filter]
  congr 1
  funext r i
  cases i <;> rfl

end Code.Item

open Code.Item (ImportsApart)

/-! ## Crates with reordered imports -/

/-- The crate `sources'` is `sources` with the `use` items of a module in another order. No two items
of the module import one name, and all its other items stand in their order. -/
def SourceSet.ReordersUses (sources sources' : SourceSet) : Prop :=
  ∃ front m items items' back,
    sources.bodies = front ++ (m, items) :: back ∧ sources'.bodies = front ++ (m, items') :: back
      ∧ items.Perm items' ∧ items.Pairwise (ImportsApart m)
      ∧ (items.filter fun i => !i.isUse) = items'.filter fun i => !i.isUse

namespace Registry

/-- Both crates have the same types and the same items that can be named from everywhere; their
modules are the same up to the order of globs and exports. -/
structure Reorders (r r' : Registry) : Prop where
  types : r'.types = r.types
  visible : r'.visible = r.visible
  scopes : List.Forall₂ (fun e e' => e.1 = e'.1 ∧ e.2.Reorders e'.2) r.scopes r'.scopes

variable {r r' : Registry} {m : ModulePath} {items items' : List Item}

theorem Reorders.refl (r : Registry) : r.Reorders r :=
  ⟨rfl, rfl, List.forall₂_same.mpr fun e _ => ⟨rfl, .refl e.2⟩⟩

/-- A module has a scope in both crates or in none. -/
theorem Reorders.scope (h : r.Reorders r') (m : ModulePath) :
    r.scope? m = none ∧ r'.scope? m = none
      ∨ ∃ s s', r.scope? m = some s ∧ r'.scope? m = some s' ∧ s.Reorders s' := by
  have hlookup : ∀ {l l' : List (ModulePath × Scope)},
      List.Forall₂ (fun e e' => e.1 = e'.1 ∧ e.2.Reorders e'.2) l l' →
      l.lookup m = none ∧ l'.lookup m = none
        ∨ ∃ s s', l.lookup m = some s ∧ l'.lookup m = some s' ∧ s.Reorders s' := by
    intro l l' hl
    induction hl with
    | nil => exact Or.inl ⟨rfl, rfl⟩
    | @cons e e' _ _ he _ ih =>
        rw [List.lookup_cons, List.lookup_cons, ← he.1]
        cases m == e.1 with
        | true => exact Or.inr ⟨e.2, e'.2, rfl, rfl, he.2⟩
        | false => exact ih
  exact hlookup h.scopes

theorem scopes_addScope (r : Registry) (m : ModulePath) (s : Scope) :
    (r.addScope m s).scopes = if (r.scope? m).isSome then
      r.scopes.map fun e => if e.1 = m then (e.1, e.2.merge s) else e
    else r.scopes ++ [(m, Scope.merge {} s)] := by
  unfold addScope
  cases r.scope? m <;> rfl

theorem addScope_visible (r : Registry) (m : ModulePath) (s : Scope) :
    (r.addScope m s).visible = r.visible := by
  unfold addScope
  split <;> rfl

theorem insert_visible (r : Registry) (d : Declaration) : (r.insert d).visible = r.visible := by
  unfold insert
  split <;> rfl

theorem noteVisibility_visible (r : Registry) (m : ModulePath) (i : Code.Ident)
    (vis : Code.Visibility) : (r.noteVisibility m i vis).visible
      = if (r.visible.lookup (m.itemPath i.name)).isSome then r.visible
        else r.visible ++ [(m.itemPath i.name, isCrateVisible vis m)] := by
  simp only [noteVisibility]
  split <;> rfl

theorem noteVisibility_congr (hvisible : r'.visible = r.visible) (i : Code.Ident)
    (vis : Code.Visibility) :
    (r'.noteVisibility m i vis).visible = (r.noteVisibility m i vis).visible := by
  rw [noteVisibility_visible, noteVisibility_visible, hvisible]

/-- Which types an item adds, and what it notes about their visibility, is up to those that are
there. -/
theorem register_congr (htypes : r'.types = r.types) (hvisible : r'.visible = r.visible) (i : Item) :
    (i.register m r').types = (i.register m r).types
      ∧ (i.register m r').visible = (i.register m r).visible := by
  have htyped : ∀ (r r' : Registry), r'.types = r.types → r'.visible = r.visible →
      ∀ (d : Declaration) (i : Code.Ident) (vis : Code.Visibility),
        ((r'.noteVisibility m i vis).insert d).types = ((r.noteVisibility m i vis).insert d).types
          ∧ ((r'.noteVisibility m i vis).insert d).visible
            = ((r.noteVisibility m i vis).insert d).visible := by
    intro r r' htypes hvisible d i vis
    rw [insert_visible, insert_visible]
    refine ⟨insert_congr ?_ d, noteVisibility_congr hvisible i vis⟩
    rw [noteVisibility_types, noteVisibility_types, htypes]
  have huntyped : ∀ (i : Code.Ident) (vis : Code.Visibility),
      (r'.noteVisibility m i vis).types = (r.noteVisibility m i vis).types
        ∧ (r'.noteVisibility m i vis).visible = (r.noteVisibility m i vis).visible := by
    intro i vis
    rw [noteVisibility_types, noteVisibility_types]
    exact ⟨htypes, noteVisibility_congr hvisible i vis⟩
  cases i with
  | struct attrs vis i span g fields =>
      have hremarks : ∀ remarks : List Diagnostic,
          { r' with diagnostics := r'.diagnostics ++ remarks }.types
            = { r with diagnostics := r.diagnostics ++ remarks }.types := fun _ => htypes
      exact htyped _ _ (hremarks (Declaration.ofStruct m i attrs (!g.isEmpty) fields).2) hvisible _
        i vis
  | enum attrs vis i span g variants => exact htyped _ _ htypes hvisible _ i vis
  | union attrs vis i span g fields => exact htyped _ _ htypes hvisible _ i vis
  | named vis i tree => exact huntyped i vis
  | module attrs vis isUnsafe i content => exact huntyped i vis
  | use | externCrate | other => exact ⟨htypes, hvisible⟩

theorem foldl_register_congr (items : List Item) (htypes : r'.types = r.types)
    (hvisible : r'.visible = r.visible) :
    (items.foldl (Item.register m) r').types = (items.foldl (Item.register m) r).types
      ∧ (items.foldl (Item.register m) r').visible
        = (items.foldl (Item.register m) r).visible := by
  induction items generalizing r r' with
  | nil => exact ⟨htypes, hvisible⟩
  | cons i items ih =>
      exact ih (register_congr htypes hvisible i).1 (register_congr htypes hvisible i).2

/-- A body of a module in both crates. -/
theorem Reorders.addBody (h : r.Reorders r')
    (hothers : (items.filter fun i => !i.isUse) = items'.filter fun i => !i.isUse)
    (hscope : (Item.scopeOf m items).Reorders (Item.scopeOf m items')) :
    (r.addBody (m, items)).Reorders (r'.addBody (m, items')) := by
  have hregistered := foldl_register_congr (m := m) (items'.filter fun i => !i.isUse) h.types
    h.visible
  rw [Item.foldl_register_filter, ← hothers, Item.foldl_register_filter] at hregistered
  refine ⟨?_, ?_, ?_⟩
  · rw [Registry.addBody, Registry.addBody, addItems, addItems, addScope_types, addScope_types,
      Item.foldl_addItem_fst, Item.foldl_addItem_fst]
    exact hregistered.1
  · rw [Registry.addBody, Registry.addBody, addItems, addItems, addScope_visible, addScope_visible,
      Item.foldl_addItem_fst, Item.foldl_addItem_fst]
    exact hregistered.2
  · have hscopes : ∀ (r : Registry) (items : List Item),
        (r.addBody (m, items)).scopes = (r.addScope m (Item.scopeOf m items)).scopes := by
      intro r items
      have hsame : (items.foldl (addItem m) (r, {})).1.scope? m = r.scope? m := by
        rw [scope?, foldl_addItem_scopes, scope?]
      show ((items.foldl (addItem m) (r, {})).1.addScope m
        (items.foldl (addItem m) (r, {})).2).scopes = _
      rw [Item.foldl_addItem_snd, scopes_addScope, scopes_addScope, hsame, foldl_addItem_scopes]
      rfl
    have hsome : (r'.scope? m).isSome = (r.scope? m).isSome := by
      rcases h.scope m with ⟨hs, hs'⟩ | ⟨s, s', hs, hs', -⟩
      · rw [hs, hs']
      · rw [hs, hs']
        rfl
    rw [hscopes, hscopes, scopes_addScope, scopes_addScope, hsome]
    split
    · rw [List.forall₂_map_left_iff, List.forall₂_map_right_iff]
      refine h.scopes.imp fun e e' he => ?_
      rw [← he.1]
      split
      · exact ⟨rfl, he.2.merge hscope⟩
      · exact he
    · exact List.rel_append h.scopes (.cons ⟨rfl, (Scope.Reorders.refl {}).merge hscope⟩ .nil)

/-- **Reordering imports only reorders what the modules list.** -/
theorem reorders_of_reordersUses {sources sources' : SourceSet}
    (h : sources.ReordersUses sources') : (ofSources sources).Reorders (ofSources sources') := by
  obtain ⟨front, m, items, items', back, hbodies, hbodies', hperm, hapart, hothers⟩ := h
  rw [ofSources_eq_foldl, ofSources_eq_foldl, hbodies, hbodies', List.foldl_append,
    List.foldl_append, List.foldl_cons, List.foldl_cons]
  have hbody := (Reorders.refl (front.foldl Registry.addBody {})).addBody hothers
    (Item.reorders_foldl hperm hapart (.refl {}))
  -- the bodies behind are the same in both crates
  exact List.foldl_rel (r := Reorders) hbody fun body _ _ _ hr => hr.addBody rfl (.refl _)

end Registry

end BuilderForge
