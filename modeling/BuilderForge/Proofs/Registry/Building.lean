import BuilderForge.Proofs.Registry.Walk
import BuilderForge.Registry
import Mathlib.Data.List.Nodup

set_option autoImplicit false

/-! # Building the registry

A crate is a list of *bodies*: the items of one module each, inline modules after what surrounds
them. The registry adds the bodies one after the other (`ofSources_eq_foldl`), so that whatever
adding one body keeps holds of every registry (`ofSources_induction`).

Three facts follow: every type comes from an item of a body and is kept under the path it is
declared at (`mem_types_ofSources`), no module has two scopes (`nodup_scopes_ofSources`), and the
name of a type is an item in the scope of its module (`hasLocal_of_mem_types`).
-/

namespace BuilderForge

open Code (Ident Item)

/-! ## Paths as texts -/

namespace ModulePath

theorem displaySegments_concat (above : List String) (name : String) :
    displaySegments (above ++ [name]) = displaySegments above ++ "::" ++ name := by
  simp [displaySegments, List.foldl_append]

/-- An item goes by the names of its module and its own name. -/
theorem itemPath_eq_displaySegments (m : ModulePath) (name : String) :
    m.itemPath name = displaySegments (m.segments ++ [name]) := by
  rw [itemPath, display, displaySegments_concat]

end ModulePath

namespace Declaration

/-- A type is kept under the text of its path. -/
theorem pathString_eq_displaySegments (d : Declaration) :
    d.pathString = ModulePath.displaySegments d.segments :=
  d.module.itemPath_eq_displaySegments d.ident.name

/-! ## Declarations and their items -/

theorem addField_module_ident (acc : Declaration × List Diagnostic) (f : Code.Field) :
    (addField acc f).1.module = acc.1.module ∧ (addField acc f).1.ident = acc.1.ident := by
  unfold addField
  cases f.ident with
  | none => exact ⟨rfl, rfl⟩
  | some i =>
      dsimp only
      split <;> split <;> exact ⟨rfl, rfl⟩

theorem foldl_addField_module_ident (fs : List Code.Field)
    (acc : Declaration × List Diagnostic) :
    (fs.foldl addField acc).1.module = acc.1.module
      ∧ (fs.foldl addField acc).1.ident = acc.1.ident := by
  induction fs generalizing acc with
  | nil => exact ⟨rfl, rfl⟩
  | cons f fs ih =>
      obtain ⟨hm, hi⟩ := ih (addField acc f)
      obtain ⟨hm', hi'⟩ := addField_module_ident acc f
      exact ⟨hm.trans hm', hi.trans hi'⟩

theorem ofStruct_module_ident (m : ModulePath) (i : Ident) (attrs : List Code.Attribute)
    (generic : Bool) (fields : Code.Fields) :
    (ofStruct m i attrs generic fields).1.module = m
      ∧ (ofStruct m i attrs generic fields).1.ident = i := by
  cases fields with
  | named fs _ => exact foldl_addField_module_ident fs _
  | tuple _ _ => exact ⟨rfl, rfl⟩
  | unit => exact ⟨rfl, rfl⟩

end Declaration

namespace Code.Item

/-- The type that an item of a module declares. -/
def declaration? (m : ModulePath) : Item → Option Declaration
  | .struct attrs _ i _ g fields => some (Declaration.ofStruct m i attrs (!g.isEmpty) fields).1
  | .enum attrs _ i _ g _ => some (.fieldless m i .enum attrs (!g.isEmpty))
  | .union attrs _ i _ g _ => some (.fieldless m i .union attrs (!g.isEmpty))
  | _ => none

mutual

/-- The bodies of the inline modules inside of an item of a module. -/
def bodies (m : ModulePath) : Item → List (ModulePath × List Item)
  | .module _ _ _ i (some items) => (m.child i.name, items) :: bodiesAll (m.child i.name) items
  | _ => []

/-- The bodies of the inline modules inside of the items of a module. -/
def bodiesAll (m : ModulePath) : List Item → List (ModulePath × List Item)
  | [] => []
  | i :: is => bodies m i ++ bodiesAll m is

end

/-! ## Items of small crates -/

/-- A struct without fields. -/
def unitStruct (vis : Code.Visibility) (name : String) : Item :=
  .struct [] vis ⟨name, false⟩ Code.Span.nowhere Code.Generics.none .unit

/-- A module whose body is in a file of its own. -/
def outlined (vis : Code.Visibility) (name : String) : Item :=
  .module [] vis false ⟨name, false⟩ none

/-- The item `pub use self::name::*;`. -/
def exportedGlobOf (name : String) : Item :=
  .use [] .everywhere false (.path ⟨"self", false⟩ (.path ⟨name, false⟩ .glob))

/-- The item `use crate::name::*;`. -/
def globOf (name : String) : Item :=
  .use [] .inherited false (.path ⟨"crate", false⟩ (.path ⟨name, false⟩ .glob))

/-- The item `use above::name;`. -/
def importOf (above : List String) (name : String) : Item :=
  .use [] .inherited false
    (above.foldr (fun a tree => .path ⟨a, false⟩ tree) (.name ⟨name, false⟩))

/-- An alias of a type, a trait, a constant or the like. -/
def typeless (vis : Code.Visibility) (name : String) : Item :=
  .named vis ⟨name, false⟩ Code.Tree.absent

end Code.Item

namespace SourceSet

/-- The bodies of all modules of a crate in the order they are registered in. -/
def bodies (s : SourceSet) : List (ModulePath × List Item) :=
  s.files.flatMap fun f => (f.module, f.code.items) :: Item.bodiesAll f.module f.code.items

end SourceSet

namespace Registry

/-- Adds the body of a module. -/
def addBody (r : Registry) (body : ModulePath × List Item) : Registry := r.addItems body.1 body.2

mutual

theorem addInline_eq_foldl (r : Registry) (m : ModulePath) :
    ∀ i : Item, r.addInline m i = (i.bodies m).foldl addBody r
  | .module _ _ _ i (some items) => by
      rw [addInline, addInlines_eq_foldl _ _ items, Item.bodies, List.foldl_cons]
      rfl
  | .module _ _ _ _ none => rfl
  | .struct .. => rfl
  | .enum .. => rfl
  | .union .. => rfl
  | .named .. => rfl
  | .use .. => rfl
  | .externCrate .. => rfl
  | .other _ => rfl

theorem addInlines_eq_foldl (r : Registry) (m : ModulePath) :
    ∀ is : List Item, r.addInlines m is = (Item.bodiesAll m is).foldl addBody r
  | [] => rfl
  | i :: is => by
      rw [addInlines, addInline_eq_foldl r m i, addInlines_eq_foldl _ m is, Item.bodiesAll,
        List.foldl_append]

end

/-- The registry of a crate is its bodies added one after the other. -/
theorem ofSources_eq_foldl (sources : SourceSet) :
    ofSources sources = sources.bodies.foldl addBody {} := by
  rw [ofSources, SourceSet.bodies, List.foldl_flatMap]
  congr 1
  funext r f
  rw [addModule, addInlines_eq_foldl, List.foldl_cons]
  rfl

/-- What adding a body of the crate keeps holds of its registry. -/
theorem ofSources_induction {P : Registry → Prop} (sources : SourceSet) (empty : P {})
    (step : ∀ r, ∀ body ∈ sources.bodies, P r → P (r.addBody body)) : P (ofSources sources) := by
  rw [ofSources_eq_foldl]
  exact List.foldlRecOn _ _ empty fun r hr body hbody => step r body hbody hr

/-! ## What an item adds

An item adds its type unless the path is taken, and its name to the items of the scope. -/

theorem insert_types (r : Registry) (d : Declaration) :
    (r.insert d).types = if (r.get? d.pathString).isSome then r.types
      else r.types ++ [(d.pathString, d)] := by
  unfold insert
  split <;> rfl

/-- Whether a type is added, and where, is up to the types that are there. -/
theorem insert_congr {r r' : Registry} (htypes : r'.types = r.types) (d : Declaration) :
    (r'.insert d).types = (r.insert d).types := by
  rw [insert_types, insert_types, get?, get?, htypes]

theorem noteVisibility_types (r : Registry) (m : ModulePath) (i : Ident) (vis : Code.Visibility) :
    (r.noteVisibility m i vis).types = r.types := by
  simp only [noteVisibility]
  split <;> rfl

theorem insert_scopes (r : Registry) (d : Declaration) : (r.insert d).scopes = r.scopes := by
  unfold insert
  split <;> rfl

theorem noteVisibility_scopes (r : Registry) (m : ModulePath) (i : Ident)
    (vis : Code.Visibility) : (r.noteVisibility m i vis).scopes = r.scopes := by
  simp only [noteVisibility]
  split <;> rfl

/-- A type that an item adds is the one it declares. -/
theorem mem_types_addItem {m : ModulePath} {acc : Registry × Scope} {i : Item}
    {e : String × Declaration} (he : e ∈ (addItem m acc i).1.types) :
    e ∈ acc.1.types ∨ ∃ d, i.declaration? m = some d ∧ e = (d.pathString, d) := by
  have key : ∀ (r : Registry) (d : Declaration), e ∈ (r.insert d).types →
      r.types = acc.1.types → e ∈ acc.1.types ∨ e = (d.pathString, d) := by
    intro r d hmem hr
    rw [insert_types, hr] at hmem
    split at hmem
    · exact Or.inl hmem
    · simpa using hmem
  cases i with
  | struct attrs vis i span g fields =>
      rcases key _ _ he (noteVisibility_types ..) with h | h
      · exact Or.inl h
      · exact Or.inr ⟨_, rfl, h⟩
  | enum attrs vis i span g variants =>
      rcases key _ _ he (noteVisibility_types ..) with h | h
      · exact Or.inl h
      · exact Or.inr ⟨_, rfl, h⟩
  | union attrs vis i span g fields =>
      rcases key _ _ he (noteVisibility_types ..) with h | h
      · exact Or.inl h
      · exact Or.inr ⟨_, rfl, h⟩
  | named vis i tree =>
      simp only [addItem, noteVisibility_types] at he
      exact Or.inl he
  | use attrs vis leading tree => exact Or.inl he
  | externCrate attrs vis i rename => exact Or.inl he
  | module attrs vis isUnsafe i content =>
      simp only [addItem, noteVisibility_types] at he
      exact Or.inl he
  | other tree => exact Or.inl he

theorem addItem_scopes (m : ModulePath) (acc : Registry × Scope) (i : Item) :
    (addItem m acc i).1.scopes = acc.1.scopes := by
  cases i <;> simp only [addItem, insert_scopes, noteVisibility_scopes]

end Registry

namespace Scope

variable (s t : Scope) (leading exported : Bool)

theorem mem_withNew {α : Type} [BEq α] [LawfulBEq α] {l : List α} {a b : α} :
    b ∈ withNew l a ↔ b ∈ l ∨ b = a := by
  unfold withNew
  split
  · next h =>
      have ha : a ∈ l := by simpa using h
      exact ⟨Or.inl, fun hb => hb.elim id (fun e => e ▸ ha)⟩
  · simp

theorem mem_foldl_withNew {α : Type} [BEq α] [LawfulBEq α] (new : List α) {l : List α} {b : α} :
    b ∈ new.foldl withNew l ↔ b ∈ l ∨ b ∈ new := by
  induction new generalizing l with
  | nil => simp
  | cons a new ih => rw [List.foldl_cons, ih, mem_withNew, List.mem_cons, or_assoc]

/-! ## Imports leave the items of a scope alone -/

theorem bind_locals (name : String) (path : ImportPath) : (s.bind name path).locals = s.locals := by
  unfold bind
  split <;> rfl

theorem foldl_bind_locals (imports : List (String × ImportPath)) :
    (imports.foldl (fun s e => s.bind e.1 e.2) s).locals = s.locals := by
  induction imports generalizing s with
  | nil => rfl
  | cons e imports ih => rw [List.foldl_cons, ih, bind_locals]

theorem addLeaf_locals (above : List String) (i : Ident) (rename : Option Ident) :
    (s.addLeaf leading exported above i rename).locals = s.locals := by
  unfold addLeaf
  split
  · rfl
  · dsimp only
    rw [bind_locals]
    split <;> rfl

mutual

theorem addTree_locals (s : Scope) (leading exported : Bool) (above : List String) :
    ∀ t : Code.UseTree, (s.addTree leading exported above t).locals = s.locals
  | .path i rest => by rw [addTree, addTree_locals _ _ _ _ rest]
  | .name i => by rw [addTree, addLeaf_locals]
  | .rename i j => by rw [addTree, addLeaf_locals]
  | .glob => rfl
  | .group ts _ => by rw [addTree, addTrees_locals _ _ _ _ ts]

theorem addTrees_locals (s : Scope) (leading exported : Bool) (above : List String) :
    ∀ ts : List Code.UseTree, (s.addTrees leading exported above ts).locals = s.locals
  | [] => rfl
  | t :: ts => by rw [addTrees, addTrees_locals _ _ _ _ ts, addTree_locals _ _ _ _ t]

end

theorem addExternCrate_locals (i : Ident) (rename : Option Ident) :
    (s.addExternCrate i rename).locals = s.locals := by
  simp only [addExternCrate, rebind]
  split
  · rfl
  · split <;> rfl

theorem hasLocal_iff (name : String) : s.hasLocal name = true ↔ name ∈ s.locals := by
  simp [hasLocal]

/-- A scope in two parts has the items of both. -/
theorem hasLocal_merge (name : String) :
    (s.merge t).hasLocal name = true ↔ s.hasLocal name = true ∨ t.hasLocal name = true := by
  simp only [hasLocal_iff, merge, mem_foldl_withNew, foldl_bind_locals]

end Scope

namespace Registry

theorem subset_locals_addItem (m : ModulePath) (acc : Registry × Scope) (i : Item) :
    acc.2.locals ⊆ (addItem m acc i).2.locals := by
  intro name hn
  cases i with
  | use attrs vis leading tree =>
      simp only [addItem, Scope.addUse_eq, Scope.addTree_locals]
      exact hn
  | externCrate attrs vis i rename =>
      simp only [addItem, Scope.addExternCrate_locals]
      exact hn
  | other tree => exact hn
  | _ => exact Scope.mem_withNew.mpr (Or.inl hn)

/-- The name of a type becomes an item of the scope that its item is added to. -/
theorem mem_locals_addItem {m : ModulePath} (acc : Registry × Scope) {i : Item} {d : Declaration}
    (hd : i.declaration? m = some d) :
    d.module = m ∧ d.ident.name ∈ (addItem m acc i).2.locals := by
  cases i with
  | struct attrs vis i span g fields =>
      obtain rfl := Option.some.inj hd
      obtain ⟨hm, hi⟩ := Declaration.ofStruct_module_ident m i attrs (!g.isEmpty) fields
      refine ⟨hm, Scope.mem_withNew.mpr (Or.inr ?_)⟩
      rw [hi]
  | enum attrs vis i span g variants =>
      obtain rfl := Option.some.inj hd
      exact ⟨rfl, Scope.mem_withNew.mpr (Or.inr rfl)⟩
  | union attrs vis i span g fields =>
      obtain rfl := Option.some.inj hd
      exact ⟨rfl, Scope.mem_withNew.mpr (Or.inr rfl)⟩
  | _ => cases hd

/-- After the items of a body: every new type comes from one of them and is an item of the scope
that goes with them. -/
theorem mem_types_foldl_addItem {m : ModulePath} (items : List Item) {acc : Registry × Scope}
    {e : String × Declaration} (he : e ∈ (items.foldl (addItem m) acc).1.types) :
    e ∈ acc.1.types ∨ e.1 = e.2.pathString ∧ e.2.module = m
      ∧ e.2.ident.name ∈ (items.foldl (addItem m) acc).2.locals
      ∧ ∃ i ∈ items, i.declaration? m = some e.2 := by
  induction items generalizing acc with
  | nil => exact Or.inl he
  | cons i items ih =>
      rw [List.foldl_cons] at he ⊢
      rcases ih he with h | ⟨hkey, hm, hl, j, hj, hd⟩
      · rcases mem_types_addItem h with h | ⟨d, hd, rfl⟩
        · exact Or.inl h
        · -- the name is in the scope after this item, and later items take nothing out of it
          obtain ⟨hm, hl⟩ := mem_locals_addItem acc hd
          refine Or.inr ⟨rfl, hm, ?_, i, List.mem_cons_self, hd⟩
          exact foldl_locals_subset items _ hl
      · exact Or.inr ⟨hkey, hm, hl, j, List.mem_cons_of_mem _ hj, hd⟩
where
  foldl_locals_subset (items : List Item) (acc : Registry × Scope) :
      acc.2.locals ⊆ (items.foldl (addItem m) acc).2.locals := by
    induction items generalizing acc with
    | nil => exact fun _ h => h
    | cons i items ih => exact fun _ h => ih _ (subset_locals_addItem m acc i h)

theorem foldl_addItem_scopes (m : ModulePath) (items : List Item) (acc : Registry × Scope) :
    (items.foldl (addItem m) acc).1.scopes = acc.1.scopes := by
  induction items generalizing acc with
  | nil => rfl
  | cons i items ih => rw [List.foldl_cons, ih, addItem_scopes]

/-! ## What a scope adds -/

theorem addScope_types (r : Registry) (m : ModulePath) (s : Scope) :
    (r.addScope m s).types = r.types := by
  unfold addScope
  split <;> rfl

theorem keys_addScope (r : Registry) (m : ModulePath) (s : Scope) :
    (r.addScope m s).scopes.map (·.1) = if (r.scope? m).isSome then r.scopes.map (·.1)
      else r.scopes.map (·.1) ++ [m] := by
  unfold addScope
  cases h : r.scope? m with
  | none => simp
  | some t =>
      simp only [List.map_map, Option.isSome_some, if_true]
      apply List.map_congr_left
      intro e _
      simp only [Function.comp]
      split <;> rfl

/-- Changing what is kept under one key leaves the other keys alone. -/
theorem lookup_map_update {α β : Type} [DecidableEq α] (a x : α) (f : β → β) (l : List (α × β)) :
    (l.map fun e => if e.1 = a then (e.1, f e.2) else e).lookup x
      = if x = a then (l.lookup a).map f else l.lookup x := by
  induction l with
  | nil => simp
  | cons e l ih =>
      rw [List.map_cons, List.lookup_cons, List.lookup_cons, List.lookup_cons, ih]
      by_cases hx : x = a
      · subst hx
        by_cases he : x = e.1
        · simp [he]
        · simp [Ne.symm he, beq_eq_false_iff_ne.mpr he]
      · by_cases he : e.1 = a
        · simp [he, hx, beq_eq_false_iff_ne.mpr hx]
        · simp [he, hx]

/-- The scope of a module after a part of a scope is added. -/
theorem scope?_addScope (r : Registry) (m m' : ModulePath) (s : Scope) :
    (r.addScope m s).scope? m' = if m' = m then some (((r.scope? m).getD {}).merge s)
      else r.scope? m' := by
  unfold addScope
  cases h : r.scope? m with
  | none =>
      simp only [scope?, List.lookup_append, List.lookup_cons, List.lookup_nil, Option.getD_none]
      by_cases hm : m' = m
      · subst hm
        rw [show r.scopes.lookup m' = none from h]
        simp
      · simp [hm, beq_eq_false_iff_ne.mpr hm]
  | some t =>
      have hupdate := lookup_map_update m m' (fun t : Scope => t.merge s) r.scopes
      simp only [scope?, Option.getD_some]
      rw [hupdate, show r.scopes.lookup m = some t from h]
      rfl

/-! ## What holds of every registry -/

theorem mem_of_lookup {α β : Type} [BEq α] [LawfulBEq α] {l : List (α × β)} {a : α} {b : β}
    (h : l.lookup a = some b) : (a, b) ∈ l := by
  obtain ⟨before, after, heq, -⟩ := List.lookup_eq_some_iff.mp h
  rw [heq]
  simp

/-- A key that is not found is none of the keys. -/
theorem not_mem_keys_of_lookup {α β : Type} [BEq α] [LawfulBEq α] {l : List (α × β)} {a : α}
    (h : l.lookup a = none) : a ∉ l.map (·.1) := by
  intro hmem
  obtain ⟨e, he, hkey⟩ := List.mem_map.mp hmem
  have hne := List.lookup_eq_none_iff.mp h e he
  simp [hkey] at hne

/-- A type of the registry of a crate comes from an item of a body and is kept under the path it is
declared at. -/
theorem mem_types_ofSources {sources : SourceSet} {e : String × Declaration}
    (he : e ∈ (ofSources sources).types) :
    e.1 = e.2.pathString ∧ ∃ body ∈ sources.bodies, e.2.module = body.1
      ∧ ∃ i ∈ body.2, i.declaration? body.1 = some e.2 := by
  refine ofSources_induction (P := fun r => ∀ e ∈ r.types, e.1 = e.2.pathString
    ∧ ∃ body ∈ sources.bodies, e.2.module = body.1
      ∧ ∃ i ∈ body.2, i.declaration? body.1 = some e.2) sources ?_ ?_ e he
  · intro e he
    cases he
  · intro r body hbody ih e he
    rw [addBody, addItems, addScope_types] at he
    rcases mem_types_foldl_addItem body.2 he with h | ⟨hkey, hm, -, hi⟩
    · exact ih e h
    · exact ⟨hkey, body, hbody, hm, hi⟩

/-- What is found under a text is a type whose path is written so. -/
theorem pathString_of_get? {sources : SourceSet} {path : String} {d : Declaration}
    (h : (ofSources sources).get? path = some d) : d.pathString = path :=
  (mem_types_ofSources (mem_of_lookup h)).1.symm

theorem nodup_types_insert {r : Registry} (h : (r.types.map (·.1)).Nodup) (d : Declaration) :
    ((r.insert d).types.map (·.1)).Nodup := by
  rw [insert_types]
  cases hget : r.get? d.pathString with
  | some e => exact h
  | none => simpa using List.Nodup.concat (not_mem_keys_of_lookup hget) h

theorem nodup_types_addItem {m : ModulePath} {acc : Registry × Scope}
    (h : (acc.1.types.map (·.1)).Nodup) (i : Item) :
    ((addItem m acc i).1.types.map (·.1)).Nodup := by
  cases i with
  | struct | enum | union =>
      refine nodup_types_insert ?_ _
      rw [noteVisibility_types]
      exact h
  | named | module =>
      simp only [addItem, noteVisibility_types]
      exact h
  | use | externCrate | other => exact h

/-- No path is that of two types. -/
theorem nodup_types_ofSources (sources : SourceSet) :
    ((ofSources sources).types.map (·.1)).Nodup := by
  refine ofSources_induction (P := fun r => (r.types.map (·.1)).Nodup) sources List.nodup_nil ?_
  intro r body _ ih
  rw [addBody, addItems, addScope_types]
  exact List.foldlRecOn (motive := fun acc : Registry × Scope => (acc.1.types.map (·.1)).Nodup)
    body.2 (addItem body.1) (b := (r, {})) ih fun acc hacc i _ => nodup_types_addItem hacc i

/-- No two of the types that a builder is asked for have one path. -/
theorem nodup_annotated (sources : SourceSet) :
    ((ofSources sources).annotated.map Declaration.pathString).Nodup := by
  have hkeys : (ofSources sources).types.map (fun e => e.2.pathString)
      = (ofSources sources).types.map (·.1) :=
    List.map_congr_left fun e he => (mem_types_ofSources he).1.symm
  have hall : (((ofSources sources).types.map (·.2)).map Declaration.pathString).Nodup := by
    rw [List.map_map, Function.comp_def, hkeys]
    exact nodup_types_ofSources sources
  exact hall.sublist (List.filter_sublist.map _)

/-- No module has two scopes. -/
theorem nodup_scopes_ofSources (sources : SourceSet) :
    ((ofSources sources).scopes.map (·.1)).Nodup := by
  refine ofSources_induction (P := fun r => (r.scopes.map (·.1)).Nodup) sources List.nodup_nil ?_
  intro r body _ ih
  rw [addBody, addItems, keys_addScope, foldl_addItem_scopes]
  have hscope : ∀ m, (body.2.foldl (addItem body.1) (r, {})).1.scope? m = r.scope? m := by
    intro m
    rw [scope?, foldl_addItem_scopes, scope?]
  rw [hscope]
  cases h : r.scope? body.1 with
  | some s => exact ih
  | none =>
      -- a key is only added where there is no scope yet
      simpa using List.Nodup.concat (not_mem_keys_of_lookup h) ih

/-- The scope of a module is the one that is listed with it. -/
theorem scope?_eq_some_iff (sources : SourceSet) (m : ModulePath) (s : Scope) :
    (ofSources sources).scope? m = some s ↔ (m, s) ∈ (ofSources sources).scopes := by
  constructor
  · exact mem_of_lookup
  · intro h
    obtain ⟨t, ht⟩ : ∃ t, (ofSources sources).scope? m = some t := by
      apply Option.isSome_iff_exists.mp
      rw [scope?, List.lookup_isSome_iff]
      exact ⟨(m, s), h, by simp⟩
    have hinj := List.inj_on_of_nodup_map (nodup_scopes_ofSources sources) h (mem_of_lookup ht) rfl
    rw [ht, (Prod.mk.inj hinj).2]

/-- The name of a type is an item in the scope of its module. -/
theorem hasLocal_of_mem_types {sources : SourceSet} {e : String × Declaration}
    (he : e ∈ (ofSources sources).types) :
    ∃ s, (ofSources sources).scope? e.2.module = some s ∧ s.hasLocal e.2.ident.name = true := by
  refine ofSources_induction (P := fun r => ∀ e ∈ r.types, ∃ s, r.scope? e.2.module = some s
    ∧ s.hasLocal e.2.ident.name = true) sources ?_ ?_ e he
  · intro e he
    cases he
  · intro r body _ ih e he
    rw [addBody, addItems, addScope_types] at he
    rw [addBody, addItems, scope?_addScope]
    rcases mem_types_foldl_addItem body.2 he with h | ⟨-, hm, hl, -⟩
    · obtain ⟨s, hs, hname⟩ := ih e h
      have hold : (body.2.foldl (addItem body.1) (r, {})).1.scope? e.2.module = some s := by
        rw [scope?, foldl_addItem_scopes]
        exact hs
      by_cases hmod : e.2.module = body.1
      · -- the body is another part of the scope that has the name
        rw [if_pos hmod]
        rw [hmod] at hold
        rw [hold]
        exact ⟨_, rfl, (Scope.hasLocal_merge _ _ _).mpr (Or.inl hname)⟩
      · rw [if_neg hmod]
        exact ⟨s, hold, hname⟩
    · rw [if_pos hm]
      exact ⟨_, rfl, (Scope.hasLocal_merge _ _ _).mpr (Or.inr ((Scope.hasLocal_iff _ _).mpr hl))⟩

end Registry

end BuilderForge
