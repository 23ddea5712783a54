import BuilderForge.Proofs.Registry.Additions
import Mathlib.Data.List.Induction

set_option autoImplicit false

/-! # What a registry holds

The registry of a crate is told by its bodies. Its types are those that the items of the bodies
declare, added one after the other, so that under each path stands the first type that is declared
there (`types_ofSources`, `get?_foldl_insert`), and the paths are listed as they first come
(`paths_foldl_insert`). The scope of a module is that of all its bodies joined in their order
(`scope?_ofSources`). Both are put together in `holds_ofSources`.
-/

namespace BuilderForge

open Code (Ident Item)

/-! ## The first of each key -/

section KeepFirst

variable {α β : Type}

/-- Adds an entry unless its key is taken. -/
def keepFirst (kept : List (String × β)) (e : String × β) : List (String × β) :=
  if (kept.lookup e.1).isSome then kept else kept ++ [e]

theorem lookup_keepFirst (kept : List (String × β)) (e : String × β) (key : String) :
    (keepFirst kept e).lookup key
      = (kept.lookup key).or (if e.1 = key then some e.2 else none) := by
  obtain ⟨taken, b⟩ := e
  unfold keepFirst
  by_cases hkey : taken = key
  · subst hkey
    cases htaken : kept.lookup taken <;> simp [htaken, List.lookup_append]
  · have hother : [(taken, b)].lookup key = none := by
      rw [List.lookup_cons, beq_eq_false_iff_ne.mpr (Ne.symm hkey), List.lookup_nil]
    rw [if_neg hkey, Option.or_none]
    split
    · rfl
    · rw [List.lookup_append, hother, Option.or_none]

/-- Of all that is added under one key the first is kept. -/
theorem lookup_foldl_keepFirst (entry : α → String × β) (as : List α) (kept : List (String × β))
    (key : String) : (as.foldl (fun kept a => keepFirst kept (entry a)) kept).lookup key
      = (kept.lookup key).or ((as.find? fun a => (entry a).1 == key).map fun a => (entry a).2) := by
  induction as generalizing kept with
  | nil => exact Option.or_none.symm
  | cons a as ih =>
      rw [List.foldl_cons, ih, lookup_keepFirst, Option.or_assoc, List.find?_cons]
      by_cases hkey : (entry a).1 = key
      · simp [hkey]
      · simp [hkey, beq_eq_false_iff_ne.mpr hkey]

end KeepFirst

/-! ## Declared types -/

/-- The types that the items of some bodies declare. -/
def declarationsOf (bodies : List (ModulePath × List Item)) : List Declaration :=
  bodies.flatMap fun body => body.2.filterMap (·.declaration? body.1)

theorem declarationsOf_cons (body : ModulePath × List Item)
    (bodies : List (ModulePath × List Item)) : declarationsOf (body :: bodies)
      = body.2.filterMap (·.declaration? body.1) ++ declarationsOf bodies := rfl

theorem mem_declarationsOf_iff {bodies : List (ModulePath × List Item)} {d : Declaration} :
    d ∈ declarationsOf bodies
      ↔ ∃ body ∈ bodies, ∃ i ∈ body.2, i.declaration? body.1 = some d := by
  simp [declarationsOf]

namespace Code.Item

/-- A declared type knows its module. -/
theorem module_of_declaration? {m : ModulePath} {i : Item} {d : Declaration}
    (h : i.declaration? m = some d) : d.module = m := by
  cases i with
  | struct attrs vis i span g fields =>
      obtain rfl := Option.some.inj h
      exact (Declaration.ofStruct_module_ident m i attrs (!g.isEmpty) fields).1
  | enum | union =>
      obtain rfl := Option.some.inj h
      rfl
  | _ => cases h

/-- The name that an item has in its module. Imports and items of other kinds have none. -/
def ownName? : Item → Option String
  | .struct _ _ i .. | .enum _ _ i .. | .union _ _ i .. | .named _ i _ | .module _ _ _ i _ =>
      some i.name
  | .use .. | .externCrate .. | .other _ => none

end Code.Item

namespace SourceSet

/-- All types that the sources declare. -/
def declared (s : SourceSet) : List Declaration := declarationsOf s.bodies

/-- The parts of the scope of a module, one for each of its bodies. -/
def partsOf (s : SourceSet) (m : ModulePath) : List Scope :=
  (s.bodies.filter fun body => body.1 = m).map fun body => Item.scopeOf m body.2

end SourceSet

namespace Registry

/-! ## Types

An item adds the type that it declares, if any. So all types of the crate are added one after the
other. -/

/-- The paths that types are registered under. -/
def paths (r : Registry) : List String := r.types.map (·.1)

theorem isSome_get?_iff (r : Registry) (path : String) :
    (r.get? path).isSome = true ↔ path ∈ r.paths := by
  simp [get?, paths, List.lookup_isSome_iff]

theorem foldl_insert_congr {r r' : Registry} (htypes : r'.types = r.types)
    (ds : List Declaration) : (ds.foldl insert r').types = (ds.foldl insert r).types := by
  induction ds generalizing r r' with
  | nil => exact htypes
  | cons d ds ih => exact ih (insert_congr htypes d)

theorem types_addItem (m : ModulePath) (acc : Registry × Scope) (i : Item) :
    (addItem m acc i).1.types = ((i.declaration? m).toList.foldl insert acc.1).types := by
  cases i with
  | struct attrs vis i span g fields =>
      -- the remarks on the fields are no types
      have hremarks : ∀ remarks : List Diagnostic,
          (noteVisibility { acc.1 with diagnostics := acc.1.diagnostics ++ remarks } m i vis).types
            = acc.1.types := fun _ => noteVisibility_types ..
      exact insert_congr (hremarks _) _
  | enum attrs vis i span g variants => exact insert_congr (noteVisibility_types ..) _
  | union attrs vis i span g fields => exact insert_congr (noteVisibility_types ..) _
  | named vis i tree => exact noteVisibility_types ..
  | module attrs vis isUnsafe i content => exact noteVisibility_types ..
  | use | externCrate | other => rfl

theorem types_foldl_addItem (m : ModulePath) (items : List Item) (acc : Registry × Scope) :
    (items.foldl (addItem m) acc).1.types
      = ((items.filterMap (·.declaration? m)).foldl insert acc.1).types := by
  induction items generalizing acc with
  | nil => rfl
  | cons i items ih =>
      have hrest := foldl_insert_congr (types_addItem m acc i) (items.filterMap (·.declaration? m))
      rw [List.foldl_cons, ih, hrest, ← List.foldl_append]
      cases h : i.declaration? m <;> simp [h]

theorem types_foldl_addBody (bodies : List (ModulePath × List Item)) (r : Registry) :
    (bodies.foldl addBody r).types = ((declarationsOf bodies).foldl insert r).types := by
  induction bodies generalizing r with
  | nil => rfl
  | cons body bodies ih =>
      have hbody : (r.addBody body).types
          = ((body.2.filterMap (·.declaration? body.1)).foldl insert r).types := by
        rw [addBody, addItems, addScope_types]
        exact types_foldl_addItem body.1 body.2 (r, {})
      rw [List.foldl_cons, ih, foldl_insert_congr hbody, declarationsOf_cons, List.foldl_append]

/-- The types of a crate are added in the order in which they are declared. -/
theorem types_ofSources (sources : SourceSet) :
    (ofSources sources).types = (sources.declared.foldl insert {}).types := by
  rw [ofSources_eq_foldl]
  exact types_foldl_addBody sources.bodies {}

/-- Of the types that are added under one path the first is kept. -/
theorem get?_foldl_insert (ds : List Declaration) (r : Registry) (path : String) :
    (ds.foldl insert r).get? path = (r.get? path).or (ds.find? (·.pathString == path)) := by
  have htypes : (ds.foldl insert r).types
      = ds.foldl (fun kept d => keepFirst kept (d.pathString, d)) r.types :=
    (List.foldl_hom Registry.types fun r d => (insert_types r d).symm).symm
  rw [get?, htypes, lookup_foldl_keepFirst, Option.map_id']
  rfl

theorem paths_insert (r : Registry) (d : Declaration) :
    (r.insert d).paths = if d.pathString ∈ r.paths then r.paths else r.paths ++ [d.pathString] := by
  rw [paths, insert_types]
  by_cases htaken : d.pathString ∈ r.paths
  · rw [if_pos htaken, if_pos ((isSome_get?_iff r _).mpr htaken), paths]
  · have hfree : ¬ (r.get? d.pathString).isSome = true :=
      fun h => htaken ((isSome_get?_iff r _).mp h)
    rw [if_neg htaken, if_neg hfree, List.map_append, paths]
    rfl

/-- Paths are listed in the order in which they first come. -/
theorem paths_foldl_insert (ds : List Declaration) :
    (ds.foldl insert {}).paths = (ds.map Declaration.pathString).eraseDups := by
  induction ds using List.reverseRecOn with
  | nil => rfl
  | append_singleton ds d ih =>
      rw [List.foldl_append, List.foldl_cons, List.foldl_nil, paths_insert, ih, List.map_append,
        List.eraseDups_append]
      generalize ds.map Declaration.pathString = before
      by_cases hmem : d.pathString ∈ before
      · rw [if_pos (List.mem_eraseDups.mpr hmem)]
        simp [List.removeAll, hmem]
      · rw [if_neg (mt List.mem_eraseDups.mp hmem)]
        simp [List.removeAll, hmem, List.eraseDups_cons]

theorem get?_ofSources (sources : SourceSet) (path : String) :
    (ofSources sources).get? path = sources.declared.find? (·.pathString == path) := by
  rw [get?, types_ofSources]
  exact get?_foldl_insert sources.declared {} path

/-- The registered paths are those of the declared types. -/
theorem isSome_get?_ofSources_iff (sources : SourceSet) (path : String) :
    ((ofSources sources).get? path).isSome = true
      ↔ ∃ d ∈ sources.declared, d.pathString = path := by
  simp [get?_ofSources]

/-! ## Scopes -/

theorem scope?_foldl_addBody (bodies : List (ModulePath × List Item)) (r : Registry)
    (m : ModulePath) : (bodies.foldl addBody r).scope? m
      = ((bodies.filter fun body => body.1 = m).map fun body => Item.scopeOf m body.2).foldl
        (fun s part => some ((s.getD {}).merge part)) (r.scope? m) := by
  induction bodies generalizing r with
  | nil => rfl
  | cons body bodies ih =>
      rw [List.foldl_cons, ih, scope?_addBody]
      by_cases hm : body.1 = m
      · subst hm
        simp
      · simp [hm, Ne.symm hm]

/-- The scope of a module is that of its bodies, joined in their order. -/
theorem scope?_ofSources (sources : SourceSet) (m : ModulePath) :
    (ofSources sources).scope? m = if sources.partsOf m = [] then none
      else some ((sources.partsOf m).foldl Scope.merge {}) := by
  have hsome : ∀ (parts : List Scope) (s : Scope),
      parts.foldl (fun s part => some ((s.getD {}).merge part)) (some s)
        = some (parts.foldl Scope.merge s) := by
    intro parts
    induction parts with
    | nil => exact fun _ => rfl
    | cons part parts ih => exact fun s => ih (s.merge part)
  rw [ofSources_eq_foldl, scope?_foldl_addBody]
  show (sources.partsOf m).foldl _ none = _
  cases sources.partsOf m with
  | nil => rfl
  | cons part parts => exact hsome parts (Scope.merge {} part)

theorem isSome_scope?_ofSources_iff (sources : SourceSet) (m : ModulePath) :
    ((ofSources sources).scope? m).isSome = true ↔ ∃ body ∈ sources.bodies, body.1 = m := by
  have hparts : sources.partsOf m ≠ [] ↔ ∃ body ∈ sources.bodies, body.1 = m := by
    simp [SourceSet.partsOf]
  rw [scope?_ofSources, ← hparts]
  split
  · next hnone => simp [hnone]
  · next hsome => simp [hsome]

end Registry

namespace Scope

/-- An item of a module gives the scope its name. -/
theorem hasLocal_addTo (m : ModulePath) (i : Item) (s : Scope) (name : String) :
    (i.addTo m s).hasLocal name = true ↔ s.hasLocal name = true ∨ i.ownName? = some name := by
  cases i with
  | struct | enum | union | named | module =>
      rw [Item.addTo, Registry.addItem, hasLocal_addLocal, Bool.or_eq_true, beq_iff_eq,
        Item.ownName?, Option.some.injEq, eq_comm (a := name)]
  | use attrs vis leading tree =>
      simp [Item.addTo, Registry.addItem, addUse_eq, hasLocal, addTree_locals, Item.ownName?]
  | externCrate attrs vis i rename =>
      simp [Item.addTo, Registry.addItem, hasLocal, addExternCrate_locals, Item.ownName?]
  | other => simp [Item.addTo, Registry.addItem, Item.ownName?]

theorem hasLocal_foldl_addTo (m : ModulePath) (items : List Item) (s : Scope) (name : String) :
    (items.foldl (fun s i => i.addTo m s) s).hasLocal name = true
      ↔ s.hasLocal name = true ∨ ∃ i ∈ items, i.ownName? = some name := by
  induction items generalizing s with
  | nil => simp
  | cons i items ih => rw [List.foldl_cons, ih, hasLocal_addTo, List.exists_mem_cons_iff, or_assoc]

theorem hasLocal_foldl_merge (parts : List Scope) (s : Scope) (name : String) :
    (parts.foldl merge s).hasLocal name = true
      ↔ s.hasLocal name = true ∨ ∃ part ∈ parts, part.hasLocal name = true := by
  induction parts generalizing s with
  | nil => simp
  | cons part parts ih => rw [List.foldl_cons, ih, hasLocal_merge, List.exists_mem_cons_iff, or_assoc]

end Scope

namespace Registry

/-- The items of a module are the items of all its bodies that have names. -/
theorem hasLocal_ofSources_iff {sources : SourceSet} {m : ModulePath} {s : Scope}
    (hs : (ofSources sources).scope? m = some s) (name : String) : s.hasLocal name = true
      ↔ ∃ body ∈ sources.bodies, body.1 = m ∧ ∃ i ∈ body.2, i.ownName? = some name := by
  rw [scope?_ofSources, Option.ite_none_left_eq_some, Option.some.injEq] at hs
  obtain ⟨-, rfl⟩ := hs
  have hempty : (({} : Scope).hasLocal name = true) ↔ False := by simp [Scope.hasLocal]
  simp [Scope.hasLocal_foldl_merge, Item.scopeOf, Scope.hasLocal_foldl_addTo, hempty,
    SourceSet.partsOf, and_assoc]

/-! ## The result -/

/-- The registry holds what is declared in the sources. -/
structure Holds (r : Registry) (sources : SourceSet) : Prop where
  /-- Every path at which a type is declared is listed once, in the order in which they come. -/
  paths : r.paths = (sources.declared.map Declaration.pathString).eraseDups
  /-- Under a path stands the first type that is declared there. -/
  first : ∀ path, r.get? path = sources.declared.find? (·.pathString == path)
  /-- What is listed is what is found. -/
  listed : ∀ e ∈ r.types, r.get? e.1 = some e.2
  /-- A type is kept under the text of its path. -/
  keyed : ∀ e ∈ r.types, e.1 = e.2.pathString ∧ e.1 = ModulePath.displaySegments e.2.segments
  /-- The modules with a scope are those that have a body. -/
  modules : ∀ m, (r.scope? m).isSome = true ↔ ∃ body ∈ sources.bodies, body.1 = m
  /-- The items of a scope are those of all bodies of the module. -/
  locals : ∀ m s, r.scope? m = some s → ∀ name, s.hasLocal name = true
    ↔ ∃ body ∈ sources.bodies, body.1 = m ∧ ∃ i ∈ body.2, i.ownName? = some name

/-- A listed type is found under its path. -/
theorem get?_of_mem_types {sources : SourceSet} {e : String × Declaration}
    (he : e ∈ (ofSources sources).types) : (ofSources sources).get? e.1 = some e.2 := by
  obtain ⟨d, hd⟩ : ∃ d, (ofSources sources).get? e.1 = some d := by
    rw [← Option.isSome_iff_exists, isSome_get?_iff]
    exact List.mem_map_of_mem he
  have hinj := List.inj_on_of_nodup_map (nodup_types_ofSources sources) he (mem_of_lookup hd) rfl
  rw [hd, hinj]

/-- **A registry holds the first type of every path.** For all sources, the types of the registry
are those that the bodies of all modules declare, at every depth; of those with one path the first
is kept, and they are listed in the order of the first ones. A module has a scope exactly if it has
a body, and its items are those of all its bodies. -/
theorem holds_ofSources (sources : SourceSet) : (ofSources sources).Holds sources where
  paths := by
    rw [paths, types_ofSources]
    exact paths_foldl_insert sources.declared
  first := get?_ofSources sources
  listed _ he := get?_of_mem_types he
  keyed e he := by
    have hkey := (mem_types_ofSources he).1
    exact ⟨hkey, hkey.trans e.2.pathString_eq_displaySegments⟩
  modules := isSome_scope?_ofSources_iff sources
  locals _ _ hs := hasLocal_ofSources_iff hs

end Registry

end BuilderForge
