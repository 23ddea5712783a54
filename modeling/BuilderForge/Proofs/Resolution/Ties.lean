import BuilderForge.Proofs.Registry.Reordering
import BuilderForge.Proofs.Resolution.Lookups
import BuilderForge.Proofs.Resolution.Reexports

set_option autoImplicit false

/-! # Which of the shortest re-exports is taken

Of the re-exports of a type a shortest one is taken, and there may be several. The one that is taken
stands in the first visible module that has one of them, whatever the order of its exports is. But
if this module exports the type by imports under two names, the first of them is taken, in the order
in which they are enumerated. So the path is the same for every order exactly if the module has one
such name (`visiblePath?_reorder_iff`).

That is so as long as paths lead where they led. Globs are looked through in their order, and
another order of theirs can make a path lead elsewhere.
-/

namespace BuilderForge

namespace Scope

/-- The scope with one of its exports in front of the others. -/
def exportFirst (s : Scope) (name : String) : Scope :=
  { s with exports := name :: s.exports.erase name }

theorem reorders_exportFirst {s : Scope} {name : String} (h : name ∈ s.exports) :
    s.Reorders (s.exportFirst name) :=
  ⟨fun _ => rfl, fun _ => rfl, .refl _, List.perm_cons_erase h, .refl _⟩

end Scope

namespace Registry

variable {r r' : Registry} {target : List String}

/-! ## Paths that lead alike -/

/-- Imports and paths from the root lead to the same in both crates. -/
structure LeadsAlike (r r' : Registry) : Prop where
  imports : ∀ m path, r'.resolveImport m path = r.resolveImport m path
  types : ∀ path, r'.find? path = r.find? path

/-- The globs of every module stand in the same order. -/
def SameGlobs (r r' : Registry) : Prop :=
  ∀ m, (r'.scope? m).map Scope.globs = (r.scope? m).map Scope.globs

section SameGlobs

variable (h : r.Reorders r') (hglobs : r.SameGlobs r')

include h hglobs

theorem Reorders.scope_of_sameGlobs (m : ModulePath) :
    r.scope? m = none ∧ r'.scope? m = none
      ∨ ∃ s s', r.scope? m = some s ∧ r'.scope? m = some s' ∧ s.Reorders s' ∧ s'.globs = s.globs := by
  rcases h.scope m with hnone | ⟨s, s', hs, hs', hscope⟩
  · exact Or.inl hnone
  · have hsame := hglobs m
    rw [hs, hs'] at hsame
    exact Or.inr ⟨s, s', hs, hs', hscope, Option.some.inj hsame⟩

/-- Where only the order of exports differs, the same is found. -/
theorem Reorders.looksUpAlike : r.LooksUpAlike r' where
  types path := by rw [get?, get?, h.types]
  scopes m := by
    rcases h.scope_of_sameGlobs hglobs m with hnone | ⟨s, s', hs, hs', hscope, hsame⟩
    · exact Or.inl hnone
    · exact Or.inr ⟨s, s', hs, hs', hscope.items, hscope.imports, hsame⟩

/-- Paths lead alike if only the order of exports differs. -/
theorem Reorders.leadsAlike : r.LeadsAlike r' :=
  ⟨(h.looksUpAlike hglobs).resolveImport_eq, (h.looksUpAlike hglobs).find?_eq⟩

end SameGlobs

/-! ## Re-exports in another order -/

theorem forall₂_and_mem {α β : Type} {P : α → β → Prop} {l : List α} {l' : List β}
    (h : List.Forall₂ P l l') : List.Forall₂ (fun a b => a ∈ l ∧ P a b) l l' := by
  induction h with
  | nil => exact .nil
  | cons hab _ ih =>
      refine .cons ⟨List.mem_cons_self, hab⟩ (ih.imp fun _ _ h => ?_)
      exact ⟨List.mem_cons_of_mem _ h.1, h.2⟩

section LeadsAlike

variable (h : r.Reorders r') (halike : r.LeadsAlike r')

include halike in
theorem LeadsAlike.canonical_eq (path : List String) : r'.canonical path = r.canonical path := by
  rw [canonical, canonical, halike.types]

include h in
theorem Reorders.isPathVisible_eq (path : List String) :
    r'.isPathVisible path = r.isPathVisible path := by
  rw [isPathVisible, isPathVisible, h.visible]

section Module

variable {m : ModulePath} {s s' : Scope} (hs : s.Reorders s') {name : String}

include halike hs

theorem LeadsAlike.exportsByImport_iff :
    r'.ExportsByImport m s' name target ↔ r.ExportsByImport m s name target := by
  simp only [ExportsByImport, hs.exports.mem_iff, hs.imports, halike.imports, halike.canonical_eq]

theorem LeadsAlike.exportsByGlob_iff :
    r'.ExportsByGlob m s' name target ↔ r.ExportsByGlob m s name target := by
  simp only [ExportsByGlob, hs.exportedGlobs.mem_iff, halike.imports, halike.canonical_eq]

theorem LeadsAlike.mem_reexportNames_iff :
    name ∈ r'.reexportNames m s' target ↔ name ∈ r.reexportNames m s target := by
  rw [Registry.mem_reexportNames_iff, Registry.mem_reexportNames_iff,
    halike.exportsByImport_iff hs, halike.exportsByGlob_iff hs]

end Module

include h halike

/-- In both crates a module offers a path, or in none. The paths end with the first names that the
module re-exports the item under. -/
theorem Reorders.reexportAt?_rel {e e' : ModulePath × Scope} (hmodule : e.1 = e'.1)
    (hscope : e.2.Reorders e'.2) {P : List String → List String → Prop}
    (hP : ∀ name name', (r.reexportNames e.1 e.2 target).head? = some name →
      (r'.reexportNames e'.1 e'.2 target).head? = some name' →
      P (e.1.segments ++ [name]) (e'.1.segments ++ [name'])) :
    Option.Rel P (r.reexportAt? target e) (r'.reexportAt? target e') := by
  have hmem : ∀ name, name ∈ r'.reexportNames e'.1 e'.2 target
      ↔ name ∈ r.reexportNames e.1 e.2 target := by
    intro name
    rw [← hmodule]
    exact halike.mem_reexportNames_iff hscope
  rw [reexportAt?, reexportAt?, h.isPathVisible_eq, ← hmodule]
  rw [← hmodule] at hmem hP
  split
  · cases hnames : r.reexportNames e.1 e.2 target with
    | nil =>
        have hnil : r'.reexportNames e.1 e'.2 target = [] := by
          rw [List.eq_nil_iff_forall_not_mem]
          intro name hname
          have := (hmem name).mp hname
          rw [hnames] at this
          cases this
        rw [hnil]
        exact .none
    | cons name names =>
        cases hnames' : r'.reexportNames e.1 e'.2 target with
        | nil =>
            have := (hmem name).mpr (by rw [hnames]; exact List.mem_cons_self)
            rw [hnames'] at this
            cases this
        | cons name' names' =>
            refine .some (hP name name' ?_ ?_)
            · rw [hnames]
              rfl
            · rw [hnames']
              rfl
  · exact .none

end LeadsAlike

theorem length_concat_segments (m : ModulePath) (x y : String) :
    (m.segments ++ [x]).length = (m.segments ++ [y]).length := by
  rw [List.length_append, List.length_append, List.length_singleton, List.length_singleton]

theorem dropLast_concat_segments (m : ModulePath) (name : String) :
    (⟨(m.segments ++ [name]).dropLast⟩ : ModulePath) = m := by
  rw [List.dropLast_concat]

/-- The first of the shortest paths, in two lists whose paths are as long as each other one by
one. -/
theorem argmin_rel {P : List String → List String → Prop}
    (hlength : ∀ p q, P p q → p.length = q.length) {l l' : List (List String)}
    (h : List.Forall₂ P l l') :
    Option.Rel P (l.argmin List.length) (l'.argmin List.length) := by
  induction h with
  | nil => exact .none
  | @cons p q l l' hpq _ ih =>
      rw [List.argmin_cons, List.argmin_cons]
      generalize l.argmin List.length = best, l'.argmin List.length = best' at ih
      cases ih with
      | none => exact .some hpq
      | some hbest =>
          dsimp only
          rw [hlength _ _ hbest, hlength _ _ hpq]
          split
          · exact .some hbest
          · exact .some hpq

/-- What the search takes in two crates whose modules offer paths of the same length one by one. -/
theorem reexportOf?_rel (htarget : target ≠ []) {P : List String → List String → Prop}
    (hlength : ∀ p q, P p q → p.length = q.length)
    (hoffers : List.Forall₂ (fun e e' =>
      Option.Rel P (r.reexportAt? target e) (r'.reexportAt? target e')) r.scopes r'.scopes) :
    Option.Rel P (r.reexportOf? target) (r'.reexportOf? target) := by
  rw [reexportOf?_eq_argmin r htarget, reexportOf?_eq_argmin r' htarget]
  exact argmin_rel hlength (List.rel_filterMap (fun _ _ h => h) hoffers)

/-- The path that is taken stands in the same module in both crates. -/
theorem map_dropLast_reexportOf? (htarget : target ≠ []) (h : r.Reorders r')
    (halike : r.LeadsAlike r') :
    (r'.reexportOf? target).map List.dropLast = (r.reexportOf? target).map List.dropLast := by
  let P (p q : List String) : Prop := p.length = q.length ∧ p.dropLast = q.dropLast
  have hoffers : List.Forall₂ (fun e e' =>
      Option.Rel P (r.reexportAt? target e) (r'.reexportAt? target e')) r.scopes r'.scopes := by
    refine h.scopes.imp fun e e' ⟨hmodule, hscope⟩ => ?_
    refine h.reexportAt?_rel halike hmodule hscope fun name name' _ _ => ?_
    rw [← hmodule]
    exact ⟨length_concat_segments e.1 name name', by rw [List.dropLast_concat, List.dropLast_concat]⟩
  have hrel := reexportOf?_rel htarget (fun p q hpq => hpq.1) hoffers
  generalize r.reexportOf? target = best, r'.reexportOf? target = best' at hrel
  cases hrel with
  | none => rfl
  | some hP => rw [Option.map_some, Option.map_some, hP.2]

/-! ## One name -/

/-- A module exports what is declared at `target` by imports under one name at most. -/
def OneNameIn (r : Registry) (target : List String) (m : ModulePath) : Prop :=
  ∀ s, (m, s) ∈ r.scopes → ∀ x y, r.ExportsByImport m s x target → r.ExportsByImport m s y target →
    x = y

/-- The module of the re-export that is taken exports the item by imports under one name at most. -/
def OneName (r : Registry) (target : List String) : Prop :=
  ∀ path, r.reexportOf? target = some path → r.OneNameIn target ⟨path.dropLast⟩

/-- With one name, the path is the same for every order. -/
theorem reexportOf?_eq_of_oneName (htarget : target ≠ []) (h : r.Reorders r')
    (halike : r.LeadsAlike r') (hone : r.OneName target) :
    r'.reexportOf? target = r.reexportOf? target := by
  -- a module with two names may offer another path, but only one of the same length
  let P (p q : List String) : Prop :=
    p.length = q.length ∧ (r.OneNameIn target ⟨p.dropLast⟩ → p = q)
  have hoffers : List.Forall₂ (fun e e' =>
      Option.Rel P (r.reexportAt? target e) (r'.reexportAt? target e')) r.scopes r'.scopes := by
    refine (forall₂_and_mem h.scopes).imp fun e e' ⟨he, hmodule, hscope⟩ => ?_
    refine h.reexportAt?_rel halike hmodule hscope fun name name' hhead hhead' => ⟨?_, fun hone => ?_⟩
    · rw [← hmodule]
      exact length_concat_segments e.1 name name'
    · rw [dropLast_concat_segments] at hone
      have himport : ∀ x, r'.ExportsByImport e'.1 e'.2 x target
          ↔ r.ExportsByImport e.1 e.2 x target := fun x => by
        rw [← hmodule]
        exact halike.exportsByImport_iff hscope
      -- both names are those of imports, or no import leads there and both are the declared name
      have hname : name = name' := by
        rcases r.head?_reexportNames hhead with hname | ⟨hnone, hname⟩
        · rcases r'.head?_reexportNames hhead' with hname' | ⟨hnone', -⟩
          · exact hone e.2 he name name' hname ((himport name').mp hname')
          · exact absurd ((himport name).mpr hname) (hnone' name)
        · rcases r'.head?_reexportNames hhead' with hname' | ⟨-, hname'⟩
          · exact absurd ((himport name').mp hname') (hnone name')
          · exact Option.some.inj (hname.1.symm.trans hname'.1)
      rw [hname, hmodule]
  have hrel := reexportOf?_rel htarget (fun p q hpq => hpq.1) hoffers
  cases hpath : r.reexportOf? target with
  | none =>
      rw [hpath] at hrel
      generalize r'.reexportOf? target = best at hrel
      cases hrel
      rfl
  | some path =>
      rw [hpath] at hrel
      generalize r'.reexportOf? target = best at hrel
      cases hrel with
      | some hP => rw [hP.2 (hone path hpath)]

/-! ## Another order -/

/-- The registry with one of the exports of a module in front of the others. -/
def exportFirst (r : Registry) (m : ModulePath) (name : String) : Registry :=
  { r with scopes := r.scopes.map fun e => if e.1 = m then (e.1, e.2.exportFirst name) else e }

section ExportFirst

variable {m : ModulePath} {s : Scope} {name : String}
  (hnodup : (r.scopes.map (·.1)).Nodup) (hmem : (m, s) ∈ r.scopes)

include hnodup hmem in
theorem eq_of_mem_scopes {e : ModulePath × Scope} (he : e ∈ r.scopes) (hmodule : e.1 = m) :
    e = (m, s) := List.inj_on_of_nodup_map hnodup he hmem hmodule

include hnodup hmem in
theorem reorders_exportFirst (h : name ∈ s.exports) : r.Reorders (r.exportFirst m name) := by
  refine ⟨rfl, rfl, ?_⟩
  rw [exportFirst, List.forall₂_map_right_iff, List.forall₂_same]
  intro e he
  split
  · next hmodule =>
      obtain rfl := eq_of_mem_scopes hnodup hmem he hmodule
      exact ⟨rfl, Scope.reorders_exportFirst h⟩
  · exact ⟨rfl, .refl _⟩

theorem sameGlobs_exportFirst (r : Registry) (m : ModulePath) (name : String) :
    r.SameGlobs (r.exportFirst m name) := by
  intro k
  rw [scope?, exportFirst, lookup_map_update m k (fun s => s.exportFirst name) r.scopes]
  split
  · next hk =>
      rw [hk, Option.map_map]
      rfl
  · rfl

/-- A module that exports an item by an import re-exports it under this name first, once the name
stands in front. -/
theorem head?_reexportNames_exportFirst (h : r.ExportsByImport m s name target) :
    (r.reexportNames m (s.exportFirst name) target).head? = some name := by
  obtain ⟨-, path, found, himport, hleads, hcanonical⟩ := h
  have hexported : (s.exportFirst name).exportedImports
      = (name, path) :: (s.exports.erase name).filterMap fun x =>
        (s.import? x).map fun path => (x, path) := by
    refine List.filterMap_cons_some ?_
    show ((s.import? name).map fun path => (name, path)) = _
    rw [himport, Option.map_some]
  simp only [reexportNames, hexported, List.filterMap_cons, hleads, Resolution.crate?, hcanonical,
    beq_self_eq_true, if_true, List.cons_append, List.head?_cons]

include hnodup hmem in
/-- The name in front is taken, if the module is the one whose re-export is taken. -/
theorem reexportOf?_exportFirst (htarget : target ≠ []) (h : r.ExportsByImport m s name target)
    {path : List String} (hpath : r.reexportOf? target = some path) (hmodule : ⟨path.dropLast⟩ = m) :
    (r.exportFirst m name).reexportOf? target = some (m.segments ++ [name]) := by
  have hreorders := reorders_exportFirst hnodup hmem h.1
  have halike := hreorders.leadsAlike (sameGlobs_exportFirst r m name)
  -- nothing is known of the names of other modules, and nothing has to be
  let P (p q : List String) : Prop :=
    p.length = q.length ∧ ((⟨p.dropLast⟩ : ModulePath) = m → q = m.segments ++ [name])
  have hoffers : List.Forall₂ (fun e e' => Option.Rel P (r.reexportAt? target e)
      ((r.exportFirst m name).reexportAt? target e')) r.scopes (r.exportFirst m name).scopes := by
    rw [exportFirst, List.forall₂_map_right_iff, List.forall₂_same]
    intro e he
    by_cases hhere : e.1 = m
    · obtain rfl := eq_of_mem_scopes hnodup hmem he hhere
      rw [if_pos rfl]
      have hmodules : (m, s).1 = (m, s.exportFirst name).1 := rfl
      refine hreorders.reexportAt?_rel halike hmodules (Scope.reorders_exportFirst h.1)
        fun x x' _ hhead => ⟨length_concat_segments m x x', fun _ => ?_⟩
      have hsame : (r.exportFirst m name).ExportsByImport m s name target :=
        (halike.exportsByImport_iff (.refl s)).mpr h
      rw [head?_reexportNames_exportFirst hsame] at hhead
      rw [Option.some.inj hhead]
    · rw [if_neg hhere]
      refine hreorders.reexportAt?_rel halike rfl (.refl e.2)
        fun x x' _ _ => ⟨length_concat_segments e.1 x x', fun hdrop => ?_⟩
      rw [dropLast_concat_segments] at hdrop
      exact absurd hdrop hhere
  have hrel := reexportOf?_rel htarget (fun p q hpq => hpq.1) hoffers
  rw [hpath] at hrel
  generalize (r.exportFirst m name).reexportOf? target = best at hrel
  cases hrel with
  | some hP => rw [hP.2 hmodule]

end ExportFirst

/-- If the path is the same whichever export of a module is put in front, there is one name. -/
theorem oneName_of_reexportOf?_eq (hnodup : (r.scopes.map (·.1)).Nodup) (htarget : target ≠ [])
    (hsame : ∀ m s name, (m, s) ∈ r.scopes → name ∈ s.exports →
      (r.exportFirst m name).reexportOf? target = r.reexportOf? target) : r.OneName target := by
  intro path hpath s hmem x y hx hy
  -- each of the names, put in front, is the one that is taken
  have hlast : ∀ name, r.ExportsByImport ⟨path.dropLast⟩ s name target →
      path = path.dropLast ++ [name] := by
    intro name hname
    have htaken := reexportOf?_exportFirst hnodup hmem htarget hname hpath rfl
    rw [hsame _ s name hmem hname.1, hpath] at htaken
    exact Option.some.inj htaken
  have hnames := (hlast x hx).symm.trans (hlast y hy)
  exact (List.cons.inj (List.append_cancel_left hnames)).1

/-! ## The path that is taken -/

/-- A type whose declared path is hidden is named by a re-export. -/
theorem visiblePath?_of_hidden {path : List String} (hcanonical : r.canonical path = path)
    (hhidden : r.isPathVisible path = false) : r.visiblePath? path = r.reexportOf? path := by
  rw [visiblePath?, hcanonical, hhidden, if_neg Bool.false_ne_true]

section OfSources

variable {sources : SourceSet} {d : Declaration}

/-- **A shortest re-export is taken, and the same one for every order, if there is one name.** The
path of a type that is hidden where it is declared is the shortest of its re-exports. However the
exports and globs of modules are ordered, as long as paths lead where they led, it stands in the
same module; it is the same path for every such order exactly if this module exports the type by
imports under one name. The same goes for the order of `use` items, as long as the globs of a module
keep theirs. -/
theorem visiblePath?_reorder_iff (hd : (ofSources sources).get? d.pathString = some d)
    (hhidden : (ofSources sources).isPathVisible d.segments = false) :
    (∀ path, (ofSources sources).visiblePath? d.segments = some path →
      (ofSources sources).IsReexport d.segments path
      ∧ ∀ p, (ofSources sources).IsReexport d.segments p → path.length ≤ p.length)
    ∧ ((∃ p, (ofSources sources).IsReexport d.segments p) →
      ((ofSources sources).visiblePath? d.segments).isSome = true)
    ∧ (∀ r', (ofSources sources).Reorders r' → (ofSources sources).LeadsAlike r' →
      (r'.visiblePath? d.segments).map List.dropLast
        = ((ofSources sources).visiblePath? d.segments).map List.dropLast)
    ∧ ((∀ r', (ofSources sources).Reorders r' → (ofSources sources).LeadsAlike r' →
        r'.visiblePath? d.segments = (ofSources sources).visiblePath? d.segments)
      ↔ (ofSources sources).OneName d.segments)
    ∧ ∀ sources', sources.ReordersUses sources' →
      (ofSources sources).SameGlobs (ofSources sources') →
      (ofSources sources).OneName d.segments →
      (ofSources sources').visiblePath? d.segments
        = (ofSources sources).visiblePath? d.segments := by
  have htarget : d.segments ≠ [] := List.append_ne_nil_of_right_ne_nil _ (List.cons_ne_nil _ _)
  have hcanonical := canonical_of_find? (find?_segments hd)
  have htaken := visiblePath?_of_hidden hcanonical hhidden
  have htaken' : ∀ {r'}, (ofSources sources).Reorders r' → (ofSources sources).LeadsAlike r' →
      r'.visiblePath? d.segments = r'.reexportOf? d.segments := fun h halike =>
    visiblePath?_of_hidden ((halike.canonical_eq _).trans hcanonical)
      ((h.isPathVisible_eq _).trans hhidden)
  have hsame : ∀ {r'}, (ofSources sources).Reorders r' → (ofSources sources).LeadsAlike r' →
      (ofSources sources).OneName d.segments →
      r'.visiblePath? d.segments = (ofSources sources).visiblePath? d.segments := by
    intro r' h halike hone
    rw [htaken' h halike, htaken]
    exact reexportOf?_eq_of_oneName htarget h halike hone
  refine ⟨fun path hpath => ?_, fun hexists => ?_, fun r' h halike => ?_, ⟨fun hall => ?_, ?_⟩, ?_⟩
  · rw [htaken] at hpath
    exact ⟨isReexport_of_reexportOf? _ hpath, fun p hp => length_le_of_reexportOf? _ hpath hp⟩
  · rw [htaken]
    exact (isSome_reexportOf?_iff _ htarget).mpr hexists
  · rw [htaken' h halike, htaken]
    exact map_dropLast_reexportOf? htarget h halike
  · have hnodup := nodup_scopes_ofSources sources
    refine oneName_of_reexportOf?_eq hnodup htarget fun m s name hmem hname => ?_
    have h := reorders_exportFirst hnodup hmem hname
    have halike := h.leadsAlike (sameGlobs_exportFirst _ m name)
    rw [← htaken' h halike, hall _ h halike, htaken]
  · exact fun hone r' h halike => hsame h halike hone
  · intro sources' huses hglobs hone
    have h := reorders_of_reordersUses huses
    exact hsame h (h.leadsAlike hglobs) hone

end OfSources

/-! ## Two names for one type

The module `a` exports a type of its private module `hidden` under some names. -/

/-- The crate with these names. -/
def namedSources (names : List String) : SourceSet where
  files := [
    ⟨"src/lib.rs", .root, [], [.outlined .everywhere "a"]⟩,
    ⟨"src/a.rs", ⟨["a"]⟩, [], .outlined .inherited "hidden" :: names.map fun name =>
      .use [] .everywhere false (.path ⟨"self", false⟩ (.path ⟨"hidden", false⟩
        (.rename ⟨"T", false⟩ ⟨name, false⟩)))⟩,
    ⟨"src/a/hidden.rs", ⟨["a", "hidden"]⟩, [], [.unitStruct .everywhere "T"]⟩]

/-- The type of `hidden`. -/
def namedType : Declaration :=
  (Declaration.ofStruct ⟨["a", "hidden"]⟩ ⟨"T", false⟩ [] false .unit).1

/-- With one name, the path does not depend on any order. With two names, it does. -/
theorem visiblePath?_namedType :
    (∀ r', (ofSources (namedSources ["A"])).Reorders r' →
      (ofSources (namedSources ["A"])).LeadsAlike r' →
      r'.visiblePath? namedType.segments = some ["a", "A"])
    ∧ ¬ ∀ r', (ofSources (namedSources ["A", "B"])).Reorders r' →
      (ofSources (namedSources ["A", "B"])).LeadsAlike r' →
      r'.visiblePath? namedType.segments
        = (ofSources (namedSources ["A", "B"])).visiblePath? namedType.segments := by
  obtain ⟨-, -, -, hone, -⟩ := @visiblePath?_reorder_iff (namedSources ["A"]) namedType rfl rfl
  obtain ⟨-, -, -, htwo, -⟩ := @visiblePath?_reorder_iff (namedSources ["A", "B"]) namedType rfl rfl
  constructor
  · refine hone.mpr ?_
    intro path hpath s hmem x y hx hy
    obtain rfl := Option.some.inj (show some ["a", "A"] = some path from hpath)
    obtain rfl := Option.some.inj ((scope?_eq_some_iff (namedSources ["A"]) _ s).mpr hmem)
    rw [List.mem_singleton.mp hx.1, List.mem_singleton.mp hy.1]
  · intro hall
    have hnames := htwo.mp hall ["a", "A"] rfl
    obtain ⟨s, hs⟩ : ∃ s, (ofSources (namedSources ["A", "B"])).scope? ⟨["a"]⟩ = some s := ⟨_, rfl⟩
    have hexports : ∀ name, name = "A" ∨ name = "B" → (ofSources
        (namedSources ["A", "B"])).ExportsByImport ⟨["a"]⟩ s name namedType.segments := by
      obtain rfl := Option.some.inj hs
      rintro name (rfl | rfl)
      · exact ⟨List.mem_cons_self, ⟨false, ["self", "hidden", "T"]⟩, _, rfl, rfl, rfl⟩
      · exact ⟨List.mem_cons_of_mem _ List.mem_cons_self, ⟨false, ["self", "hidden", "T"]⟩, _, rfl,
          rfl, rfl⟩
    have hAB := hnames s ((scope?_eq_some_iff _ _ s).mp hs) "A" "B" (hexports "A" (Or.inl rfl))
      (hexports "B" (Or.inr rfl))
    exact absurd hAB (by decide)

/-! ## Two globs

The module `a` exports a glob of its private module `mid`, which exports globs of its private
modules `x` and `y`. Both have a type `T`, but that of `x` is private. -/

/-- The crate with the globs of `mid` in this order. -/
def layeredSources (globs : List String) : SourceSet where
  files := [
    ⟨"src/lib.rs", .root, [], [.outlined .everywhere "a"]⟩,
    ⟨"src/a.rs", ⟨["a"]⟩, [], [.outlined .inherited "mid", .exportedGlobOf "mid"]⟩,
    ⟨"src/a/mid.rs", ⟨["a", "mid"]⟩, [],
      .outlined .inherited "x" :: .outlined .inherited "y" :: globs.map .exportedGlobOf⟩,
    ⟨"src/a/mid/x.rs", ⟨["a", "mid", "x"]⟩, [], [.unitStruct .inherited "T"]⟩,
    ⟨"src/a/mid/y.rs", ⟨["a", "mid", "y"]⟩, [], [.unitStruct .everywhere "T"]⟩]

/-- The type of `y`. -/
def layeredType : Declaration :=
  (Declaration.ofStruct ⟨["a", "mid", "y"]⟩ ⟨"T", false⟩ [] false .unit).1

theorem reordersUses_layeredSources :
    (layeredSources ["x", "y"]).ReordersUses (layeredSources ["y", "x"]) := by
  refine ⟨(layeredSources ["x", "y"]).bodies.take 2, ⟨["a", "mid"]⟩, _, _,
    (layeredSources ["x", "y"]).bodies.drop 3, rfl, rfl, ?_, ?_, rfl⟩
  · exact ((List.Perm.swap _ _ []).cons _).cons _
  · -- none of the items imports a name
    refine List.pairwise_of_forall_mem_list fun i hi j _ name => ?_
    rintro ⟨himports, -⟩
    simp only [List.map_cons, List.map_nil, List.mem_cons, List.not_mem_nil, or_false] at hi
    rcases hi with rfl | rfl | rfl | rfl <;> exact Bool.false_ne_true himports

/-- The order of the globs decides whether there is a visible path. -/
theorem not_visiblePath?_reordersUses :
    ¬ ∀ (sources sources' : SourceSet) (d : Declaration),
      (ofSources sources).get? d.pathString = some d →
      (ofSources sources).isPathVisible d.segments = false → sources.ReordersUses sources' →
      (ofSources sources').visiblePath? d.segments
        = (ofSources sources).visiblePath? d.segments := by
  intro h
  have hsame := h _ _ layeredType rfl rfl reordersUses_layeredSources
  have hfirst : (ofSources (layeredSources ["x", "y"])).visiblePath? layeredType.segments
      = none := rfl
  have hsecond : (ofSources (layeredSources ["y", "x"])).visiblePath? layeredType.segments
      = some ["a", "T"] := rfl
  rw [hfirst, hsecond] at hsame
  cases hsame

end Registry

end BuilderForge
