import BuilderForge.Config
import BuilderForge.Proofs.ModuleTree.Paths

set_option autoImplicit false

/-! # The names that a module declares

A module of a tree declares the modules of its builders, brings in their wrappers, and declares the
modules inside of it. Adding a builder makes sure that no builder module gets the name of another
module. That wrappers are named differently from builder modules follows from how both are named;
but a module inside can have the name of a wrapper. So no name is declared twice if and only if
the names of the modules inside are kept apart (`nodup_ownNames_iff_namesApart`).
-/

namespace BuilderForge

open Code (Ident Tokens)
open Code.Tokens

namespace ModuleTree

/-! ## Names in code -/

/-- The name that code begins to declare: `mod x` declares `x`, and `use a::x` brings it in. -/
def declaredFirst? : Tokens → Option String
  | .leaf (.word kw) _ :: .leaf (.word x) _ :: ts =>
      if kw = ⟨"mod", false⟩ then some x.name
      else if kw = ⟨"use", false⟩ then
        match ts with
        | .leaf (.punct ':' _) _ :: .leaf (.punct ':' _) _ :: .leaf (.word y) _ :: _ => some y.name
        | _ => none
      else none
  | _ => none

/-- The names that code declares, but for those inside of bodies. -/
def declaredNames : Tokens → List String
  | [] => []
  | t :: ts => (declaredFirst? (t :: ts)).toList ++ declaredNames ts

section Names

variable (exposure : Exposure)

theorem declaredNames_builderDecl (b : RenderedBuilder) {body : Tokens}
    (hbody : body = op ";" ∨ ∃ code, body = braces code) (ts : Tokens) :
    declaredNames (builderDecl exposure.tokens b body ++ ts)
      = b.module.name :: b.wrapper.name :: declaredNames ts := by
  rcases hbody with rfl | ⟨code, rfl⟩ <;> cases exposure <;> rfl

theorem declaredNames_moduleDecl (name : String) {body : Tokens}
    (hbody : body = op ";" ∨ ∃ code, body = braces code) (ts : Tokens) :
    declaredNames (moduleDecl exposure.tokens name body ++ ts)
      = (identFor name).name :: declaredNames ts := by
  rcases hbody with rfl | ⟨code, rfl⟩ <;> cases exposure <;> rfl

theorem declaredNames_builders {body : RenderedBuilder → Tokens}
    (hbody : ∀ b, body b = op ";" ∨ ∃ code, body b = braces code) (bs : List RenderedBuilder)
    (ts : Tokens) :
    declaredNames (bs.flatMap (fun b => builderDecl exposure.tokens b (body b)) ++ ts)
      = bs.flatMap (fun b => [b.module.name, b.wrapper.name]) ++ declaredNames ts := by
  induction bs with
  | nil => rfl
  | cons b bs ih =>
      rw [List.flatMap_cons, List.append_assoc, declaredNames_builderDecl exposure b (hbody b), ih]
      rfl

theorem declaredNames_outlined (cs : ModuleForest) :
    declaredNames (outlined exposure.tokens cs) = cs.names.map fun n => (identFor n).name := by
  induction cs using ModuleForest.induction with
  | nil => rfl
  | cons name t rest ih =>
      rw [outlined, declaredNames_moduleDecl exposure name (Or.inl rfl), ih]
      rfl

theorem declaredNames_nestedForest (cs : ModuleForest) :
    declaredNames (nestedForest exposure.tokens cs) = cs.names.map fun n => (identFor n).name := by
  induction cs using ModuleForest.induction with
  | nil => rfl
  | cons name t rest ih =>
      rw [nestedForest, declaredNames_moduleDecl exposure name (Or.inr ⟨_, rfl⟩), ih]
      rfl

/-- The names that a module declares: those of its builders, each with its wrapper, and those of
the modules inside of it. -/
def ownNames : ModuleTree → List String
  | .node bs cs => bs.flatMap (fun b => [b.module.name, b.wrapper.name])
      ++ cs.names.map fun n => (identFor n).name

theorem declaredNames_declarations (t : ModuleTree) :
    declaredNames (declarations exposure.tokens t) = t.ownNames := by
  obtain ⟨bs, cs⟩ := t
  rw [declarations, declaredNames_builders exposure (fun _ => Or.inl rfl),
    declaredNames_outlined, ownNames]

theorem declaredNames_nested (t : ModuleTree) :
    declaredNames (nested exposure.tokens t) = t.ownNames := by
  obtain ⟨bs, cs⟩ := t
  rw [nested, declaredNames_builders exposure (fun _ => Or.inr ⟨_, rfl⟩),
    declaredNames_nestedForest, ownNames]

end Names

/-! ## All modules of a tree -/

mutual

/-- A tree and all modules inside of it. -/
def modules : ModuleTree → List ModuleTree
  | .node bs cs => .node bs cs :: forestModules cs

/-- Modules and all modules inside of them. -/
def forestModules : ModuleForest → List ModuleTree
  | .nil => []
  | .cons _ t rest => modules t ++ forestModules rest

end

/-- The module at the end of these names. -/
def moduleAt? : List String → ModuleTree → Option ModuleTree
  | [], t => some t
  | name :: rest, .node _ cs => (cs.find? name).bind (moduleAt? rest)

mutual

/-- Every module is at the end of some names. -/
theorem exists_moduleAt? {u : ModuleTree} : ∀ {t : ModuleTree}, t.Tidy → u ∈ t.modules →
    ∃ space, moduleAt? space t = some u
  | .node bs cs, ht, h => by
      rcases List.mem_cons.mp h with rfl | h
      · exact ⟨[], rfl⟩
      · obtain ⟨name, t, space, hfind, hat⟩ := exists_moduleAt?_of_forest ht h
        exact ⟨name :: space, by rw [moduleAt?, hfind, Option.bind_some, hat]⟩

theorem exists_moduleAt?_of_forest {u : ModuleTree} : ∀ {cs : ModuleForest}, TidyForest cs →
    u ∈ forestModules cs → ∃ name t space, cs.find? name = some t ∧ moduleAt? space t = some u
  | .nil, _, h => by cases h
  | .cons name t rest, ⟨hlt, _, ht, hrest⟩, h => by
      rcases List.mem_append.mp h with h | h
      · obtain ⟨space, hat⟩ := exists_moduleAt? ht h
        exact ⟨name, t, space, by simp [ModuleForest.find?], hat⟩
      · obtain ⟨n, t', space, hfind, hat⟩ := exists_moduleAt?_of_forest hrest h
        -- a later module has a greater name
        have hne : name ≠ n := (hlt n (ModuleForest.mem_names_of_find? hfind)).ne
        exact ⟨n, t', space, by rw [ModuleForest.find?, if_neg hne, hfind], hat⟩

end

theorem mem_modules_self (t : ModuleTree) : t ∈ t.modules := by
  obtain ⟨bs, cs⟩ := t
  exact List.mem_cons_self

theorem modules_subset_of_find? {name : String} {t : ModuleTree} {cs : ModuleForest}
    (h : cs.find? name = some t) : t.modules ⊆ forestModules cs := by
  induction cs using ModuleForest.induction with
  | nil => cases h
  | cons n u rest ih =>
      unfold ModuleForest.find? at h
      rw [forestModules]
      split at h
      · obtain rfl := Option.some.inj h
        exact List.subset_append_left _ _
      · exact List.Subset.trans (ih h) (List.subset_append_right _ _)

theorem mem_modules_of_moduleAt? {u : ModuleTree} (space : List String) {t : ModuleTree}
    (h : moduleAt? space t = some u) : u ∈ t.modules := by
  induction space generalizing t with
  | nil =>
      obtain rfl := Option.some.inj h
      exact mem_modules_self t
  | cons name space ih =>
      obtain ⟨bs, cs⟩ := t
      obtain ⟨t', hfind, hat⟩ := Option.bind_eq_some_iff.mp h
      exact List.mem_cons_of_mem _ (modules_subset_of_find? hfind (ih hat))

/-! ## Modules as they are written -/

/-- The codes of all modules in a layout: each is a file that is not that of a builder, or they
stand inside of each other. -/
def moduleCodes (layout : Layout) (vis : Tokens) (t : ModuleTree) : List Tokens :=
  match layout with
  | .tree => ((t.plan vis).filter fun f => f.owner.isNone).map PlainFile.code
  | .singleFile => t.modules.map (nested vis)

mutual

theorem codes_plainFiles (vis : Tokens) : ∀ (t : ModuleTree) (dir : List String),
    ((t.plainFiles vis dir).filter fun f => f.owner.isNone).map PlainFile.code
      = t.modules.map (declarations vis)
  | .node bs cs, dir => by
      have hbuilders : (bs.map (builderFile dir)).filter (fun f => f.owner.isNone) = [] := by
        simp [List.filter_eq_nil_iff, builderFile]
      rw [plainFiles, List.cons_append, List.filter_cons_of_pos rfl, List.filter_append, hbuilders,
        List.nil_append, List.map_cons, codes_plainForest vis cs dir, modules, List.map_cons]

theorem codes_plainForest (vis : Tokens) : ∀ (cs : ModuleForest) (dir : List String),
    ((plainForest vis dir cs).filter fun f => f.owner.isNone).map PlainFile.code
      = (forestModules cs).map (declarations vis)
  | .nil, _ => rfl
  | .cons name t rest, dir => by
      rw [plainForest, List.filter_append, List.map_append, codes_plainFiles vis t,
        codes_plainForest vis rest, forestModules, List.map_append]

end

/-- In either layout the names that the codes declare are those of the modules. -/
theorem forall_moduleCodes_iff {t : ModuleTree} (ht : t.Tidy) (layout : Layout)
    (exposure : Exposure) :
    (∀ code ∈ t.moduleCodes layout exposure.tokens, (declaredNames code).Nodup)
      ↔ ∀ u ∈ t.modules, u.ownNames.Nodup := by
  cases layout with
  | singleFile => simp only [moduleCodes, List.forall_mem_map, declaredNames_nested]
  | tree =>
      cases hempty : t.isEmpty with
      | true =>
          -- nothing is written, and there is nothing to be declared
          obtain rfl := eq_empty_of_isEmpty ht hempty
          have hplan : plan exposure.tokens empty = [] := rfl
          have hmodules : empty.modules = [empty] := rfl
          have hnames : empty.ownNames = [] := rfl
          simp [moduleCodes, hplan, hmodules, hnames]
      | false =>
          simp only [moduleCodes, plan, hempty, Bool.false_eq_true, if_false, codes_plainFiles,
            List.forall_mem_map, declaredNames_declarations]

/-! ## Entries of a module -/

theorem mem_entries_node_iff {bs : List RenderedBuilder} {cs : ModuleForest} (h : TidyForest cs)
    {e : Entry} : e ∈ entries (.node bs cs) ↔ (∃ b ∈ bs, Entry.mk [] b = e)
      ∨ ∃ name t, cs.find? name = some t ∧ ∃ e' ∈ t.entries, e'.inside name = e := by
  rw [entries, List.mem_append, List.mem_map, mem_forestEntries_iff h]

/-- The builders of a module are the entries with its names. -/
theorem mem_entries_iff_moduleAt? (space : List String) {t : ModuleTree} (ht : t.Tidy)
    {b : RenderedBuilder} : (⟨space, b⟩ : Entry) ∈ t.entries
      ↔ ∃ u, moduleAt? space t = some u ∧ b ∈ u.builders := by
  induction space generalizing t with
  | nil =>
      obtain ⟨bs, cs⟩ := t
      rw [mem_entries_node_iff ht]
      constructor
      · rintro (⟨b', hb, heq⟩ | ⟨name, t, -, e, -, heq⟩)
        · obtain rfl := (Entry.mk.inj heq).2
          exact ⟨_, rfl, hb⟩
        · cases (Entry.mk.inj heq).1
      · rintro ⟨u, hu, hb⟩
        obtain rfl := Option.some.inj hu
        exact Or.inl ⟨b, hb, rfl⟩
  | cons name space ih =>
      obtain ⟨bs, cs⟩ := t
      rw [mem_entries_node_iff ht]
      constructor
      · rintro (⟨b', -, heq⟩ | ⟨n, t, hfind, ⟨space', b'⟩, he, heq⟩)
        · cases (Entry.mk.inj heq).1
        · obtain ⟨hspace, rfl⟩ := Entry.mk.inj heq
          obtain ⟨rfl, rfl⟩ := List.cons.inj hspace
          obtain ⟨u, hu, hb⟩ := (ih (tidy_of_find? ht hfind).1).mp he
          exact ⟨u, by rw [moduleAt?, hfind, Option.bind_some, hu], hb⟩
      · rintro ⟨u, hu, hb⟩
        obtain ⟨t, hfind, hat⟩ := Option.bind_eq_some_iff.mp hu
        have he := (ih (tidy_of_find? ht hfind).1).mpr ⟨u, hat, hb⟩
        exact Or.inr ⟨name, t, hfind, _, he, rfl⟩

theorem exists_find?_of_mem_names {name : String} {cs : ModuleForest} (h : name ∈ cs.names) :
    ∃ t, cs.find? name = some t := by
  induction cs using ModuleForest.induction with
  | nil => cases h
  | cons n t rest ih =>
      unfold ModuleForest.find?
      split
      · exact ⟨t, rfl⟩
      · next hne =>
          rcases List.mem_cons.mp h with rfl | h
          · exact absurd rfl hne
          · exact ih h

/-- The modules inside of a module are on the way to entries. -/
theorem exists_entry_iff_moduleAt? (space : List String) {t : ModuleTree} (ht : t.Tidy)
    {name : String} : (∃ e ∈ t.entries, ∃ rest, e.space = space ++ name :: rest)
      ↔ ∃ u, moduleAt? space t = some u ∧ name ∈ u.children.names := by
  induction space generalizing t with
  | nil =>
      obtain ⟨bs, cs⟩ := t
      constructor
      · rintro ⟨e, he, rest, hspace⟩
        rcases (mem_entries_node_iff ht).mp he with ⟨b, -, rfl⟩ | ⟨n, t, hfind, e, -, rfl⟩
        · cases hspace
        · obtain ⟨rfl, -⟩ := List.cons.inj hspace
          exact ⟨_, rfl, ModuleForest.mem_names_of_find? hfind⟩
      · rintro ⟨u, hu, hname⟩
        obtain rfl := Option.some.inj hu
        obtain ⟨t, hfind⟩ := exists_find?_of_mem_names hname
        obtain ⟨e, he⟩ := List.exists_mem_of_ne_nil _ (tidy_of_find? ht hfind).2
        exact ⟨e.inside name, (mem_entries_node_iff ht).mpr (Or.inr ⟨name, t, hfind, e, he, rfl⟩),
          e.space, rfl⟩
  | cons n space ih =>
      obtain ⟨bs, cs⟩ := t
      constructor
      · rintro ⟨e, he, rest, hspace⟩
        rcases (mem_entries_node_iff ht).mp he with ⟨b, -, rfl⟩ | ⟨m, t, hfind, e', he', rfl⟩
        · cases hspace
        · obtain ⟨rfl, hspace'⟩ := List.cons.inj hspace
          obtain ⟨u, hu, hname⟩ := (ih (tidy_of_find? ht hfind).1).mp ⟨e', he', rest, hspace'⟩
          exact ⟨u, by rw [moduleAt?, hfind, Option.bind_some, hu], hname⟩
      · rintro ⟨u, hu, hname⟩
        obtain ⟨t, hfind, hat⟩ := Option.bind_eq_some_iff.mp hu
        obtain ⟨e, he, rest, hspace⟩ := (ih (tidy_of_find? ht hfind).1).mpr ⟨u, hat, hname⟩
        refine ⟨e.inside n, (mem_entries_node_iff ht).mpr (Or.inr ⟨n, t, hfind, e, he, rfl⟩), rest, ?_⟩
        rw [Entry.inside, hspace, List.cons_append]

theorem tidy_of_moduleAt? (space : List String) {t u : ModuleTree} (ht : t.Tidy)
    (h : moduleAt? space t = some u) : u.Tidy := by
  induction space generalizing t with
  | nil =>
      obtain rfl := Option.some.inj h
      exact ht
  | cons name space ih =>
      obtain ⟨bs, cs⟩ := t
      obtain ⟨t', hfind, hat⟩ := Option.bind_eq_some_iff.mp h
      exact ih (tidy_of_find? ht hfind).1 hat

theorem sublist_forestEntries {name : String} {t : ModuleTree} {cs : ModuleForest}
    (h : cs.find? name = some t) :
    (t.entries.map (Entry.inside name)).Sublist (forestEntries cs) := by
  induction cs using ModuleForest.induction with
  | nil => cases h
  | cons n u rest ih =>
      unfold ModuleForest.find? at h
      rw [forestEntries]
      split at h
      · next hname =>
          obtain rfl := Option.some.inj h
          rw [hname]
          exact List.sublist_append_left _ _
      · exact (ih h).trans (List.sublist_append_right _ _)

/-- The builders of a module stand in the order of their entries. -/
theorem sublist_entries (space : List String) {t u : ModuleTree} (h : moduleAt? space t = some u) :
    (u.builders.map (Entry.mk space)).Sublist t.entries := by
  induction space generalizing t with
  | nil =>
      obtain rfl := Option.some.inj h
      obtain ⟨bs, cs⟩ := t
      exact List.sublist_append_left _ _
  | cons name space ih =>
      obtain ⟨bs, cs⟩ := t
      obtain ⟨t', hfind, hat⟩ := Option.bind_eq_some_iff.mp h
      have hinside := ((ih hat).map (Entry.inside name)).trans (sublist_forestEntries hfind)
      rw [List.map_map] at hinside
      exact hinside.trans (List.sublist_append_right _ _)

/-! ## Names of one module -/

/-- Where a builder stands, and the names it goes by. -/
structure Site where
  space : List String
  module : Ident
  wrapper : Ident
  deriving DecidableEq

def Entry.site (e : Entry) : Site := ⟨e.space, e.builder.module, e.builder.wrapper⟩

/-- The builder goes by the names that a type gives it. -/
def Entry.IsNamed (e : Entry) : Prop := ∃ type : Ident,
  e.builder.module = builderModuleIdent type ∧ e.builder.wrapper = wrapperIdent type

/-- A module of a builder never has the name of a wrapper: one begins with a small letter, and the
other with a capital. -/
theorem builderModuleIdent_ne_wrapperIdent (type type' : Ident) :
    (builderModuleIdent type).name ≠ (wrapperIdent type').name := by
  intro h
  have hlist := congrArg String.toList h
  simp [builderModuleIdent, wrapperIdent] at hlist

/-- The builders of a module and their wrappers have names of their own: two builder modules of one
name would clash. -/
theorem nodup_builderNames (space : List String) {bs : List RenderedBuilder}
    (hnamed : ∀ b ∈ bs, (Entry.mk space b).IsNamed)
    (hclash : bs.Pairwise fun b b' =>
      ¬ Clash (Entry.mk space b).path (Entry.mk space b').path)
    (hwrapper : bs.Pairwise fun b b' => b.wrapper.name ≠ b'.wrapper.name) :
    (bs.flatMap fun b => [b.module.name, b.wrapper.name]).Nodup := by
  have hmixed : ∀ b ∈ bs, ∀ b' ∈ bs, b.module.name ≠ b'.wrapper.name := by
    intro b hb b' hb'
    obtain ⟨type, hmodule, -⟩ := hnamed b hb
    obtain ⟨type', -, hwrapper⟩ := hnamed b' hb'
    show b.module.name ≠ b'.wrapper.name
    rw [hmodule, hwrapper]
    exact builderModuleIdent_ne_wrapperIdent type type'
  rw [List.nodup_flatMap]
  refine ⟨fun b hb => ?_, ?_⟩
  · have hne := hmixed b hb b hb
    simp [hne]
  · refine (hclash.and hwrapper).imp_of_mem ?_
    intro b b' hb hb' ⟨hclash, hwrapper⟩
    have hmodule : b.module.name ≠ b'.module.name := by
      intro heq
      obtain ⟨type, htype, -⟩ := hnamed b hb
      obtain ⟨type', htype', -⟩ := hnamed b' hb'
      have hraw : b.module = b'.module := by
        have hb : b.module = builderModuleIdent type := htype
        have hb' : b'.module = builderModuleIdent type' := htype'
        rw [hb, hb'] at heq ⊢
        exact congrArg (Ident.mk · false) heq
      exact hclash (Or.inl (by rw [Entry.path, Entry.path, hraw]))
    have hleft := hmixed b hb b' hb'
    have hright := hmixed b' hb' b hb
    simp [Function.onFun, List.disjoint_left, hmodule, hwrapper, hleft, Ne.symm hright]

/-- No name is declared twice in a module if those of the modules inside are kept apart. -/
theorem nodup_ownNames_iff {bs : List RenderedBuilder} {cs : ModuleForest} (ht : TidyForest cs)
    (hbs : (bs.flatMap fun b => [b.module.name, b.wrapper.name]).Nodup) :
    (ownNames (.node bs cs)).Nodup
      ↔ (∀ m ∈ cs.names, ∀ n ∈ cs.names, (identFor m).name = (identFor n).name → m = n)
        ∧ ∀ b ∈ bs, ∀ n ∈ cs.names,
          (identFor n).name ≠ b.module.name ∧ (identFor n).name ≠ b.wrapper.name := by
  have hnames : cs.names.Nodup := by
    induction cs using ModuleForest.induction with
    | nil => exact List.nodup_nil
    | cons name t rest ih =>
        obtain ⟨hlt, -, -, hrest⟩ := ht
        refine List.nodup_cons.mpr ⟨fun hmem => ?_, ih hrest⟩
        exact lt_irrefl name (hlt name hmem)
  rw [ownNames, List.nodup_append', List.nodup_map_iff_inj_on hnames]
  constructor
  · rintro ⟨-, hinj, hdisjoint⟩
    refine ⟨hinj, fun b hb n hn => ?_⟩
    have hn := List.mem_map_of_mem (f := fun n => (identFor n).name) hn
    constructor
    · intro heq
      exact hdisjoint (List.mem_flatMap.mpr ⟨b, hb, List.mem_cons_self⟩) (heq ▸ hn)
    · intro heq
      exact hdisjoint (List.mem_flatMap.mpr ⟨b, hb, by simp⟩) (heq ▸ hn)
  · rintro ⟨hinj, hdisjoint⟩
    refine ⟨hbs, hinj, fun name hname hname' => ?_⟩
    obtain ⟨b, hb, hname⟩ := List.mem_flatMap.mp hname
    obtain ⟨n, hn, rfl⟩ := List.mem_map.mp hname'
    obtain ⟨hmodule, hwrapper⟩ := hdisjoint b hb n hn
    simp [hmodule, hwrapper] at hname

/-! ## Names of all modules -/

/-- The modules on the way to builders are named apart: not like a builder module or a wrapper
beside them, and not like each other, once they are written as identifiers. -/
structure NamesApart (sites : List Site) : Prop where
  builders : ∀ d ∈ sites, ∀ e ∈ sites, ∀ name rest, e.space = d.space ++ name :: rest →
    (identFor name).name ≠ d.module.name ∧ (identFor name).name ≠ d.wrapper.name
  modules : ∀ d ∈ sites, ∀ e ∈ sites, ∀ above m n rest rest', d.space = above ++ m :: rest →
    e.space = above ++ n :: rest' → (identFor m).name = (identFor n).name → m = n

theorem namesApart_congr {sites sites' : List Site} (h : ∀ s, s ∈ sites ↔ s ∈ sites') :
    NamesApart sites ↔ NamesApart sites' := by
  constructor
  · exact fun hapart => ⟨fun d hd e he => hapart.builders d ((h d).mpr hd) e ((h e).mpr he),
      fun d hd e he => hapart.modules d ((h d).mpr hd) e ((h e).mpr he)⟩
  · exact fun hapart => ⟨fun d hd e he => hapart.builders d ((h d).mp hd) e ((h e).mp he),
      fun d hd e he => hapart.modules d ((h d).mp hd) e ((h e).mp he)⟩

/-- In a tree of builders for different types, no module declares a name twice if and only if the
modules inside are named apart. -/
theorem nodup_ownNames_iff_namesApart {t : ModuleTree} (ht : t.Grown)
    (hnamed : ∀ e ∈ t.entries, e.IsNamed)
    (hwrapper : t.entries.Pairwise fun e e' => e.space = e'.space →
      e.builder.wrapper.name ≠ e'.builder.wrapper.name) :
    (∀ u ∈ t.modules, u.ownNames.Nodup) ↔ NamesApart (t.entries.map Entry.site) := by
  have htidy := ht.tidy
  -- what it takes for the module at the end of some names
  have hmodule : ∀ space u, moduleAt? space t = some u → (u.ownNames.Nodup
      ↔ (∀ m ∈ u.children.names, ∀ n ∈ u.children.names,
          (identFor m).name = (identFor n).name → m = n)
        ∧ ∀ b ∈ u.builders, ∀ n ∈ u.children.names,
          (identFor n).name ≠ b.module.name ∧ (identFor n).name ≠ b.wrapper.name) := by
    intro space u hu
    have hsublist := sublist_entries space hu
    have hutidy := tidy_of_moduleAt? space htidy hu
    obtain ⟨bs, cs⟩ := u
    refine nodup_ownNames_iff hutidy (nodup_builderNames space ?_ ?_ ?_)
    · exact fun b hb => hnamed _ (hsublist.subset (List.mem_map_of_mem hb))
    · exact List.pairwise_map.mp (ht.pairwise.sublist hsublist)
    · exact (List.pairwise_map.mp (hwrapper.sublist hsublist)).imp fun h => h rfl
  constructor
  · intro hall
    refine ⟨?_, ?_⟩
    · intro s hs s' hs' name rest hspace
      obtain ⟨d, hd, rfl⟩ := List.mem_map.mp hs
      obtain ⟨e, he, rfl⟩ := List.mem_map.mp hs'
      obtain ⟨u, hu, hname⟩ := (exists_entry_iff_moduleAt? d.space htidy).mp ⟨e, he, rest, hspace⟩
      obtain ⟨v, hv, hbuilder⟩ := (mem_entries_iff_moduleAt? d.space htidy).mp hd
      obtain rfl := Option.some.inj (hu.symm.trans hv)
      have hnodup := hall u (mem_modules_of_moduleAt? d.space hu)
      exact ((hmodule d.space u hu).mp hnodup).2 d.builder hbuilder name hname
    · intro s hs s' hs' above m n rest rest' hd' he' heq
      obtain ⟨d, hd, rfl⟩ := List.mem_map.mp hs
      obtain ⟨e, he, rfl⟩ := List.mem_map.mp hs'
      obtain ⟨u, hu, hm⟩ := (exists_entry_iff_moduleAt? above htidy).mp ⟨d, hd, rest, hd'⟩
      obtain ⟨v, hv, hn⟩ := (exists_entry_iff_moduleAt? above htidy).mp ⟨e, he, rest', he'⟩
      obtain rfl := Option.some.inj (hu.symm.trans hv)
      have hnodup := hall u (mem_modules_of_moduleAt? above hu)
      exact ((hmodule above u hu).mp hnodup).1 m hm n hn heq
  · intro hapart u hmem
    obtain ⟨space, hu⟩ := exists_moduleAt? htidy hmem
    refine (hmodule space u hu).mpr ⟨?_, ?_⟩
    · intro m hm n hn heq
      obtain ⟨d, hd, rest, hd'⟩ := (exists_entry_iff_moduleAt? space htidy).mpr ⟨u, hu, hm⟩
      obtain ⟨e, he, rest', he'⟩ := (exists_entry_iff_moduleAt? space htidy).mpr ⟨u, hu, hn⟩
      exact hapart.modules _ (List.mem_map_of_mem hd) _ (List.mem_map_of_mem he) space m n rest
        rest' hd' he' heq
    · intro b hb n hn
      have hd := (mem_entries_iff_moduleAt? space htidy).mpr ⟨u, hu, hb⟩
      obtain ⟨e, he, rest, he'⟩ := (exists_entry_iff_moduleAt? space htidy).mpr ⟨u, hu, hn⟩
      exact hapart.builders _ (List.mem_map_of_mem hd) _ (List.mem_map_of_mem he) n rest he'

/-- If the names of modules are those of their identifiers, only a wrapper can be in the way of a
module: builder modules have been kept apart from other modules one by one. -/
theorem namesApart_iff_of_plain {t : ModuleTree} (ht : t.Grown)
    (hnamed : ∀ e ∈ t.entries, e.IsNamed)
    (hplain : ∀ e ∈ t.entries, ∀ name ∈ e.space, (identFor name).name = name) :
    NamesApart (t.entries.map Entry.site) ↔ ∀ d ∈ t.entries.map Entry.site,
      ∀ e ∈ t.entries.map Entry.site, ∀ name rest, e.space = d.space ++ name :: rest →
        name ≠ d.wrapper.name := by
  have hself : ∀ e ∈ t.entries, ∀ above name rest, e.space = above ++ name :: rest →
      (identFor name).name = name := by
    intro e he above name rest hspace
    refine hplain e he name ?_
    rw [hspace]
    simp
  constructor
  · intro hapart s hs s' hs' name rest hspace
    have hne := (hapart.builders s hs s' hs' name rest hspace).2
    obtain ⟨e, he, rfl⟩ := List.mem_map.mp hs'
    rwa [hself e he _ name rest hspace] at hne
  · intro hwrappers
    refine ⟨?_, ?_⟩
    · intro s hs s' hs' name rest hspace
      have hwrapper := hwrappers s hs s' hs' name rest hspace
      obtain ⟨d, hd, rfl⟩ := List.mem_map.mp hs
      obtain ⟨e, he, rfl⟩ := List.mem_map.mp hs'
      rw [hself e he _ name rest hspace]
      refine ⟨fun hname => ?_, hwrapper⟩
      -- the path of the builder would begin the path of the other one
      obtain ⟨type, htype, -⟩ := hnamed d hd
      have htext : d.builder.module.text = name := by
        rw [hname]
        show d.builder.module.text = d.builder.module.name
        rw [htype]
        rfl
      have hprefix : d.path <+: e.path := by
        have hspace : e.space = d.space ++ name :: rest := hspace
        refine ⟨rest ++ [e.builder.module.text], ?_⟩
        rw [Entry.path, Entry.path, hspace, htext]
        simp
      have hdiffer : d ≠ e := by
        rintro rfl
        have hlength := congrArg List.length hspace
        simp at hlength
      have hsymm : Std.Symm fun x y : Entry => ¬ Clash x.path y.path := ⟨fun _ _ h h' => h h'.symm⟩
      exact ht.pairwise.forall hd he hdiffer (Or.inl hprefix)
    · intro s hs s' hs' above m n rest rest' hd' he' heq
      obtain ⟨d, hd, rfl⟩ := List.mem_map.mp hs
      obtain ⟨e, he, rfl⟩ := List.mem_map.mp hs'
      rwa [hself d hd above m rest hd', hself e he above n rest' he'] at heq

end ModuleTree

end BuilderForge
