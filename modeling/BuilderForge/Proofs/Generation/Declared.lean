import BuilderForge.Proofs.Generation.Accounts
import BuilderForge.Proofs.ModuleTree.Declared

set_option autoImplicit false

/-! # Names that a run declares

A run that ends well writes the tree of its builders. Whether a module of this tree declares a name
twice can be told from the types that got builders, by the modules that these are in
(`declaresOnce_iff`): the tree has been kept free of clashes between builder modules and other
modules, but nobody looks at the wrappers.
-/

namespace BuilderForge

open Code (Tokens)
open ModuleTree (Entry Site NamesApart declaredNames)

/-! ## The tree of a run -/

/-- The tree that a run has made when it is through with the types. -/
def writtenTree (c : Config) (sources : SourceSet) : ModuleTree :=
  let r := Registry.ofSources sources
  match r.annotated.foldlM (Progress.addType c r) (Progress.start sources) with
  | .ok p => p.tree
  | .error _ => ModuleTree.empty

theorem writtenTree_eq_treeOf {c : Config} {sources : SourceSet}
    {found : List (Declaration × Finding)}
    (hfound : FindsAll (Registry.ofSources sources) c.shadowPolicy c.exposure ModuleTree.empty
      found)
    (hmap : found.map Prod.fst = selectedTypes c sources) :
    writtenTree c sources = treeOf found := by
  have hrun := (Progress.foldlM_addType_eq_ok_iff (p := Progress.start sources) _).mpr
    ⟨found, hfound, hmap, rfl⟩
  simp only [writtenTree, hrun, recordAll_tree]
  rfl

/-- The files hold the code of a tree. In the layout of a tree there is a file for each part of the
plan; else there is one for all modules. -/
def HoldsTree (c : Config) (t : ModuleTree) (files : List GeneratedFile) : Prop :=
  match c.layout with
  | .tree => List.Forall₂ (fun p f => p.formatted = .ok f) (t.plan c.exposure.tokens) files
  | .singleFile => ∃ code,
      (if (t.nested c.exposure.tokens).isEmpty then .ok ""
        else ModuleTree.formatted (t.nested c.exposure.tokens)) = .ok code
      ∧ files = [⟨ModuleTree.singleFileName, ModuleTree.withHeader code, none⟩]

theorem holdsTree_of_layOut {c : Config} {t : ModuleTree} (ht : t.Tidy)
    {files : List GeneratedFile} (h : layOut c t = .ok files) : HoldsTree c t files := by
  unfold layOut at h
  unfold HoldsTree
  cases hlayout : c.layout with
  | tree =>
      rw [hlayout] at h
      rw [ModuleTree.renderTree_eq_ok_iff ht, mapM_eq_ok_iff] at h
      exact h.2
  | singleFile =>
      rw [hlayout] at h
      cases hfile : t.renderSingleFile c.exposure with
      | error e =>
          rw [hfile] at h
          cases h
      | ok f =>
          rw [hfile] at h
          obtain rfl := Except.ok.inj h
          obtain ⟨ts, hts, code, hcode, rfl⟩ := ModuleTree.renderSingleFile_eq_ok_iff.mp hfile
          obtain ⟨-, rfl⟩ := (ModuleTree.inlineTokens_eq_ok_iff _ ht).mp hts
          exact ⟨code, hcode, rfl⟩

/-! ## The types that got builders -/

/-- The selected types that got builders. -/
def builtTypes (c : Config) (sources : SourceSet) (g : Generated) : List Declaration :=
  (selectedTypes c sources).filter fun d =>
    (g.builders.map BuilderSummary.typeName).contains d.pathString

/-- Where the builder of a type stands, and what it is called. -/
def Declaration.site (d : Declaration) : Site :=
  ⟨d.module.segments, builderModuleIdent d.ident, wrapperIdent d.ident⟩

theorem PlannedBuilder.IsPlanOf.site {r : Registry} {d : Declaration} {b : PlannedBuilder}
    (h : b.IsPlanOf r d) : b.entry.site = d.site := by
  show (⟨b.spec.space.segments, b.spec.module, b.spec.wrapper⟩ : Site) = d.site
  rw [h.space, h.module, h.wrapper, Declaration.site]

theorem PlannedBuilder.IsPlanOf.isNamed {r : Registry} {d : Declaration} {b : PlannedBuilder}
    (h : b.IsPlanOf r d) : b.entry.IsNamed := ⟨d.ident, h.module, h.wrapper⟩

section Found

variable {r : Registry} {policy : ShadowPolicy} {exposure : Exposure}
  {found : List (Declaration × Finding)}
  (hfinds : ∀ x ∈ found, ∃ t, Finds r policy exposure t x.1 x.2)
include hfinds

/-- A builder that was found is a plan for one of the types. -/
theorem exists_isPlanOf {b : PlannedBuilder} (hb : b ∈ builtOf found) :
    ∃ d ∈ found.map Prod.fst, b.IsPlanOf r d := by
  obtain ⟨⟨d, f⟩, hx, hbuilt⟩ := List.mem_filterMap.mp hb
  obtain ⟨t, ht⟩ := hfinds _ hx
  cases f with
  | refused e => cases hbuilt
  | built b' code =>
      obtain rfl := Option.some.inj hbuilt
      exact ⟨d, List.mem_map_of_mem hx, ht.isPlanOf⟩

/-- The wrappers in a module are named differently, since the types are. -/
theorem pairwise_wrapper (hnodup : ((builtOf found).map fun b => b.summary.typeName).Nodup) :
    (treeOf found).entries.Pairwise fun e e' => e.space = e'.space →
      e.builder.wrapper.name ≠ e'.builder.wrapper.name := by
  have hsymm : ∀ {e e' : Entry},
      (e.space = e'.space → e.builder.wrapper.name ≠ e'.builder.wrapper.name) →
        e'.space = e.space → e'.builder.wrapper.name ≠ e.builder.wrapper.name :=
    fun h hspace heq => h hspace.symm heq.symm
  rw [(perm_entries_treeOf found).pairwise_iff hsymm, List.pairwise_map]
  refine (List.pairwise_map.mp hnodup).imp_of_mem ?_
  intro b b' hb hb' hne hspace hwrapper
  obtain ⟨d, -, hd⟩ := exists_isPlanOf hfinds hb
  obtain ⟨d', -, hd'⟩ := exists_isPlanOf hfinds hb'
  -- one module and one wrapper make one path
  have hspace : b.spec.space.segments = b'.spec.space.segments := hspace
  have hwrapper : b.spec.wrapper.name = b'.spec.wrapper.name := hwrapper
  rw [hd.space, hd'.space] at hspace
  rw [hd.wrapper, hd'.wrapper] at hwrapper
  have hname : d.ident.name = d'.ident.name := String.append_right_inj _ |>.mp hwrapper
  have hpath : d.pathString = d'.pathString := by
    rw [Declaration.pathString, Declaration.pathString, ModulePath.itemPath, ModulePath.itemPath,
      ModulePath.display, ModulePath.display, hspace, hname]
  exact hne (hd.targetName.trans (hpath.trans hd'.targetName.symm))

end Found

/-- The entries of the tree are those of the types that got builders. -/
theorem mem_sites_iff {c : Config} {sources : SourceSet} {found : List (Declaration × Finding)}
    (files : List GeneratedFile)
    (hfound : FindsAll (Registry.ofSources sources) c.shadowPolicy c.exposure ModuleTree.empty
      found)
    (hmap : found.map Prod.fst = selectedTypes c sources) (s : Site) :
    s ∈ (treeOf found).entries.map Entry.site
      ↔ s ∈ (builtTypes c sources (.ofFound sources found files)).map Declaration.site := by
  have hfinds := hfound.exists_finds
  have hnames : (Generated.ofFound sources found files).builders.map BuilderSummary.typeName
      = (builtOf found).map fun b => b.summary.typeName := by
    rw [Generated.ofFound_builders, List.map_map]
    rfl
  simp only [List.mem_map, mem_entries_treeOf, builtTypes, List.mem_filter, hnames,
    List.contains_iff_mem, ← hmap]
  constructor
  · rintro ⟨_, ⟨b, hb, rfl⟩, rfl⟩
    obtain ⟨d, hd, hplan⟩ := exists_isPlanOf hfinds hb
    exact ⟨d, ⟨List.mem_map.mp hd, b, hb, hplan.targetName⟩, hplan.site.symm⟩
  · rintro ⟨d, ⟨⟨⟨_, f⟩, hx, rfl⟩, hname⟩, rfl⟩
    have hbuilt := (hfound.mem_typeNames_iff (nodup_paths hmap) hx).mp (List.mem_map.mpr hname)
    obtain ⟨t, ht⟩ := hfinds _ hx
    cases f with
    | refused e => cases hbuilt
    | built b code =>
        have hb : b ∈ builtOf found := List.mem_filterMap.mpr ⟨_, hx, rfl⟩
        exact ⟨b.entry, ⟨b, hb, rfl⟩, ht.isPlanOf.site⟩

/-! ## Names declared twice -/

/-- No module of the tree of a run declares a name twice, as the modules are written in the layout
of the settings. -/
def DeclaresOnce (c : Config) (sources : SourceSet) : Prop :=
  ∀ code ∈ (writtenTree c sources).moduleCodes c.layout c.exposure.tokens,
    (declaredNames code).Nodup

/-- A run that ends well writes the tree of its builders. No module of it declares a name twice if
and only if the modules on the way to builders are named apart. If their names are those of the
identifiers that are written, this only takes that none is named like the wrapper of a builder
beside it. -/
theorem declaresOnce_iff {c : Config} {sources : SourceSet} {g : Generated}
    (h : generate c sources = .ok g) :
    HoldsTree c (writtenTree c sources) g.files
      ∧ (DeclaresOnce c sources
        ↔ NamesApart ((builtTypes c sources g).map Declaration.site))
      ∧ ((∀ d ∈ builtTypes c sources g, ∀ name ∈ d.module.segments,
          (identFor name).name = name) →
        (NamesApart ((builtTypes c sources g).map Declaration.site)
          ↔ ∀ d ∈ builtTypes c sources g, ∀ e ∈ builtTypes c sources g, ∀ name rest,
            e.module.segments = d.module.segments ++ name :: rest →
              name ≠ (wrapperIdent d.ident).name)) := by
  obtain ⟨found, files, hfound, hmap, hfiles, rfl⟩ := generate_eq_ok_iff.mp h
  have hfinds := hfound.exists_finds
  have hgrown : (treeOf found).Grown := hfound.grown .empty
  have hsites := mem_sites_iff files hfound hmap
  have hnamed : ∀ e ∈ (treeOf found).entries, e.IsNamed := by
    intro e he
    obtain ⟨b, hb, rfl⟩ := mem_entries_treeOf.mp he
    obtain ⟨d, -, hplan⟩ := exists_isPlanOf hfinds hb
    exact hplan.isNamed
  have hwrapper := pairwise_wrapper hfinds (hfound.nodup_typeNames (nodup_paths hmap))
  rw [DeclaresOnce, writtenTree_eq_treeOf hfound hmap, ModuleTree.forall_moduleCodes_iff hgrown.tidy,
    ModuleTree.nodup_ownNames_iff_namesApart hgrown hnamed hwrapper,
    ModuleTree.namesApart_congr hsites]
  refine ⟨holdsTree_of_layOut hgrown.tidy hfiles, Iff.rfl, fun hplain => ?_⟩
  have hplain' : ∀ e ∈ (treeOf found).entries, ∀ name ∈ e.space, (identFor name).name = name := by
    intro e he
    obtain ⟨d, hd, hsite⟩ := List.mem_map.mp ((hsites _).mp (List.mem_map_of_mem he))
    have hspace : d.module.segments = e.space := congrArg Site.space hsite
    exact hspace ▸ hplain d hd
  rw [← ModuleTree.namesApart_congr hsites,
    ModuleTree.namesApart_iff_of_plain hgrown hnamed hplain']
  simp only [hsites, List.forall_mem_map]
  rfl

/-- A struct `Point`, and another one in a module with a name of its own. -/
def pointAndModule (name : String) : SourceSet where
  files := [⟨"src/lib.rs", .root, [],
    [BuilderSpec.structOf "TestBuilder" "Point" [],
      .module [] .everywhere false ⟨name, false⟩
        (some [BuilderSpec.structOf "TestBuilder" "X" []])]⟩]

/-- With an ordinary name for the module, no name is declared twice. -/
theorem declaresOnce_geometry : ∃ g, generate {} (pointAndModule "geometry") = .ok g
    ∧ g.builders.length = 2 ∧ DeclaresOnce {} (pointAndModule "geometry") := by
  have hrun : (generate {} (pointAndModule "geometry")).toOption.map
      (fun g => g.builders.length) = some 2 := by
    decide +kernel
  obtain ⟨g, hg, hlength⟩ := exists_eq_ok hrun
  have hplaces : (selectedTypes {} (pointAndModule "geometry")).map
      (fun d => (d.module.segments, d.ident.name)) = [([], "Point"), (["geometry"], "X")] := by
    decide +kernel
  have hbuilt : ∀ d ∈ builtTypes {} (pointAndModule "geometry") g,
      d.module.segments = [] ∧ d.ident.name = "Point"
        ∨ d.module.segments = ["geometry"] ∧ d.ident.name = "X" := by
    intro d hd
    have hmem := List.mem_map_of_mem (f := fun d : Declaration => (d.module.segments, d.ident.name))
      (List.mem_filter.mp hd).1
    rw [hplaces] at hmem
    simpa using hmem
  obtain ⟨-, hiff, hplain⟩ := declaresOnce_iff hg
  refine ⟨g, hg, hlength, hiff.mpr ((hplain ?_).mpr ?_)⟩
  · intro d hd name hname
    rcases hbuilt d hd with ⟨hspace, -⟩ | ⟨hspace, -⟩
    · rw [hspace] at hname
      cases hname
    · rw [hspace, List.mem_singleton] at hname
      subst hname
      decide +kernel
  · intro d hd e he name rest hspace
    rcases hbuilt d hd with ⟨hd, hident⟩ | ⟨hd, -⟩ <;>
      rcases hbuilt e he with ⟨he, -⟩ | ⟨he, -⟩ <;> rw [hd, he] at hspace
    · cases hspace
    · -- the module stands beside the builder of `Point`
      obtain ⟨rfl, -⟩ := List.cons.inj hspace
      rw [wrapperIdent, hident]
      decide +kernel
    · cases hspace
    · cases hspace

/-- A module that is called like the wrapper of a builder beside it makes the root declare a name
twice. -/
theorem not_declaresOnce_wrapper : (∃ g, generate {} (pointAndModule "TPoint") = .ok g)
    ∧ ¬ DeclaresOnce {} (pointAndModule "TPoint") := by
  have hrun : ((generate {} (pointAndModule "TPoint")).toOption.map (fun _ => ()),
      ((writtenTree {} (pointAndModule "TPoint")).moduleCodes .tree
        (Config.exposure {}).tokens).map declaredNames)
      = (some (), [["t_point", "TPoint", "TPoint"], ["t_x", "TX"]]) := by
    decide +kernel
  obtain ⟨hok, hnames⟩ := Prod.mk.inj hrun
  obtain ⟨g, hg, -⟩ := exists_eq_ok hok
  refine ⟨⟨g, hg⟩, fun hall => ?_⟩
  have hall := List.forall_mem_map.mpr hall
  rw [hnames] at hall
  exact absurd (hall _ List.mem_cons_self) (by decide)

end BuilderForge
