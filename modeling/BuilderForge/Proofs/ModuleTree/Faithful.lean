import BuilderForge.Proofs.ModuleTree.Paths

set_option autoImplicit false

/-! # The two layouts denote the same modules

A plan is *faithful* if it is loaded as the modules of the single file, and if declarations and files
belong together one to one. For a tree that has grown this holds exactly if all modules can be found
by their names (`renderTree_faithful_iff`). A module `mod` cannot, since `D/mod.rs` is the file of
the module around it (`not_faithful_mod`), and neither can one whose name in the tree has the mark of
a raw identifier, since the mark is no part of the names of files.
-/

namespace BuilderForge

open Code (Ident Tokens)
open Code.Tokens

namespace ModuleTree

/-- The files stand for the same modules as the code `whole`. -/
structure Faithful (files : List PlainFile) (whole : Tokens) : Prop where
  loads : loaded files = some whole
  /-- A module that is declared without a body has exactly one file. -/
  one_file : ∀ d ∈ allOutlines files, files.countP (fun f => d.leadsTo f.path) = 1
  /-- A file belongs to exactly one declaration, except for the one at the top. -/
  one_declaration : ∀ f ∈ files, f.path ≠ ["mod.rs"] →
    (allOutlines files).countP (fun d => d.leadsTo f.path) = 1
  distinct : (files.map fun f => joined f.path).Nodup

/-- The files of a module of this name are found by the identifier it is declared with. -/
def IsFindable (name : String) : Prop := name ≠ "mod" ∧ (identFor name).name = name

/-! ## Identifiers -/

theorem forall_isWordPart {i : Ident} (h : nameError? i = none) :
    i.name ≠ "" ∧ ∀ c ∈ i.name.toList, Text.isWordStart c = true ∨ Text.isWordPart c = true := by
  unfold nameError? at h
  split at h
  · cases h
  · next c cs hname =>
      split at h
      · cases h
      · split at h
        · cases h
        · next hword =>
            simp only [Bool.not_eq_true, Bool.not_eq_false', Bool.and_eq_true, List.all_eq_true] at hword
            refine ⟨?_, ?_⟩
            · intro hempty
              rw [hempty] at hname
              cases hname
            · rw [hname, List.forall_mem_cons]
              exact ⟨Or.inl hword.1, fun c hc => Or.inr (hword.2 c hc)⟩

/-- The name of an identifier can be a part of a path. -/
theorem isSegment_of_nameError? {i : Ident} (h : nameError? i = none) : IsSegment i.name := by
  obtain ⟨hne, hword⟩ := forall_isWordPart h
  refine ⟨hne, fun hslash => ?_⟩
  exact absurd (hword _ hslash) (by decide)

/-- The name of an identifier has no mark of a raw identifier in it. -/
theorem name_identFor_of_nameError? {i : Ident} (h : nameError? i = none) :
    (identFor i.name).name = i.name := by
  unfold identFor
  split
  · rfl
  · split
    · next rest hname =>
        have hmark := (forall_isWordPart h).2 '#' (by simp [hname])
        exact absurd hmark (by decide)
    · rfl

/-! ## What can be found is faithful -/

theorem countP_leadsTo {files : List PlainFile} {ps : List (List String)}
    (h : List.Forall₂ IsFileOf files ps) {d : Outline} (hd : d.ident.name ≠ "mod") :
    files.countP (fun f => d.leadsTo f.path) = ps.count d.path := by
  induction h with
  | nil => rfl
  | @cons f p files ps hf _ ih =>
      have hlead : d.leadsTo f.path = (p == d.path) := by
        rw [Bool.eq_iff_iff, hf.leadsTo_iff hd, beq_iff_eq]
        exact eq_comm
      rw [List.countP_cons, List.count_cons, ih, hlead]

theorem countP_outlines {ds : List Outline} {f : PlainFile} {p : List String} (hf : IsFileOf f p)
    (hds : ∀ d ∈ ds, d.ident.name ≠ "mod") :
    ds.countP (fun d => d.leadsTo f.path) = (ds.map Outline.path).count p := by
  rw [List.count, List.countP_map]
  refine List.countP_congr fun d hd => ?_
  rw [hf.leadsTo_iff (hds d hd), Function.comp_apply, beq_iff_eq]

theorem IsFileOf.path_of_root {f : PlainFile} (h : IsFileOf f []) : f.path = ["mod.rs"] := by
  generalize hroot : ([] : List String) = p at h
  cases h with
  | file hname hpath => exact absurd hroot.symm (List.append_ne_nil_of_right_ne_nil _ (by simp))
  | index hpath => rw [hpath, ← hroot, List.nil_append]

/-- Declarations and files belong together, if the modules are found by their names. -/
theorem one_file_of_isFindable (exposure : Exposure) {t : ModuleTree}
    (hmodules : ∀ e ∈ t.entries, IsBuilderModule e.builder.module)
    (hnames : t.AllNames fun name => (identFor name).name = name)
    (hne : ∀ p ∈ t.modulePaths, ∀ name ∈ p, name ≠ "mod") (hnodup : t.modulePaths.Nodup) :
    (∀ d ∈ allOutlines (t.plainFiles exposure.tokens []),
      (t.plainFiles exposure.tokens []).countP (fun f => d.leadsTo f.path) = 1)
    ∧ ∀ f ∈ t.plainFiles exposure.tokens [], f.path ≠ ["mod.rs"] →
      (allOutlines (t.plainFiles exposure.tokens [])).countP (fun d => d.leadsTo f.path) = 1 := by
  have hfiles := forall₂_plainFiles exposure.tokens [] hmodules
  have houtlines := perm_outlines exposure [] hmodules hnames
  simp only [List.nil_append, List.map_id'] at hfiles houtlines
  have hpath : ∀ d ∈ allOutlines (t.plainFiles exposure.tokens []), d.path ∈ t.modulePaths :=
    fun d hd => houtlines.mem_iff.mp (List.mem_cons_of_mem _ (List.mem_map_of_mem hd))
  have hmod : ∀ d ∈ allOutlines (t.plainFiles exposure.tokens []), d.ident.name ≠ "mod" :=
    fun d hd => hne _ (hpath d hd) _ (by simp [Outline.path])
  constructor
  · intro d hd
    rw [countP_leadsTo hfiles (hmod d hd)]
    exact List.count_eq_one_of_mem hnodup (hpath d hd)
  · intro f hf htop
    obtain ⟨p, hp, hfp⟩ := exists_of_mem_forall₂ hfiles hf
    have hne : p ≠ [] := by
      rintro rfl
      exact htop hfp.path_of_root
    rw [countP_outlines hfp hmod, ← List.count_cons_of_ne hne.symm, houtlines.count_eq]
    exact List.count_eq_one_of_mem hnodup hp

theorem faithful_of_isFindable {t : ModuleTree} (ht : t.Grown)
    (hmodules : ∀ e ∈ t.entries, IsBuilderModule e.builder.module) (exposure : Exposure)
    (hwritable : t.AllNames IsWritable) (hfindable : t.AllNames IsFindable) :
    Faithful (t.plan exposure.tokens) (t.nested exposure.tokens) := by
  have htidy := ht.tidy
  rw [allNames_iff htidy] at hwritable hfindable
  have hnames : t.AllNames fun name => (identFor name).name = name :=
    (allNames_iff htidy).mpr fun e he name hname => (hfindable e he name hname).2
  have hpaths : ∀ p ∈ t.modulePaths, ∀ name ∈ p, name ≠ "mod" ∧ IsSegment name := by
    refine forall_mem_modulePaths ((allNames_iff htidy).mpr fun e he name hname => ?_) ?_
    · have hsegment := isSegment_of_nameError? (hwritable e he name hname)
      rw [(hfindable e he name hname).2] at hsegment
      exact ⟨(hfindable e he name hname).1, hsegment⟩
    · intro e he
      have hmodule := hmodules e he
      rw [hmodule.text_eq]
      exact ⟨hmodule.name_ne_mod, isSegment_of_nameError? hmodule.valid⟩
  have hnodup := nodup_modulePaths htidy ht.pairwise
  obtain ⟨hfile, hdeclaration⟩ := one_file_of_isFindable exposure hmodules hnames
    (fun p hp name hname => (hpaths p hp name hname).1) hnodup
  have hplan : t.plan exposure.tokens = [] ∨
      t.plan exposure.tokens = t.plainFiles exposure.tokens [] := by
    unfold plan
    split
    · exact Or.inl rfl
    · exact Or.inr rfl
  have hloaded := loaded_plan htidy exposure (fun d hd => ?_) hmodules hnames
  · rcases hplan with hplan | hplan
    · rw [hplan] at hloaded ⊢
      exact ⟨hloaded, by simp [allOutlines], by simp, List.nodup_nil⟩
    · rw [hplan] at hloaded ⊢
      have hfiles := forall₂_plainFiles exposure.tokens [] hmodules
      simp only [List.nil_append, List.map_id'] at hfiles
      exact ⟨hloaded, hfile, hdeclaration,
        nodup_joined hfiles hnodup fun p hp name hname => (hpaths p hp name hname).2⟩
  · rcases hplan with hplan | hplan
    · rw [hplan] at hd
      cases hd
    · rw [hplan] at hd ⊢
      exact hfile d hd

/-! ## What is faithful can be found -/

theorem eq_of_countP_eq_one {α : Type} {p : α → Bool} {l : List α} (h : l.countP p = 1) {a b : α}
    (ha : a ∈ l) (hpa : p a = true) (hb : b ∈ l) (hpb : p b = true) : a = b := by
  have hfilter := (filter_eq_singleton h ha hpa).symm.trans (filter_eq_singleton h hb hpb)
  exact (List.cons.inj hfilter).1

/-- A declaration stands in the file of its directory. -/
theorem path_of_mem_outlines {f : PlainFile} {d : Outline} (h : d ∈ f.outlines) :
    f.path = d.dir ++ ["mod.rs"] := by
  unfold PlainFile.outlines at h
  split at h
  · next hindex =>
      obtain ⟨x, -, rfl⟩ := List.mem_map.mp h
      have hlast : f.path.getLast? = some "mod.rs" := by
        simpa [PlainFile.isIndex] using hindex
      exact (List.dropLast_append_getLast? _ hlast).symm
  · cases h

section Necessary

variable {files : List PlainFile} {whole : Tokens} (hfaithful : Faithful files whole)
  (exposure : Exposure)
include hfaithful

/-- Files with one path are one file. -/
theorem Faithful.eq_of_path_eq {f g : PlainFile} (hf : f ∈ files) (hg : g ∈ files)
    (h : f.path = g.path) : f = g :=
  List.inj_on_of_nodup_map hfaithful.distinct hf hg (congrArg joined h)

/-- A declaration in a directory is one in the file of the module that has the directory. -/
theorem Faithful.ident_of_mem {dir : List String} {bs : List RenderedBuilder} {cs : ModuleForest}
    (hindex : indexFile exposure.tokens dir (.node bs cs) ∈ files) {d : Outline}
    (hd : d ∈ allOutlines files) (hdir : d.dir = dir) :
    (∃ b ∈ bs, d.ident = b.module) ∨ ∃ n ∈ cs.names, d.ident = identFor n := by
  obtain ⟨g, hg, hdg⟩ := List.mem_flatMap.mp hd
  have hpath : g.path = dir ++ ["mod.rs"] := hdir ▸ path_of_mem_outlines hdg
  rw [hfaithful.eq_of_path_eq hg hindex hpath, outlines_indexFile, List.map_append, List.map_map,
    List.map_map, List.mem_append, List.mem_map, List.mem_map] at hdg
  rcases hdg with ⟨b, hb, rfl⟩ | ⟨n, hn, rfl⟩
  · exact Or.inl ⟨b, hb, rfl⟩
  · exact Or.inr ⟨n, hn, rfl⟩

/-- Where a module inside of the module has modules that can be found, it can be found itself. -/
theorem Faithful.isFindable {dir : List String} {bs : List RenderedBuilder} {cs : ModuleForest}
    {name : String} {t : ModuleTree} (hbs : ∀ b ∈ bs, IsBuilderModule b.module)
    (hcs : ∀ n ∈ cs.names, IsWritable n) (hname : name ∈ cs.names)
    (hbuilder : ∀ b ∈ bs, b.module.text ≠ name)
    (hindex : indexFile exposure.tokens dir (.node bs cs) ∈ files)
    (hinner : indexFile exposure.tokens (dir ++ [name]) t ∈ files)
    (hbuilders : ∀ b ∈ t.builders, IsBuilderModule b.module)
    (hnames : ∀ n ∈ t.children.names, IsFindable n) : IsFindable name := by
  constructor
  · -- the file of the module `mod` and that of the module around it both fit its declaration
    rintro rfl
    have hd : Outline.mk dir (identFor "mod") ∈ allOutlines files := by
      refine List.mem_flatMap.mpr ⟨_, hindex, ?_⟩
      rw [outlines_indexFile]
      exact List.mem_map_of_mem (List.mem_append_right _ (List.mem_map_of_mem hname))
    have hmod : (identFor "mod").name = "mod" := rfl
    have hsame := eq_of_countP_eq_one (hfaithful.one_file _ hd)
      hindex (by simp [Outline.leadsTo, indexFile, hmod])
      hinner (by simp [Outline.leadsTo, Outline.path, indexFile, hmod])
    have hlength := congrArg (fun f : PlainFile => f.path.length) hsame
    simp [indexFile] at hlength
  · have htop : (indexFile exposure.tokens (dir ++ [name]) t).path ≠ ["mod.rs"] := by
      intro h
      have hlength := congrArg List.length h
      simp [indexFile] at hlength
    have hdeclared := hfaithful.one_declaration _ hinner htop
    obtain ⟨d, hd, hlead⟩ := List.countP_pos_iff.mp (by rw [hdeclared]; exact one_pos)
    simp only [Outline.leadsTo, Outline.path, indexFile, List.append_singleton_inj, and_true,
      decide_eq_true_eq] at hlead
    rcases hlead with ⟨hdir, hrs⟩ | ⟨hdir, hident⟩
    · -- declared inside of itself, as the module `mod`, which cannot be found there
      have hmod := appendRs_eq_index.mp hrs.symm
      obtain ⟨bs', cs'⟩ := t
      rcases hfaithful.ident_of_mem exposure hinner hd hdir.symm with ⟨b, hb, hb'⟩ | ⟨n, hn, hn'⟩
      · exact absurd (hb' ▸ hmod) (hbuilders b hb).name_ne_mod
      · have hfound := hnames n hn
        exact absurd (hfound.2.symm.trans (hn' ▸ hmod)) hfound.1
    · -- declared beside it, under the name of its directory
      rcases hfaithful.ident_of_mem exposure hindex hd hdir.symm with ⟨b, hb, hb'⟩ | ⟨n, hn, hn'⟩
      · refine absurd ?_ (hbuilder b hb)
        rw [(hbs b hb).text_eq, ← hb', hident]
      · rw [hident, hn']
        exact name_identFor_of_nameError? (hcs n hn)

end Necessary

mutual

/-- The modules of a tree whose files are faithful can be found. -/
theorem Faithful.allNames {files : List PlainFile} {whole : Tokens}
    (hfaithful : Faithful files whole) (exposure : Exposure) : ∀ {t : ModuleTree} {dir : List String}, t.Tidy →
    (t.entries.Pairwise fun e e' => ¬ Clash e.path e'.path) →
    (∀ e ∈ t.entries, IsBuilderModule e.builder.module) → t.AllNames IsWritable →
    t.plainFiles exposure.tokens dir ⊆ files → t.AllNames IsFindable
  | .node bs cs, dir, ht, hfree, hmodules, ⟨hnames, hinner⟩, hsub => by
      have hne := ne_of_mem_names ht hfree
      have hindex := hsub (indexFile_mem_plainFiles exposure.tokens dir (.node bs cs))
      rw [entries, List.pairwise_append] at hfree
      rw [entries, List.forall_mem_append, List.forall_mem_map] at hmodules
      rw [plainFiles, List.append_subset] at hsub
      have hchildren := hfaithful.allNames_forest exposure ht hfree.2.1 hmodules.2 hinner hsub.2
      refine ⟨fun name hname => ?_, hchildren.1⟩
      obtain ⟨t, hfile, hbuilders, hfindable⟩ := hchildren.2 name hname
      exact hfaithful.isFindable exposure hmodules.1 hnames hname
        (fun b hb => hne b hb name hname) hindex hfile hbuilders hfindable

/-- The modules inside of modules can be found, so that the modules are declared by their names. -/
theorem Faithful.allNames_forest {files : List PlainFile} {whole : Tokens}
    (hfaithful : Faithful files whole) (exposure : Exposure) : ∀ {cs : ModuleForest} {dir : List String}, TidyForest cs →
    ((forestEntries cs).Pairwise fun e e' => ¬ Clash e.path e'.path) →
    (∀ e ∈ forestEntries cs, IsBuilderModule e.builder.module) → AllInnerNames IsWritable cs →
    plainForest exposure.tokens dir cs ⊆ files →
    AllInnerNames IsFindable cs ∧ ∀ name ∈ cs.names, ∃ t : ModuleTree,
      indexFile exposure.tokens (dir ++ [name]) t ∈ files
        ∧ (∀ b ∈ t.builders, IsBuilderModule b.module) ∧ ∀ n ∈ t.children.names, IsFindable n
  | .nil, _, _, _, _, _, _ => ⟨trivial, by simp [ModuleForest.names]⟩
  | .cons name t rest, dir, ⟨_, _, ht, hrest⟩, hfree, hmodules, ⟨hwritable, hinner⟩, hsub => by
      rw [forestEntries, List.pairwise_append, List.pairwise_map] at hfree
      rw [forestEntries, List.forall_mem_append, List.forall_mem_map] at hmodules
      rw [plainForest, List.append_subset] at hsub
      have hown := hfaithful.allNames exposure ht
        (hfree.1.imp fun h hclash => h (clash_cons.mpr ⟨rfl, hclash⟩)) hmodules.1 hwritable hsub.1
      have hothers := hfaithful.allNames_forest exposure hrest hfree.2.1 hmodules.2 hinner hsub.2
      refine ⟨⟨hown, hothers.1⟩, ?_⟩
      rw [ModuleForest.names, List.forall_mem_cons]
      refine ⟨⟨t, hsub.1 (indexFile_mem_plainFiles exposure.tokens (dir ++ [name]) t), ?_, ?_⟩,
        hothers.2⟩
      · obtain ⟨bs, cs⟩ := t
        intro b hb
        exact hmodules.1 ⟨[], b⟩ (List.mem_append_left _ (List.mem_map_of_mem hb))
      · obtain ⟨bs, cs⟩ := t
        exact hown.1

end

/-! ## The exact condition -/

/-- A tree that has grown can be written as files exactly if it can be written as one file and the
code of all files can be read. Then its plan is faithful to the single file exactly if the modules on
the way to its builders can be found by their names. -/
theorem renderTree_faithful_iff {t : ModuleTree} (ht : t.Grown)
    (hmodules : ∀ e ∈ t.entries, IsBuilderModule e.builder.module) (exposure : Exposure) :
    (∀ files, t.renderTree exposure = .ok files ↔
      (∃ whole, t.inlineTokens exposure.tokens = .ok whole)
        ∧ (t.plan exposure.tokens).mapM PlainFile.formatted = .ok files)
    ∧ ∀ whole, t.inlineTokens exposure.tokens = .ok whole →
      (Faithful (t.plan exposure.tokens) whole ↔
        ∀ e ∈ t.entries, ∀ name ∈ e.space, IsFindable name) := by
  have htidy := ht.tidy
  constructor
  · intro files
    simp only [renderTree_eq_ok_iff htidy, inlineTokens_eq_ok_iff exposure.tokens htidy,
      exists_and_left, exists_eq, and_true]
  · intro whole hwhole
    obtain ⟨hwritable, rfl⟩ := (inlineTokens_eq_ok_iff exposure.tokens htidy).mp hwhole
    rw [← allNames_iff htidy]
    constructor
    · intro hfaithful
      cases hempty : t.isEmpty with
      | true =>
          rw [allNames_iff htidy, (isEmpty_iff t).mp hempty]
          simp
      | false =>
          have hsub : t.plainFiles exposure.tokens [] ⊆ t.plan exposure.tokens := by
            simp [plan, hempty]
          exact hfaithful.allNames exposure htidy ht.pairwise hmodules hwritable hsub
    · exact faithful_of_isFindable ht hmodules exposure hwritable

instance : DecidablePred IsFindable := fun name =>
  inferInstanceAs (Decidable (name ≠ "mod" ∧ (identFor name).name = name))

/-- The tree with one builder, that of a type `Point`, in the module `name`. -/
def pointTree (name : String) : ModuleTree :=
  push ⟨builderModuleIdent ⟨"Point", false⟩, wrapperIdent ⟨"Point", false⟩,
    (ModulePath.mk [name]).itemPath "Point", []⟩ [name] empty

theorem grown_pointTree (name : String) : (pointTree name).Grown :=
  @Grown.insert empty _ ⟨[name]⟩ _ .empty rfl

theorem isBuilderModule_pointTree {name : String} :
    ∀ e ∈ (pointTree name).entries, IsBuilderModule e.builder.module := by
  intro e he
  obtain rfl := List.mem_singleton.mp he
  have hpoint : IsBuilderModule (builderModuleIdent ⟨"Point", false⟩) :=
    isBuilderModule_builderModuleIdent (by decide)
  exact hpoint

/-- A module that is a keyword can be found, although it is declared by a raw identifier. -/
theorem faithful_type : Faithful ((pointTree "type").plan Exposure.everyone.tokens)
    ((pointTree "type").nested Exposure.everyone.tokens) := by
  have hwhole : (pointTree "type").inlineTokens Exposure.everyone.tokens
      = .ok ((pointTree "type").nested Exposure.everyone.tokens) := rfl
  refine ((renderTree_faithful_iff (grown_pointTree "type") isBuilderModule_pointTree
    .everyone).2 _ hwhole).mpr ?_
  intro e he
  obtain rfl := List.mem_singleton.mp he
  decide

/-- A module `mod` cannot be found: there are two files for its declaration, one of which is the
file that the declaration stands in. The single file holds the module. -/
theorem not_faithful_mod : (pointTree "mod").Grown
    ∧ (∀ e ∈ (pointTree "mod").entries, IsBuilderModule e.builder.module)
    ∧ ((pointTree "mod").plan Exposure.everyone.tokens).map (fun f => joined f.path)
      = ["mod.rs", "mod/mod.rs", "mod/t_point.rs"]
    ∧ ∃ whole, (pointTree "mod").inlineTokens Exposure.everyone.tokens = .ok whole
      ∧ loaded ((pointTree "mod").plan Exposure.everyone.tokens) = none
      ∧ ¬ Faithful ((pointTree "mod").plan Exposure.everyone.tokens) whole := by
  have hloaded : loaded ((pointTree "mod").plan Exposure.everyone.tokens) = none := rfl
  refine ⟨grown_pointTree "mod", isBuilderModule_pointTree, by decide, _, rfl, hloaded, ?_⟩
  intro hfaithful
  have hloads := hfaithful.loads
  rw [hloaded] at hloads
  cases hloads

end ModuleTree

end BuilderForge
