import BuilderForge.Proofs.ModuleTree.Loading
import Mathlib.Data.List.Forall2
import Mathlib.Data.List.Nodup
import Mathlib.Data.List.Perm.Basic

set_option autoImplicit false

/-! # The paths of modules

The modules of a tree have paths: the tree itself, those it is made of, and those of the builders.
In a tree that has grown no path is there twice (`nodup_modulePaths`).

The files of a plan are in the order of these paths, one for each (`forall₂_plainFiles`), and the
declarations in them name each path but the one at the top (`perm_outlines`). Names with a slash in
them aside, two lists of names are not written alike (`joined_inj`).
-/

namespace BuilderForge

open Code (Ident Tokens)
open Code.Tokens

namespace ModuleTree

mutual

/-- The path of a module and those of all modules inside, builder modules included. -/
def modulePaths : ModuleTree → List (List String)
  | .node bs cs => [] :: (bs.map (fun b => [b.module.text]) ++ innerPaths cs)

/-- The paths of modules and of all modules inside. -/
def innerPaths : ModuleForest → List (List String)
  | .nil => []
  | .cons name t rest => (modulePaths t).map (name :: ·) ++ innerPaths rest

end

/-! ## No path is there twice -/

theorem exists_of_mem_innerPaths {p : List String} : ∀ {cs : ModuleForest}, p ∈ innerPaths cs →
    ∃ name ∈ cs.names, ∃ tail, p = name :: tail
  | .nil, h => by cases h
  | .cons name t rest, h => by
      rw [innerPaths, List.mem_append, List.mem_map] at h
      rcases h with ⟨tail, -, rfl⟩ | h
      · exact ⟨name, List.mem_cons_self, tail, rfl⟩
      · obtain ⟨n, hn, tail, rfl⟩ := exists_of_mem_innerPaths h
        exact ⟨n, List.mem_cons_of_mem _ hn, tail, rfl⟩

theorem exists_of_mem_names {n : String} : ∀ {cs : ModuleForest}, TidyForest cs → n ∈ cs.names →
    ∃ e ∈ forestEntries cs, ∃ tail, e.path = n :: tail
  | .nil, _, h => by cases h
  | .cons name t rest, ⟨_, hfull, _, hrest⟩, h => by
      simp only [forestEntries, List.mem_append, List.mem_map]
      rcases List.mem_cons.mp h with rfl | h
      · obtain ⟨e, he⟩ := List.exists_mem_of_ne_nil _ hfull
        exact ⟨e.inside n, Or.inl ⟨e, he, rfl⟩, e.path, rfl⟩
      · obtain ⟨e, he, tail, htail⟩ := exists_of_mem_names hrest h
        exact ⟨e, Or.inr he, tail, htail⟩

/-- A builder module has the name of no module beside it. -/
theorem ne_of_mem_names {bs : List RenderedBuilder} {cs : ModuleForest} (ht : TidyForest cs)
    (h : (entries (.node bs cs)).Pairwise fun e e' => ¬ Clash e.path e'.path) :
    ∀ b ∈ bs, ∀ name ∈ cs.names, b.module.text ≠ name := by
  rintro b hb name hname rfl
  obtain ⟨e, he, tail, htail⟩ := exists_of_mem_names ht hname
  rw [entries, List.pairwise_append] at h
  have hfree := h.2.2 _ (List.mem_map_of_mem hb) e he
  rw [Entry.path_here, htail] at hfree
  exact hfree (clash_cons.mpr ⟨rfl, clash_nil_left tail⟩)

mutual

theorem nodup_modulePaths : ∀ {t : ModuleTree}, t.Tidy →
    (t.entries.Pairwise fun e e' => ¬ Clash e.path e'.path) → t.modulePaths.Nodup
  | .node bs cs, ht, h => by
      have hne := ne_of_mem_names ht h
      rw [entries, List.pairwise_append, List.pairwise_map] at h
      obtain ⟨hown, hforest, -⟩ := h
      have hmodules : (bs.map fun b => [b.module.text]).Nodup := by
        refine List.pairwise_map.mpr (hown.imp ?_)
        intro b b' hfree heq
        refine hfree (Or.inl ?_)
        rw [Entry.path_here, Entry.path_here, heq]
      rw [modulePaths, List.nodup_cons, List.nodup_append']
      refine ⟨?_, hmodules, nodup_innerPaths ht hforest, ?_⟩
      · intro hmem
        rcases List.mem_append.mp hmem with hmem | hmem
        · obtain ⟨b, -, hb⟩ := List.mem_map.mp hmem
          cases hb
        · obtain ⟨name, -, tail, htail⟩ := exists_of_mem_innerPaths hmem
          cases htail
      · intro p hp hp'
        obtain ⟨b, hb, rfl⟩ := List.mem_map.mp hp
        obtain ⟨name, hname, tail, htail⟩ := exists_of_mem_innerPaths hp'
        exact hne b hb name hname (List.cons.inj htail).1

theorem nodup_innerPaths : ∀ {cs : ModuleForest}, TidyForest cs →
    ((forestEntries cs).Pairwise fun e e' => ¬ Clash e.path e'.path) → (innerPaths cs).Nodup
  | .nil, _, _ => List.nodup_nil
  | .cons name t rest, ⟨hlt, _, ht, hrest⟩, h => by
      rw [forestEntries, List.pairwise_append, List.pairwise_map] at h
      obtain ⟨hin, hinner, -⟩ := h
      have hown : t.entries.Pairwise fun e e' => ¬ Clash e.path e'.path :=
        hin.imp fun hfree hclash => hfree (clash_cons.mpr ⟨rfl, hclash⟩)
      rw [innerPaths, List.nodup_append']
      refine ⟨(nodup_modulePaths ht hown).map (List.cons_injective (a := name)),
        nodup_innerPaths hrest hinner, ?_⟩
      intro p hp hp'
      obtain ⟨q, -, rfl⟩ := List.mem_map.mp hp
      obtain ⟨n, hn, tail, htail⟩ := exists_of_mem_innerPaths hp'
      exact (hlt n hn).ne (List.cons.inj htail).1

end

mutual

/-- The names in a path are those of modules and of builder modules. -/
theorem forall_mem_modulePaths {P : String → Prop} : ∀ {t : ModuleTree}, t.AllNames P →
    (∀ e ∈ t.entries, P e.builder.module.text) → ∀ p ∈ t.modulePaths, ∀ name ∈ p, P name
  | .node bs cs, ⟨hnames, hinner⟩, hbuilders => by
      rw [entries, List.forall_mem_append, List.forall_mem_map] at hbuilders
      rw [modulePaths, List.forall_mem_cons, List.forall_mem_append, List.forall_mem_map]
      refine ⟨by simp, fun b hb => ?_, forall_mem_innerPaths hnames hinner hbuilders.2⟩
      exact List.forall_mem_singleton.mpr (hbuilders.1 b hb)

theorem forall_mem_innerPaths {P : String → Prop} : ∀ {cs : ModuleForest},
    (∀ name ∈ cs.names, P name) → AllInnerNames P cs →
    (∀ e ∈ forestEntries cs, P e.builder.module.text) → ∀ p ∈ innerPaths cs, ∀ name ∈ p, P name
  | .nil, _, _, _ => by simp [innerPaths]
  | .cons name t rest, hnames, ⟨ht, hinner⟩, hbuilders => by
      rw [ModuleForest.names, List.forall_mem_cons] at hnames
      rw [forestEntries, List.forall_mem_append, List.forall_mem_map] at hbuilders
      rw [innerPaths, List.forall_mem_append, List.forall_mem_map]
      refine ⟨fun p hp => ?_, forall_mem_innerPaths hnames.2 hinner hbuilders.2⟩
      exact List.forall_mem_cons.mpr
        ⟨hnames.1, forall_mem_modulePaths ht hbuilders.1 p hp⟩

end

/-! ## The files of modules -/

/-- The file is one that the module of this path can have. -/
inductive IsFileOf (f : PlainFile) : List String → Prop
  | file {dir : List String} {name : String} (hname : name ≠ "mod")
      (hpath : f.path = dir ++ [name ++ ".rs"]) : IsFileOf f (dir ++ [name])
  | index {dir : List String} (hpath : f.path = dir ++ ["mod.rs"]) : IsFileOf f dir

/-- A declaration leads to the files of its module and to no others, unless it is named `mod`. -/
theorem IsFileOf.leadsTo_iff {f : PlainFile} {p : List String} (h : IsFileOf f p) {d : Outline}
    (hd : d.ident.name ≠ "mod") : d.leadsTo f.path = true ↔ d.path = p := by
  cases h with
  | file hname hpath =>
      simp only [Outline.leadsTo, Outline.path, hpath, List.append_singleton_inj,
        String.append_left_inj, appendRs_eq_index, hname, and_false, or_false, decide_eq_true_eq]
      exact and_congr eq_comm eq_comm
  | index hpath =>
      have hrs : "mod.rs" ≠ d.ident.name ++ ".rs" := fun h => hd (appendRs_eq_index.mp h.symm)
      simp only [Outline.leadsTo, hpath, List.append_singleton_inj, hrs, and_false, and_true,
        false_or, decide_eq_true_eq]
      exact eq_comm

/-- A file is that of one module only. -/
theorem IsFileOf.unique {f g : PlainFile} {p q : List String} (hf : IsFileOf f p)
    (hg : IsFileOf g q) (h : f.path = g.path) : p = q := by
  cases hf with
  | file hname hpath =>
      cases hg with
      | file hname' hpath' =>
          rw [hpath, hpath', List.append_singleton_inj, String.append_left_inj] at h
          rw [h.1, h.2]
      | index hpath' =>
          rw [hpath, hpath', List.append_singleton_inj, appendRs_eq_index] at h
          exact absurd h.2 hname
  | index hpath =>
      cases hg with
      | file hname' hpath' =>
          rw [hpath, hpath', List.append_singleton_inj, eq_comm, @eq_comm _ "mod.rs",
            appendRs_eq_index] at h
          exact absurd h.2 hname'
      | index hpath' =>
          rw [hpath, hpath', List.append_singleton_inj] at h
          exact h.1

mutual

/-- The files of a plan are those of its modules, in the same order. -/
theorem forall₂_plainFiles (vis : Tokens) : ∀ {t : ModuleTree} (dir : List String),
    (∀ e ∈ t.entries, IsBuilderModule e.builder.module) →
    List.Forall₂ IsFileOf (t.plainFiles vis dir) (t.modulePaths.map (dir ++ ·))
  | .node bs cs, dir, h => by
      rw [entries, List.forall_mem_append, List.forall_mem_map] at h
      have hown : List.Forall₂ IsFileOf (bs.map (builderFile dir))
          (bs.map fun b => dir ++ [b.module.text]) := by
        rw [List.forall₂_map_left_iff, List.forall₂_map_right_iff, List.forall₂_same]
        intro b hb
        refine .file ?_ rfl
        rw [(h.1 b hb).text_eq]
        exact (h.1 b hb).name_ne_mod
      simp only [plainFiles, modulePaths, List.map_cons, List.map_append, List.map_map,
        Function.comp_def, List.append_nil, List.cons_append]
      exact .cons (.index rfl) (List.rel_append hown (forall₂_plainForest vis dir h.2))

theorem forall₂_plainForest (vis : Tokens) : ∀ {cs : ModuleForest} (dir : List String),
    (∀ e ∈ forestEntries cs, IsBuilderModule e.builder.module) →
    List.Forall₂ IsFileOf (plainForest vis dir cs) ((innerPaths cs).map (dir ++ ·))
  | .nil, _, _ => .nil
  | .cons name t rest, dir, h => by
      rw [forestEntries, List.forall_mem_append, List.forall_mem_map] at h
      have hown := forall₂_plainFiles vis (t := t) (dir ++ [name]) h.1
      simp only [plainForest, innerPaths, List.map_append, List.map_map, Function.comp_def]
      simp only [List.append_assoc, List.singleton_append] at hown
      exact List.rel_append hown (forall₂_plainForest vis dir h.2)

end

/-! ## The declarations of modules -/

theorem outlines_builderFile (dir : List String) {b : RenderedBuilder}
    (h : IsBuilderModule b.module) : (builderFile dir b).outlines = [] := by
  rw [PlainFile.outlines, isIndex_builderFile dir h]
  rfl

/-- Only the file of the module and those of the modules inside declare modules. -/
theorem allOutlines_plainFiles (exposure : Exposure) (dir : List String)
    {bs : List RenderedBuilder} (cs : ModuleForest) (h : ∀ b ∈ bs, IsBuilderModule b.module) :
    allOutlines (plainFiles exposure.tokens dir (.node bs cs))
      = (bs.map RenderedBuilder.module ++ cs.names.map identFor).map (Outline.mk dir)
        ++ allOutlines (plainForest exposure.tokens dir cs) := by
  have hnone : (bs.map (builderFile dir)).flatMap PlainFile.outlines = [] := by
    rw [List.flatMap_eq_nil_iff, List.forall_mem_map]
    exact fun b hb => outlines_builderFile dir (h b hb)
  have hindex := outlines_indexFile exposure dir bs cs
  rw [allOutlines, plainFiles, List.cons_append, List.flatMap_cons, List.flatMap_append, hnone,
    List.nil_append, ← hindex]
  rfl

mutual

/-- The declarations of a plan name all modules but the one at the top. -/
theorem perm_outlines (exposure : Exposure) : ∀ {t : ModuleTree} (dir : List String),
    (∀ e ∈ t.entries, IsBuilderModule e.builder.module) →
    t.AllNames (fun name => (identFor name).name = name) →
    (dir :: (allOutlines (t.plainFiles exposure.tokens dir)).map Outline.path).Perm
      (t.modulePaths.map (dir ++ ·))
  | .node bs cs, dir, h, ⟨hnames, hinner⟩ => by
      rw [entries, List.forall_mem_append, List.forall_mem_map] at h
      have hforest := perm_outlines_forest exposure dir h.2 hnames hinner
      have hown : bs.map (fun b => Outline.path ⟨dir, b.module⟩)
          = bs.map fun b => dir ++ [b.module.text] :=
        List.map_congr_left fun b hb => by rw [Outline.path, (h.1 b hb).text_eq]
      rw [allOutlines_plainFiles exposure dir cs h.1]
      simp only [modulePaths, List.map_cons, List.map_append, List.map_map, Function.comp_def,
        List.append_nil, List.append_assoc, hown]
      exact .cons _ (.append_left _ hforest)

theorem perm_outlines_forest (exposure : Exposure) : ∀ {cs : ModuleForest} (dir : List String),
    (∀ e ∈ forestEntries cs, IsBuilderModule e.builder.module) →
    (∀ name ∈ cs.names, (identFor name).name = name) →
    AllInnerNames (fun name => (identFor name).name = name) cs →
    (cs.names.map (fun name => Outline.path ⟨dir, identFor name⟩)
        ++ (allOutlines (plainForest exposure.tokens dir cs)).map Outline.path).Perm
      ((innerPaths cs).map (dir ++ ·))
  | .nil, _, _, _, _ => .nil
  | .cons name t rest, dir, h, hnames, ⟨ht, hinner⟩ => by
      rw [forestEntries, List.forall_mem_append, List.forall_mem_map] at h
      rw [ModuleForest.names, List.forall_mem_cons] at hnames
      have hown := perm_outlines exposure (t := t) (dir ++ [name]) h.1 ht
      have hrest := perm_outlines_forest exposure dir h.2 hnames.2 hinner
      simp only [List.append_assoc, List.singleton_append] at hown
      simp only [ModuleForest.names, plainForest, innerPaths, allOutlines, List.flatMap_append,
        List.map_cons, List.map_append, List.map_map, Function.comp_def, List.cons_append,
        Outline.path, hnames.1] at hrest ⊢
      refine .trans ?_ (.append hown hrest)
      rw [List.cons_append, List.perm_cons, ← List.append_assoc, ← List.append_assoc]
      exact .append_right _ List.perm_append_comm

end

/-! ## How paths are written -/

/-- A name that can be a part of a path. -/
def IsSegment (name : String) : Prop := name ≠ "" ∧ '/' ∉ name.toList

theorem IsSegment.append {a b : String} (ha : IsSegment a) (hb : '/' ∉ b.toList) :
    IsSegment (a ++ b) := by
  refine ⟨by simp [ha.1], ?_⟩
  rw [String.toList_append, List.mem_append]
  exact not_or.mpr ⟨ha.2, hb⟩

theorem joined_concat_ne {p : List String} {a : String} (ha : IsSegment a) :
    joined (p ++ [a]) ≠ "" := by
  rw [joined_concat, inDir]
  split
  · exact ha.1
  · simp

theorem eq_of_last_slash {a a' c : List Char} (ha : '/' ∉ a) (h : '/' :: a = c ++ '/' :: a') :
    c = [] ∧ a = a' := by
  cases c with
  | nil => exact ⟨rfl, (List.cons.inj h).2⟩
  | cons x c =>
      refine absurd ?_ ha
      rw [(List.cons.inj h).2]
      exact List.mem_append_right _ List.mem_cons_self

/-- The last name of a path is what stands behind the last slash. -/
theorem inDir_inj {d d' a a' : String} (ha : IsSegment a) (ha' : IsSegment a')
    (h : inDir d a = inDir d' a') : d = d' ∧ a = a' := by
  have hslash : ∀ {d a a' : String}, IsSegment a' → d ++ "/" ++ a ≠ a' := by
    rintro d a _ ha' rfl
    exact ha'.2 (by simp)
  unfold inDir at h
  split at h <;> split at h
  · next hd hd' => exact ⟨(String.isEmpty_iff.mp hd).trans (String.isEmpty_iff.mp hd').symm, h⟩
  · exact absurd h.symm (hslash ha)
  · exact absurd h (hslash ha')
  · have hchars := congrArg String.toList h
    have hseparator : "/".toList = ['/'] := rfl
    simp only [String.toList_append, List.append_assoc, hseparator, List.singleton_append]
      at hchars
    rcases List.append_eq_append_iff.mp hchars with ⟨c, hd, htail⟩ | ⟨c, hd, htail⟩
    · obtain ⟨rfl, hname⟩ := eq_of_last_slash ha.2 htail
      exact ⟨(String.toList_inj.mp (hd.trans (List.append_nil _))).symm, String.toList_inj.mp hname⟩
    · obtain ⟨rfl, hname⟩ := eq_of_last_slash ha'.2 htail
      exact ⟨String.toList_inj.mp (hd.trans (List.append_nil _)), (String.toList_inj.mp hname).symm⟩

/-- Different paths are written differently. -/
theorem joined_inj {p q : List String} (hp : ∀ a ∈ p, IsSegment a) (hq : ∀ a ∈ q, IsSegment a)
    (h : joined p = joined q) : p = q := by
  induction p using List.reverseRecOn generalizing q with
  | nil =>
      rcases List.eq_nil_or_concat' q with rfl | ⟨q, b, rfl⟩
      · rfl
      · exact absurd h.symm (joined_concat_ne (hq b (by simp)))
  | append_singleton p a ih =>
      rcases List.eq_nil_or_concat' q with rfl | ⟨q, b, rfl⟩
      · exact absurd h (joined_concat_ne (hp a (by simp)))
      · rw [joined_concat, joined_concat] at h
        obtain ⟨hdir, rfl⟩ := inDir_inj (hp a (by simp)) (hq b (by simp)) h
        rw [ih (fun a ha => hp a (by simp [ha])) (fun a ha => hq a (by simp [ha])) hdir]

/-- The path of the file of a module can be written, if that of the module can. -/
theorem IsFileOf.forall_isSegment {f : PlainFile} {p : List String} (h : IsFileOf f p)
    (hp : ∀ name ∈ p, IsSegment name) : ∀ name ∈ f.path, IsSegment name := by
  cases h with
  | file hname hpath =>
      rw [List.forall_mem_append, List.forall_mem_singleton] at hp
      rw [hpath, List.forall_mem_append, List.forall_mem_singleton]
      exact ⟨hp.1, hp.2.append (by decide)⟩
  | index hpath =>
      rw [hpath, List.forall_mem_append, List.forall_mem_singleton]
      exact ⟨hp, by decide, by decide⟩

/-- Files of different modules have paths that are written differently. -/
theorem nodup_joined {files : List PlainFile} {ps : List (List String)}
    (h : List.Forall₂ IsFileOf files ps) (hnodup : ps.Nodup)
    (hps : ∀ p ∈ ps, ∀ name ∈ p, IsSegment name) :
    (files.map fun f => joined f.path).Nodup := by
  induction h with
  | nil => exact List.nodup_nil
  | @cons f p files ps hf hfiles ih =>
      rw [List.nodup_cons] at hnodup
      rw [List.forall_mem_cons] at hps
      rw [List.map_cons, List.nodup_cons]
      refine ⟨?_, ih hnodup.2 hps.2⟩
      rw [List.mem_map]
      rintro ⟨g, hg, hgf⟩
      obtain ⟨q, hq, hgq⟩ := exists_of_mem_forall₂ hfiles hg
      have hpath := joined_inj (hgq.forall_isSegment (hps.2 q hq)) (hf.forall_isSegment hps.1) hgf
      exact hnodup.1 (hf.unique hgq hpath.symm ▸ hq)

end ModuleTree

end BuilderForge
