import BuilderForge.Proofs.Disk.Below
import BuilderForge.Proofs.ModuleTree.Faithful

set_option autoImplicit false

/-! # The names in the paths of files

The files that a tree is written as have paths of plain names: letters in those of directories, and
letters with `.rs` behind them in those of files (`isModuleFile_names`). So none of these paths is a
beginning of another one (`pairwise_not_clash`).
-/

namespace BuilderForge

namespace GeneratedFile

/-- The names in the path of a file. -/
def names (f : GeneratedFile) : List String := FilePath.pieces f.path

theorem intercalate_names (f : GeneratedFile) : "/".intercalate f.names = f.path :=
  FilePath.intercalate_pieces f.path

end GeneratedFile

namespace ModuleTree

/-! ## Names -/

/-- A name of letters, as those of modules: one without slashes, dots and the like. -/
structure IsPlain (name : String) : Prop where
  ne_empty : name ≠ ""
  chars : ∀ c ∈ name.toList, Text.isWordStart c = true ∨ Text.isWordPart c = true ∨ c = '#'

namespace IsPlain

variable {name : String} (h : IsPlain name)
include h

theorem not_mem {c : Char} (hstart : Text.isWordStart c = false) (hpart : Text.isWordPart c = false)
    (hmark : c ≠ '#') : c ∉ name.toList := by
  intro hc
  rcases h.chars c hc with hc | hc | hc
  · rw [hstart] at hc
    cases hc
  · rw [hpart] at hc
    cases hc
  · exact hmark hc

theorem isName : Disk.IsName name where
  free := by
    have hdot : '.' ∉ name.toList := h.not_mem (by decide) (by decide) (by decide)
    refine Disk.isTaken_eq_false_iff.mpr ⟨h.ne_empty, ?_, ?_⟩ <;>
    · rintro rfl
      exact hdot (by decide)
  isPiece := h.not_mem (by decide) (by decide) (by decide)
  noNul := h.not_mem (by decide) (by decide) (by decide)

theorem ne_append_rs (other : String) : name ≠ other ++ ".rs" := by
  rintro rfl
  have hdot : '.' ∉ (other ++ ".rs").toList := h.not_mem (by decide) (by decide) (by decide)
  exact hdot (by simp)

/-- The name of the file of a module. -/
theorem isName_append_rs : Disk.IsName (name ++ ".rs") where
  free := by
    have hs : 's' ∈ (name ++ ".rs").toList := by simp
    refine Disk.isTaken_eq_false_iff.mpr ⟨?_, ?_, ?_⟩ <;>
    · intro heq
      rw [heq] at hs
      exact absurd hs (by decide)
  isPiece := by
    have hslash : '/' ∉ name.toList := h.not_mem (by decide) (by decide) (by decide)
    rw [FilePath.IsPiece, String.toList_append, List.mem_append, not_or]
    exact ⟨hslash, by decide⟩
  noNul := by
    have hnul : Char.ofNat 0 ∉ name.toList := h.not_mem (by decide) (by decide) (by decide)
    rw [String.toList_append, List.mem_append, not_or]
    exact ⟨hnul, by decide⟩

theorem isSegment : IsSegment name := ⟨h.ne_empty, h.isName.isPiece⟩

end IsPlain

theorem isPlain_mod : IsPlain "mod" where
  ne_empty := by decide
  chars := by
    have hmod : "mod".toList = ['m', 'o', 'd'] := by decide
    simp only [hmod, List.forall_mem_cons]
    exact ⟨Or.inl (by decide), Or.inl (by decide), Or.inl (by decide), List.forall_mem_nil _⟩

theorem isPlain_of_isBuilderModule {i : Code.Ident} (h : IsBuilderModule i) : IsPlain i.text := by
  obtain ⟨hne, hchars⟩ := forall_isWordPart h.valid
  rw [h.text_eq]
  exact ⟨hne, fun c hc => (hchars c hc).imp_right Or.inl⟩

/-- A name is that of its identifier, but for the mark of a raw one. -/
theorem toList_eq_identFor (name : String) : name.toList = (identFor name).name.toList
    ∨ name.toList = 'r' :: '#' :: (identFor name).name.toList := by
  unfold identFor
  split
  · exact Or.inl rfl
  · split
    · next rest hname => exact Or.inr (by rw [hname, String.toList_ofList])
    · exact Or.inl rfl

theorem isPlain_of_isWritable {name : String} (h : IsWritable name) : IsPlain name := by
  obtain ⟨hne, hchars⟩ := forall_isWordPart h
  have hplain : ∀ c ∈ (identFor name).name.toList,
      Text.isWordStart c = true ∨ Text.isWordPart c = true ∨ c = '#' :=
    fun c hc => (hchars c hc).imp_right Or.inl
  rcases toList_eq_identFor name with heq | heq
  · rw [String.toList_inj] at heq
    rw [heq]
    exact ⟨hne, hplain⟩
  · constructor
    · rintro rfl
      cases heq
    · rw [heq, List.forall_mem_cons, List.forall_mem_cons]
      exact ⟨by decide, by decide, hplain⟩

/-! ## Paths -/

/-- The path is that of the file of a module in the directory of a module. -/
inductive IsModuleFile (path : List String) : Prop
  | mk {dir : List String} {name : String} (hdir : ∀ x ∈ dir, IsPlain x) (hname : IsPlain name)
      (hpath : path = dir ++ [name ++ ".rs"])

theorem IsFileOf.isModuleFile {f : PlainFile} {p : List String} (h : IsFileOf f p)
    (hp : ∀ name ∈ p, IsPlain name) : IsModuleFile f.path := by
  cases h with
  | file hname hpath =>
      rw [List.forall_mem_append, List.forall_mem_singleton] at hp
      exact ⟨hp.1, hp.2, hpath⟩
  | index hpath => exact ⟨hp, isPlain_mod, hpath⟩

namespace IsModuleFile

variable {p q : List String}

theorem isName (h : IsModuleFile p) : ∀ x ∈ p, Disk.IsName x := by
  obtain ⟨hdir, hname, rfl⟩ := h
  rw [List.forall_mem_append, List.forall_mem_singleton]
  exact ⟨fun x hx => (hdir x hx).isName, hname.isName_append_rs⟩

/-- No path is a beginning of another one. -/
theorem eq_of_prefix (hp : IsModuleFile p) (hq : IsModuleFile q) (h : p <+: q) : p = q := by
  obtain ⟨hdir, hname, rfl⟩ := hp
  obtain ⟨hdir', hname', rfl⟩ := hq
  rcases List.prefix_concat_iff.mp h with heq | hbegins
  · exact heq
  · have hmem := hbegins.subset (List.mem_append_right _ (List.mem_singleton_self _))
    exact absurd rfl ((hdir' _ hmem).ne_append_rs _)

theorem not_clash (hp : IsModuleFile p) (hq : IsModuleFile q) (h : p ≠ q) : ¬ Clash p q := by
  rintro (hbegins | hbegins)
  · exact h (hp.eq_of_prefix hq hbegins)
  · exact h (hq.eq_of_prefix hp hbegins).symm

end IsModuleFile

theorem joined_eq_intercalate {ps : List String} (h : ∀ x ∈ ps, Disk.IsName x) :
    joined ps = "/".intercalate ps := by
  induction ps using List.reverseRecOn with
  | nil => rfl
  | append_singleton ps x ih =>
      rw [List.forall_mem_append] at h
      rw [joined_concat, ih h.1, inDir]
      by_cases hps : ps = []
      · rw [hps, List.nil_append, String.intercalate_singleton]
        rfl
      · obtain ⟨y, hy⟩ := List.exists_mem_of_ne_nil ps hps
        have hne := FilePath.intercalate_ne_empty (fun z hz => (h.1 z hz).isPiece) hy
          (h.1 y hy).ne_empty
        rw [if_neg (mt String.isEmpty_iff.mp hne),
          String.intercalate_append_of_ne_nil hps (by simp), String.intercalate_singleton]

/-! ## The files of a tree -/

theorem map_path_eq {ps : List PlainFile} {files : List GeneratedFile}
    (h : List.Forall₂ (fun p f => p.formatted = .ok f) ps files) :
    files.map GeneratedFile.path = ps.map fun p => joined p.path := by
  induction h with
  | nil => rfl
  | cons hf _ ih =>
      obtain ⟨code, -, rfl⟩ := formatted_eq_ok_iff.mp hf
      rw [List.map_cons, List.map_cons, ih]

section Rendered

variable {t : ModuleTree} (ht : t.Grown)
  (hmodules : ∀ e ∈ t.entries, IsBuilderModule e.builder.module) {exposure : Exposure}
  {files : List GeneratedFile} (hfiles : t.renderTree exposure = .ok files)
include ht hmodules hfiles

/-- The files are those of the modules, or there are none. -/
theorem map_path_renderTree : files = [] ∨ ∃ plain : List PlainFile,
    List.Forall₂ IsFileOf plain t.modulePaths
      ∧ files.map GeneratedFile.path = plain.map fun p => joined p.path := by
  obtain ⟨-, hplan⟩ := (renderTree_eq_ok_iff ht.tidy exposure).mp hfiles
  rw [mapM_eq_ok_iff] at hplan
  unfold plan at hplan
  split at hplan
  · exact Or.inl (List.forall₂_nil_left_iff.mp hplan)
  · have hshape := forall₂_plainFiles exposure.tokens [] hmodules
    simp only [List.nil_append, List.map_id'] at hshape
    exact Or.inr ⟨_, hshape, map_path_eq hplan⟩

theorem forall_isPlain : ∀ p ∈ t.modulePaths, ∀ name ∈ p, IsPlain name := by
  obtain ⟨hwritable, -⟩ := (renderTree_eq_ok_iff ht.tidy exposure).mp hfiles
  rw [allNames_iff ht.tidy] at hwritable
  refine forall_mem_modulePaths ((allNames_iff ht.tidy).mpr fun e he name hname => ?_)
    fun e he => isPlain_of_isBuilderModule (hmodules e he)
  exact isPlain_of_isWritable (hwritable e he name hname)

theorem isModuleFile_names : ∀ f ∈ files, IsModuleFile (f.names) := by
  intro f hf
  rcases map_path_renderTree ht hmodules hfiles with rfl | ⟨plain, hshape, hpaths⟩
  · cases hf
  · have hmem : f.path ∈ files.map GeneratedFile.path := List.mem_map_of_mem hf
    rw [hpaths, List.mem_map] at hmem
    obtain ⟨p, hp, hpath⟩ := hmem
    obtain ⟨names, hnames, hfile⟩ := exists_of_mem_forall₂ hshape hp
    have hmodule := hfile.isModuleFile (forall_isPlain ht hmodules hfiles names hnames)
    have hne : p.path ≠ [] := by
      obtain ⟨-, -, hpath⟩ := hmodule
      rw [hpath]
      simp
    rw [GeneratedFile.names, ← hpath, joined_eq_intercalate hmodule.isName,
      FilePath.pieces_intercalate hne fun x hx => (hmodule.isName x hx).isPiece]
    exact hmodule

theorem nodup_paths_renderTree : (files.map GeneratedFile.path).Nodup := by
  rcases map_path_renderTree ht hmodules hfiles with rfl | ⟨plain, hshape, hpaths⟩
  · exact List.nodup_nil
  · rw [hpaths]
    exact nodup_joined hshape (nodup_modulePaths ht.tidy ht.pairwise) fun p hp name hname =>
      (forall_isPlain ht hmodules hfiles p hp name hname).isSegment

/-- No file is in the way of another. -/
theorem pairwise_not_clash :
    files.Pairwise fun f g => ¬ Clash (f.names) (g.names) := by
  have hne := List.pairwise_map.mp (nodup_paths_renderTree ht hmodules hfiles)
  have hshape := isModuleFile_names ht hmodules hfiles
  refine hne.imp_of_mem fun {f g} hf hg hpath => (hshape f hf).not_clash (hshape g hg) ?_
  intro heq
  refine hpath ?_
  rw [← f.intercalate_names, heq, g.intercalate_names]

end Rendered

end ModuleTree

end BuilderForge
