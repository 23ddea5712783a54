import BuilderForge.Proofs.Generation.Declared
import BuilderForge.Proofs.ModuleTree.FileNames
import BuilderForge.Proofs.Output.Attempts

set_option autoImplicit false

/-! # Files that reach an empty directory

No path of the files of a tree is a beginning of another one, so that none of them is in the way of
another when they are written below an empty directory. A file is written if its path and the names
in it are no longer than the disk allows (`Fits`). That is shown file by file: what is there are the
files so far that fit, each with its own code, and directories on the way to files (`Arrived`), and
one file more is added to that (`arrived_write`). On a disk without limits all files arrive
(`ReachDirectory.all`).
-/

namespace BuilderForge

namespace Output

open ModuleTree (Clash)

/-! ## One file more -/

/-- The path of the file below the directory `root`, and the names in it, are short enough. -/
structure Fits (limits : DiskLimits) (root : String) (f : GeneratedFile) : Prop where
  path : limits.allowsPath (FilePath.join root f.path)
  names : ∀ x ∈ f.names, limits.allowsName x

/-- Nothing is too long without limits. -/
theorem Fits.of_unlimited (root : String) (f : GeneratedFile) : Fits .unlimited root f :=
  ⟨DiskLimits.allowsPath_unlimited _, fun x _ => DiskLimits.allowsName_unlimited x⟩

/-- At these names and below them there are now the files that fit, each with its own code, and
directories on the way to files. Elsewhere the disk is as it was. -/
structure Arrived (before after : Disk) (root : String) (names : List String)
    (files : List GeneratedFile) : Prop where
  limits : after.limits = before.limits
  file_iff : ∀ q c, after.kindAt? (names ++ q) = some (.file c)
    ↔ ∃ f ∈ files, Fits before.limits root f ∧ q = f.names ∧ c = .text f.code
  of_directory : ∀ q, after.kindAt? (names ++ q) = some .directory →
    q = [] ∨ ∃ f ∈ files, q <+: f.names ∧ q ≠ f.names
  elsewhere : ∀ q, ¬ names <+: q → after.kindAt? q = before.kindAt? q

theorem arrived_nil {d : Disk} {root : String} {names : List String}
    (h : d.get? names = some (.directory [])) : Arrived d d root names [] := by
  have hkind : ∀ q, d.kindAt? (names ++ q) = if q = [] then some .directory else none := by
    intro q
    rw [Disk.kindAt?, Node.kindAt?_append, ← Disk.get?, h, Option.bind_some]
    cases q with
    | nil => exact Node.kindAt?_nil _
    | cons x q => exact Node.kindAt?_directory_cons [] x q
  refine ⟨rfl, fun q c => ?_, fun q hq => ?_, fun q _ => rfl⟩
  · rw [hkind]
    simp
  · rw [hkind] at hq
    split at hq
    · next hnil => exact Or.inl hnil
    · cases hq

/-- The path of a file below a directory, with its last name apart. -/
theorem exists_names_eq (root : String) {f : GeneratedFile} (hf : ∀ x ∈ f.names, Disk.IsName x) :
    ∃ dirs x, f.names = dirs ++ [x] ∧ (∀ y ∈ dirs, Disk.IsName y) ∧ Disk.IsName x
      ∧ FilePath.join root f.path = "/".intercalate (FilePath.base root ++ dirs ++ [x]) := by
  have hne : f.names ≠ [] := FilePath.pieces_ne_nil f.path
  have hjoin := Disk.join_intercalate root hne hf
  obtain ⟨dirs, x, hnames⟩ := (List.eq_nil_or_concat' f.names).resolve_left hne
  rw [f.intercalate_names, hnames, ← List.append_assoc] at hjoin
  rw [hnames, List.forall_mem_append, List.forall_mem_singleton] at hf
  exact ⟨dirs, x, hnames, hf.1, hf.2, hjoin⟩

/-- The path is good if it is short, since its names are good. -/
theorem pathFailure?_join_eq_none_iff {d : Disk} {root : String} {names : List String}
    {f : GeneratedFile} (hroot : d.LeadsTo root names) (hf : ∀ x ∈ f.names, Disk.IsName x) :
    d.pathFailure? (FilePath.join root f.path) = none
      ↔ d.limits.allowsPath (FilePath.join root f.path) := by
  have hrelative := Disk.isAbsolute_intercalate hf
  rw [f.intercalate_names] at hrelative
  obtain ⟨mark, hmark, hjoin⟩ := FilePath.exists_join root hrelative
  rw [Disk.pathFailure?_eq_none_iff]
  refine ⟨fun h => h.2.2, fun h => ⟨fun hnul => ?_, fun hempty => ?_, h⟩⟩
  · rw [hjoin, String.toList_append, String.toList_append, List.mem_append, List.mem_append] at hnul
    rcases hnul with (hnul | hnul) | hnul
    · rcases hroot with ⟨rfl, -⟩ | hlocate
      · cases hnul
      · exact (Disk.pathFailure?_eq_none_iff.mp (Disk.locate_eq_ok_iff.mp hlocate).1).1 hnul
    · rcases hmark with rfl | rfl <;> exact absurd hnul (by decide)
    · rw [← f.intercalate_names] at hnul
      rcases FilePath.mem_toList_intercalate hnul with heq | ⟨x, hx, hmem⟩
      · cases heq
      · exact (hf x hx).noNul hmem
  · have hpath : f.path = "" := by
      rw [hjoin] at hempty
      simp only [String.append_eq_empty_iff] at hempty
      exact hempty.2
    have hnames : f.names = [""] := by
      rw [GeneratedFile.names, hpath]
      rfl
    exact (hf "" (by simp [hnames])).ne_empty rfl

section Step

variable {d₀ d : Disk} {root : String} {names : List String} {done : List GeneratedFile}
  {f : GeneratedFile} (hroot : d.LeadsTo root names) (hf : ∀ x ∈ f.names, Disk.IsName x)
include hroot hf

theorem puts_of_write_file (h : (d.write (FilePath.join root f.path) (.text f.code)).2 = none) :
    (d.made (FilePath.join root f.path)).1.Puts
      (d.write (FilePath.join root f.path) (.text f.code)).1 (names ++ f.names)
      (.file (.text f.code)) := by
  obtain ⟨dirs, x, hnames, hdirs, hx, hjoin⟩ := exists_names_eq root hf
  rw [hjoin] at h ⊢
  rw [hnames, ← List.append_assoc]
  exact Disk.puts_of_write_below hroot hdirs hx h

variable (hdir : d.kindAt? names = some .directory)
include hdir

/-- What is made for a file is the directories on the way to it. -/
theorem addsDirectories_made_file : d.AddsDirectories (d.made (FilePath.join root f.path)).1
    fun q => ∃ part, part <+: f.names ∧ part ≠ f.names ∧ q = names ++ part := by
  obtain ⟨dirs, x, hnames, hdirs, hx, hjoin⟩ := exists_names_eq root hf
  rw [hjoin, hnames]
  refine (Disk.addsDirectories_made_below hroot hdir hdirs hx).mono ?_
  rintro q ⟨part, hpart, rfl⟩
  refine ⟨part, hpart.trans (List.prefix_append _ _), ?_, rfl⟩
  rintro rfl
  have hlength := hpart.length_le
  rw [List.length_append, List.length_singleton] at hlength
  omega

variable (harrived : Arrived d₀ d root names done)
include harrived

/-- With the directories on the way to one file more, all directories are on the way to files. -/
theorem of_directory_made {q : List String}
    (hq : (d.made (FilePath.join root f.path)).1.kindAt? (names ++ q) = some .directory) :
    q = [] ∨ ∃ g ∈ done ++ [f], q <+: g.names ∧ q ≠ g.names := by
  rcases (addsDirectories_made_file hroot hf hdir).kindAt? (names ++ q) with
    hsame | ⟨-, -, part, hpart, hne, heq⟩
  · refine (harrived.of_directory q (hsame ▸ hq)).imp_right ?_
    exact fun ⟨g, hg, hbegins⟩ => ⟨g, List.mem_append_left _ hg, hbegins⟩
  · obtain rfl := List.append_cancel_left heq
    exact Or.inr ⟨f, by simp, hpart, hne⟩

theorem elsewhere_made {q : List String} (hq : ¬ names <+: q) :
    (d.made (FilePath.join root f.path)).1.kindAt? q = d₀.kindAt? q := by
  rw [(addsDirectories_made_file hroot hf hdir).kindAt?_of_not_allowed
    fun ⟨part, _, _, heq⟩ => hq ⟨part, heq.symm⟩]
  exact harrived.elsewhere q hq

variable (hfree : ∀ g ∈ done, ¬ Clash g.names f.names)
include hfree

/-- The files that are there are not in the way of the next one. -/
theorem write_eq_none_iff_fits :
    (d.write (FilePath.join root f.path) (.text f.code)).2 = none
      ↔ Fits d₀.limits root f := by
  obtain ⟨dirs, x, hnames, hdirs, hx, hjoin⟩ := exists_names_eq root hf
  have hclear : d.IsClear names dirs := by
    intro part hpart c hkind
    obtain ⟨g, hg, -, rfl, -⟩ := (harrived.file_iff part c).mp hkind
    exact hfree g hg (Or.inl (hnames ▸ hpart.trans (List.prefix_append _ _)))
  have hplace : d.kindAt? (names ++ dirs ++ [x]) ≠ some .directory := by
    rw [List.append_assoc, ← hnames]
    intro hkind
    rcases harrived.of_directory _ hkind with hnil | ⟨g, hg, hbegins, -⟩
    · simp [hnames] at hnil
    · exact hfree g hg (Or.inr hbegins)
  rw [hjoin, Disk.write_below_iff hroot hdir hdirs hx hclear hplace, ← hjoin,
    pathFailure?_join_eq_none_iff hroot hf, harrived.limits, ← hnames]
  exact ⟨fun h => ⟨h.1, h.2⟩, fun h => ⟨h.path, h.names⟩⟩

/-- With a file more to be written, there is what was there before, and the file if it fits. -/
theorem arrived_write :
    Arrived d₀ (d.write (FilePath.join root f.path) (.text f.code)).1 root names (done ++ [f]) := by
  have hiff := write_eq_none_iff_fits hroot hf hdir harrived hfree
  have hadds := addsDirectories_made_file hroot hf hdir
  have hlimits := hadds.limits.trans harrived.limits
  by_cases hfits : Fits d₀.limits root f
  · have hputs := puts_of_write_file hroot hf (hiff.mpr hfits)
    refine ⟨hputs.limits.trans hlimits, fun q c => ?_, fun q hq => ?_, fun q hq => ?_⟩
    · simp only [List.mem_append, List.mem_singleton, or_and_right, exists_or, exists_eq_left,
        hfits, true_and]
      rw [hputs.kindAt?]
      by_cases hq : q = f.names
      · have hnone : ¬ ∃ g ∈ done, Fits d₀.limits root g ∧ q = g.names ∧ c = .text g.code := by
          rintro ⟨g, hg, -, hgq, -⟩
          exact hfree g hg (Or.inl (by rw [← hgq, hq]))
        rw [if_pos (congrArg _ hq), or_iff_right hnone, and_iff_right hq, Option.some.injEq,
          NodeKind.file.injEq]
        exact eq_comm
      · rw [if_neg fun heq => hq (List.append_cancel_left heq), hadds.kindAt?_eq_file_iff,
          harrived.file_iff]
        simp [hq]
    · rw [hputs.kindAt?] at hq
      split at hq
      · cases hq
      · exact of_directory_made hroot hf hdir harrived hq
    · have hne : q ≠ names ++ f.names := fun heq => hq ⟨f.names, heq.symm⟩
      rw [hputs.kindAt?, if_neg hne]
      exact elsewhere_made hroot hf hdir harrived hq
  · rw [Disk.write_failed (mt hiff.mp hfits)]
    refine ⟨hlimits, fun q c => ?_, fun q => of_directory_made hroot hf hdir harrived,
      fun q => elsewhere_made hroot hf hdir harrived⟩
    rw [hadds.kindAt?_eq_file_iff, harrived.file_iff]
    simp [List.mem_append, or_and_right, exists_or, hfits]

end Step

/-! ## All files -/

section Run

variable {d : Disk} {root : String} {names : List String} {files : List GeneratedFile}

theorem arrived_run {d₀ : Disk} {done : List GeneratedFile} (hroot : d.LeadsTo root names)
    (hdir : d.kindAt? names = some .directory) (harrived : Arrived d₀ d root names done)
    (hnames : ∀ f ∈ files, ∀ x ∈ f.names, Disk.IsName x)
    (hfree : (done ++ files).Pairwise fun f g => ¬ Clash f.names g.names) :
    (∀ a ∈ attempts root d files, a.failure = none ↔ Fits d₀.limits root a.file)
      ∧ Arrived d₀ (writeAll d root files).1 root names (done ++ files) := by
  induction files generalizing d done with
  | nil => exact ⟨by simp [attempts], by rwa [List.append_nil]⟩
  | cons f fs ih =>
      have hkeeps := d.write_keeps (FilePath.join root f.path) (.text f.code)
      rw [List.forall_mem_cons] at hnames
      have hbefore : ∀ g ∈ done, ¬ Clash g.names f.names := fun g hg =>
        (List.pairwise_append.mp hfree).2.2 g hg f List.mem_cons_self
      rw [List.append_cons] at hfree
      obtain ⟨hattempts, hrest⟩ := ih (hroot.keeps hkeeps) (hkeeps.directory _ hdir)
        (arrived_write hroot hnames.1 hdir harrived hbefore) hnames.2 hfree
      rw [attempts, List.forall_mem_cons, writeAll_cons_disk, List.append_cons]
      exact ⟨⟨write_eq_none_iff_fits hroot hnames.1 hdir harrived hbefore, hattempts⟩, hrest⟩

variable (hroot : d.LeadsTo root names) (hempty : d.get? names = some (.directory []))
  (hnames : ∀ f ∈ files, ∀ x ∈ f.names, Disk.IsName x)
  (hfree : files.Pairwise fun f g => ¬ Clash f.names g.names)
include hroot hempty hnames hfree

theorem arrived_writeAll :
    (∀ a ∈ attempts root d files, a.failure = none ↔ Fits d.limits root a.file)
    ∧ Arrived d (writeAll d root files).1 root names files := by
  have hdir : d.kindAt? names = some .directory := by
    rw [Disk.kindAt?, Node.kindAt?, ← Disk.get?, hempty]
    rfl
  exact arrived_run hroot hdir (arrived_nil hempty) hnames hfree

/-- There is nothing to be said if all files fit. -/
theorem remarks_eq_nil_iff : (writeAll d root files).2 = []
    ↔ ∀ f ∈ files, Fits d.limits root f := by
  have hfits := (arrived_writeAll hroot hempty hnames hfree).1
  have haccounts := accounts d root files
  rw [haccounts.remarks, List.filterMap_eq_nil_iff]
  conv_rhs => rw [← haccounts.attempted, List.forall_mem_map]
  refine forall₂_congr fun a ha => ?_
  rw [Attempt.remark?, Option.map_eq_none_iff, hfits a ha]

theorem read_arrived {f : GeneratedFile} (hf : f ∈ files) (hfits : Fits d.limits root f) :
    (writeAll d root files).1.read (FilePath.join root f.path) = .ok f.code := by
  have harrived := (arrived_writeAll hroot hempty hnames hfree).2
  have hfile := (harrived.file_iff f.names (.text f.code)).mpr ⟨f, hf, hfits, rfl, rfl⟩
  have hroot' := hroot.keeps (writeAll_keeps d root files)
  rw [← harrived.limits] at hfits
  have hpath := (pathFailure?_join_eq_none_iff hroot' (hnames f hf)).mpr hfits.path
  obtain ⟨dirs, x, hsplit, -, -, hjoin⟩ := exists_names_eq root (hnames f hf)
  rw [hsplit, ← List.append_assoc] at hfile
  rw [hjoin] at hpath ⊢
  have hall : ∀ y ∈ dirs ++ [x], Disk.IsName y
      ∧ (writeAll d root files).1.limits.allowsName y := by
    rw [← hsplit]
    exact fun y hy => ⟨hnames f hf y hy, hfits.names y hy⟩
  exact (Disk.hasFile_below hroot' hall hpath hfile).read

end Run

/-- What becomes of files that are written below an empty directory. -/
structure ReachDirectory (d : Disk) (root : String) (names : List String)
    (files : List GeneratedFile) : Prop where
  /-- No path is there twice. -/
  distinct : (files.map GeneratedFile.path).Nodup
  /-- The files that cannot be written are those that do not fit. -/
  written_iff : ∀ a ∈ attempts root d files, a.failure = none ↔ Fits d.limits root a.file
  silent_iff : (writeAll d root files).2 = [] ↔ ∀ f ∈ files, Fits d.limits root f
  arrived : Arrived d (writeAll d root files).1 root names files
  /-- Those that fit can be read, and each holds its own code. -/
  readable : ∀ f ∈ files, Fits d.limits root f →
    (writeAll d root files).1.read (FilePath.join root f.path) = .ok f.code

/-- All files have been written below a directory, and no others are there. -/
structure AllReach (d : Disk) (root : String) (names : List String)
    (files : List GeneratedFile) : Prop where
  silent : (writeAll d root files).2 = []
  file_iff : ∀ q c, (writeAll d root files).1.kindAt? (names ++ q) = some (.file c)
    ↔ ∃ f ∈ files, q = f.names ∧ c = .text f.code
  readable : ∀ f ∈ files, (writeAll d root files).1.read (FilePath.join root f.path) = .ok f.code

theorem ReachDirectory.all {d : Disk} {root : String} {names : List String}
    {files : List GeneratedFile} (h : ReachDirectory d root names files)
    (hlimits : d.limits = .unlimited) : AllReach d root names files := by
  have hfits : ∀ f, Fits d.limits root f := fun f => hlimits ▸ .of_unlimited root f
  refine ⟨h.silent_iff.mpr fun f _ => hfits f, fun q c => ?_, fun f hf => h.readable f hf (hfits f)⟩
  rw [h.arrived.file_iff]
  simp only [hfits, true_and]

theorem reachDirectory_of_renderTree {t : ModuleTree} (ht : t.Grown)
    (hmodules : ∀ e ∈ t.entries, ModuleTree.IsBuilderModule e.builder.module) {exposure : Exposure}
    {files : List GeneratedFile} (hfiles : t.renderTree exposure = .ok files) {d : Disk}
    {root : String} {names : List String} (hroot : d.LeadsTo root names)
    (hempty : d.get? names = some (.directory [])) : ReachDirectory d root names files := by
  have hnames : ∀ f ∈ files, ∀ x ∈ f.names, Disk.IsName x := fun f hf =>
    (ModuleTree.isModuleFile_names ht hmodules hfiles f hf).isName
  have hfree := ModuleTree.pairwise_not_clash ht hmodules hfiles
  have hrun := arrived_writeAll hroot hempty hnames hfree
  exact {
    distinct := ModuleTree.nodup_paths_renderTree ht hmodules hfiles
    written_iff := hrun.1
    silent_iff := remarks_eq_nil_iff hroot hempty hnames hfree
    arrived := hrun.2
    readable := fun f hf => read_arrived hroot hempty hnames hfree hf }

/-- The files of a run do, in the layout of a tree. -/
theorem reachDirectory_of_generate {c : Config} {sources : SourceSet} {g : Generated}
    (h : generate c sources = .ok g) (hlayout : c.layout = .tree)
    (hidents : ∀ d ∈ selectedTypes c sources, nameError? (builderModuleIdent d.ident) = none)
    {d : Disk} {root : String} {names : List String} (hroot : d.LeadsTo root names)
    (hempty : d.get? names = some (.directory [])) : ReachDirectory d root names g.files := by
  obtain ⟨found, files, hfound, hmap, hfiles, rfl⟩ := generate_eq_ok_iff.mp h
  have hmodules : ∀ e ∈ (treeOf found).entries, ModuleTree.IsBuilderModule e.builder.module := by
    intro e he
    obtain ⟨b, hb, rfl⟩ := mem_entries_treeOf.mp he
    obtain ⟨d, hd, hplan⟩ := exists_isPlanOf hfound.exists_finds hb
    have hmodule : b.entry.builder.module = builderModuleIdent d.ident := hplan.module
    rw [hmodule]
    exact ModuleTree.isBuilderModule_builderModuleIdent (hidents d (hmap ▸ hd))
  have hrender : (treeOf found).renderTree c.exposure = .ok files := by
    simpa only [layOut, hlayout] using hfiles
  exact reachDirectory_of_renderTree (hfound.grown .empty) hmodules hrender hroot hempty

/-- **The files of a tree all reach an empty directory.** Whatever the disk and the files are, each
file is attempted in its turn, there is one remark for each that cannot be written, and one that is
written and not written again holds its code. Of the files of a tree that has grown, below an empty
directory, no two get in each other's way: where names and paths can be of any length, nothing is
remarked, and there are these files with their codes and no others. Where there are limits, that is so
of the files that keep to them. -/
theorem writeAll_exact :
    (∀ d root files, Accounts d root files)
    ∧ ∀ (t : ModuleTree) (exposure : Exposure) (files : List GeneratedFile), t.Grown →
      (∀ e ∈ t.entries, ModuleTree.IsBuilderModule e.builder.module) →
      t.renderTree exposure = .ok files →
      ∀ (d : Disk) (root : String) (names : List String), d.LeadsTo root names →
        d.get? names = some (.directory []) →
        ReachDirectory d root names files
        ∧ (d.limits = .unlimited → AllReach d root names files) :=
  ⟨accounts, fun _ _ _ ht hmodules hfiles _ _ _ hroot hempty =>
    have hreach := reachDirectory_of_renderTree ht hmodules hfiles hroot hempty
    ⟨hreach, hreach.all⟩⟩

/-- A disk with an empty directory `out` at its top. -/
def outDisk : Disk := ⟨.directory [("out", .directory [])], [], .unlimited⟩

theorem leadsTo_outDisk : outDisk.LeadsTo "out" ["out"] := Or.inr rfl

open ModuleTree (pointTree grown_pointTree isBuilderModule_pointTree)

/-- A module reaches the directory with all that is in it. -/
theorem writeAll_shapes : ∃ files, (pointTree "shapes").renderTree .everyone = .ok files
    ∧ files.map GeneratedFile.path = ["mod.rs", "shapes/mod.rs", "shapes/t_point.rs"]
    ∧ ReachDirectory outDisk "out" ["out"] files ∧ AllReach outDisk "out" ["out"] files := by
  have hcheck : ((pointTree "shapes").renderTree .everyone).toOption.map
      (fun files => files.map GeneratedFile.path)
      = some ["mod.rs", "shapes/mod.rs", "shapes/t_point.rs"] := by
    decide +kernel
  obtain ⟨files, hfiles, hpaths⟩ := exists_eq_ok hcheck
  have hreach := writeAll_exact.2 _ _ _ (grown_pointTree "shapes") isBuilderModule_pointTree hfiles
    outDisk "out" ["out"] leadsTo_outDisk rfl
  exact ⟨files, hfiles, hpaths, hreach.1, hreach.2 rfl⟩

end Output

end BuilderForge
