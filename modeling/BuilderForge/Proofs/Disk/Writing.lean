import BuilderForge.Proofs.Disk.Following

set_option autoImplicit false

/-! # What is written on a disk

To write a file is to make the directories that it lies in, as far as they are missing (`made`), and
to fill it. If that fails, nothing is changed but that there may be new directories
(`addsDirectories_made`). If it succeeds, the file has its content and can be read under its path
(`written_of_overwrite`). In both cases all that stood on the disk is kept, but for the content of the
file itself (`write_keeps`).
-/

namespace BuilderForge.Disk

/-! ## Directories that are added -/

/-- The disk `d'` is as `d`, but that there may be directories where nothing was, at names that are
allowed. -/
structure AddsDirectories (d d' : Disk) (allowed : List String → Prop) : Prop where
  current : d'.current = d.current
  limits : d'.limits = d.limits
  kindAt? : ∀ q, d'.kindAt? q = d.kindAt? q
    ∨ d.kindAt? q = none ∧ d'.kindAt? q = some .directory ∧ allowed q

namespace AddsDirectories

variable {d d' d'' : Disk} {allowed : List String → Prop}

theorem refl (d : Disk) : d.AddsDirectories d allowed :=
  ⟨rfl, rfl, fun _ => Or.inl rfl⟩

theorem trans (h : d.AddsDirectories d' allowed) (h' : d'.AddsDirectories d'' allowed) :
    d.AddsDirectories d'' allowed := by
  refine ⟨h'.current.trans h.current, h'.limits.trans h.limits, fun q => ?_⟩
  rcases h.kindAt? q with hsame | ⟨hnone, hdir, hallowed⟩
  · rcases h'.kindAt? q with hsame' | ⟨hnone', hdir', hallowed'⟩
    · exact Or.inl (hsame'.trans hsame)
    · exact Or.inr ⟨hsame ▸ hnone', hdir', hallowed'⟩
  · rcases h'.kindAt? q with hsame' | ⟨hnone', -, -⟩
    · exact Or.inr ⟨hnone, hsame'.trans hdir, hallowed⟩
    · rw [hdir] at hnone'
      cases hnone'

theorem mono {allowed' : List String → Prop} (h : d.AddsDirectories d' allowed)
    (himp : ∀ q, allowed q → allowed' q) : d.AddsDirectories d' allowed' :=
  ⟨h.current, h.limits,
    fun q => (h.kindAt? q).imp_right fun ⟨hnone, hdir, hq⟩ => ⟨hnone, hdir, himp q hq⟩⟩

theorem of_puts {names : List String} (hputs : d.Puts d' names .directory)
    (hnone : d.kindAt? names = none) (hallowed : allowed names) :
    d.AddsDirectories d' allowed := by
  refine ⟨hputs.current, hputs.limits, fun q => ?_⟩
  rw [hputs.kindAt?]
  split
  · next hq =>
      subst hq
      exact Or.inr ⟨hnone, rfl, hallowed⟩
  · exact Or.inl rfl

/-- What is no new directory is as it was. -/
theorem kindAt?_of_not_allowed (h : d.AddsDirectories d' allowed) {q : List String}
    (hq : ¬ allowed q) : d'.kindAt? q = d.kindAt? q :=
  (h.kindAt? q).resolve_right fun hnew => hq hnew.2.2

theorem kindAt?_eq_file_iff (h : d.AddsDirectories d' allowed) {q : List String} {c : Content} :
    d'.kindAt? q = some (.file c) ↔ d.kindAt? q = some (.file c) := by
  rcases h.kindAt? q with hsame | ⟨hnone, hdir, -⟩
  · rw [hsame]
  · rw [hnone, hdir]
    simp

theorem keeps (h : d.AddsDirectories d' allowed) : d.Keeps d' := by
  refine ⟨h.current, h.limits, fun q hq => ?_, fun q hq => ?_⟩
  · rcases h.kindAt? q with hsame | ⟨-, hdir, -⟩
    · rw [hsame, hq]
    · exact hdir
  · rcases h.kindAt? q with hsame | ⟨-, hdir, -⟩
    · rwa [hsame]
    · rw [hdir]
      exact Option.some_ne_none _

end AddsDirectories

/-- What is put where no directory is takes nothing away. -/
theorem Puts.keeps {d d' : Disk} {names : List String} {k : NodeKind} (h : d.Puts d' names k)
    (hplace : d.kindAt? names ≠ some .directory) : d.Keeps d' := by
  refine ⟨h.current, h.limits, fun q hq => ?_, fun q hq => ?_⟩
  · have hne : q ≠ names := by
      rintro rfl
      exact hplace hq
    rw [h.kindAt?, if_neg hne, hq]
  · rw [h.kindAt?]
    split
    · exact Option.some_ne_none _
    · exact hq

/-! ## The place of something new -/

section Places

variable {d d' : Disk} {path name : String} {dir : List String} {slashed : Bool} {c : Content}

theorem place_eq_ok_iff : d.place path = .ok (dir, name, slashed) ↔ d.pathFailure? path = none
    ∧ ∃ before, splitLast path = (before, name, slashed)
      ∧ before.foldlM d.follow (d.startOf path) = .ok dir ∧ d.kindAt? dir = some .directory := by
  unfold place
  cases d.pathFailure? path with
  | some e => simp
  | none =>
      obtain ⟨before, last, slashes⟩ := splitLast path
      simp only [bind_eq_ok_iff, pure_eq_ok_iff, directory_eq_ok_iff, true_and, Prod.mk.injEq]
      constructor
      · rintro ⟨dir, hfollow, -, hdir, rfl, rfl, rfl⟩
        exact ⟨before, ⟨rfl, rfl, rfl⟩, hfollow, hdir⟩
      · rintro ⟨before, ⟨rfl, rfl, rfl⟩, hfollow, hdir⟩
        exact ⟨dir, hfollow, (), hdir, rfl, rfl, rfl⟩

theorem makeDirectory_eq_ok_iff : d.makeDirectory path = .ok d' ↔
    ∃ dir name slashed, d.place path = .ok (dir, name, slashed) ∧ isTaken name = false
      ∧ d.limits.allowsName name ∧ d.kindAt? (dir ++ [name]) = none
      ∧ d' = { d with root := d.root.put (dir ++ [name]) (.directory []) } := by
  unfold makeDirectory
  rw [bind_eq_ok_iff]
  simp only [Prod.exists]
  refine exists_congr fun dir => exists_congr fun name => exists_congr fun slashed =>
    and_congr_right fun _ => ?_
  cases isTaken name with
  | true => simp
  | false =>
      simp only [Bool.false_eq_true, if_false, true_and, ← get?_eq_none_iff]
      split
      · next hlong =>
          rw [Bool.not_eq_true'] at hlong
          simp [hlong]
      · next hshort =>
          rw [Bool.not_eq_true', Bool.not_eq_false] at hshort
          split
          · next n hn => simp [hn]
          · next hn => simp [hn, hshort, pure_eq_ok_iff]

/-- What is made is a directory, where nothing was. -/
theorem puts_of_makeDirectory (hplace : d.place path = .ok (dir, name, slashed))
    (h : d.makeDirectory path = .ok d') :
    d.kindAt? (dir ++ [name]) = none ∧ d.Puts d' (dir ++ [name]) .directory := by
  obtain ⟨dir', name', slashed', hplace', -, -, hnone, rfl⟩ := makeDirectory_eq_ok_iff.mp h
  obtain ⟨rfl, rfl, rfl⟩ : dir' = dir ∧ name' = name ∧ slashed' = slashed := by
    simpa using hplace'.symm.trans hplace
  obtain ⟨-, -, -, -, hdir⟩ := place_eq_ok_iff.mp hplace
  refine ⟨hnone, puts_put hdir ?_ fun x q => ?_⟩
  · rw [hnone]
    exact Option.some_ne_none _ ∘ Eq.symm
  · exact Node.kindAt?_directory_cons [] x q

theorem addsDirectories_of_makeDirectory (h : d.makeDirectory path = .ok d') :
    d.AddsDirectories d' fun _ => True := by
  obtain ⟨dir, name, slashed, hplace, -⟩ := makeDirectory_eq_ok_iff.mp h
  obtain ⟨hnone, hputs⟩ := puts_of_makeDirectory hplace h
  exact .of_puts hputs hnone trivial

theorem overwrite_eq_ok_iff : d.overwrite path c = .ok d' ↔
    ∃ dir name, d.place path = .ok (dir, name, false) ∧ isTaken name = false
      ∧ d.limits.allowsName name ∧ d.kindAt? (dir ++ [name]) ≠ some .directory
      ∧ d' = { d with root := d.root.put (dir ++ [name]) (.file c) } := by
  unfold overwrite
  rw [bind_eq_ok_iff]
  simp only [Prod.exists]
  refine exists_congr fun dir => exists_congr fun name => ?_
  constructor
  · rintro ⟨slashed, hplace, h⟩
    split at h
    · cases h
    · next hfree =>
        rw [Bool.not_eq_true, Bool.or_eq_false_iff] at hfree
        obtain ⟨hfree, rfl⟩ := hfree
        split at h
        · cases h
        · next hshort =>
            rw [Bool.not_eq_true', Bool.not_eq_false] at hshort
            split at h
            · cases h
            · next hnode =>
                refine ⟨hplace, hfree, hshort, ?_, pure_eq_ok_iff.mp h⟩
                intro hkind
                rw [kindAt?, Node.kindAt?, ← get?] at hkind
                cases hget : d.get? (dir ++ [name]) with
                | none =>
                    rw [hget] at hkind
                    cases hkind
                | some n =>
                    rw [hget] at hkind
                    cases n with
                    | file c => cases hkind
                    | directory entries => exact hnode entries hget
  · rintro ⟨hplace, hfree, hshort, hkind, rfl⟩
    refine ⟨false, hplace, ?_⟩
    rw [hfree, Bool.or_self, if_neg Bool.false_ne_true, hshort, Bool.not_true,
      if_neg Bool.false_ne_true]
    split
    · next entries hget =>
        rw [kindAt?, Node.kindAt?, ← get?, hget] at hkind
        exact absurd rfl hkind
    · rfl

/-- A file that has been filled is where its path leads, and no directory was there. -/
theorem written_of_overwrite (h : d.overwrite path c = .ok d') :
    d.kindAt? (d.destination path) ≠ some .directory
      ∧ d.Puts d' (d.destination path) (.file c)
      ∧ d'.locate path = .ok (d.destination path) := by
  obtain ⟨dir, name, hplace, hfree, hshort, hkind, rfl⟩ := overwrite_eq_ok_iff.mp h
  obtain ⟨hpath, before, hsplit, hfollow, hdir⟩ := place_eq_ok_iff.mp hplace
  have hpieces := FilePath.pieces_of_splitLast hsplit
  have hdest : d.destination path = dir ++ [name] := by
    rw [destination, hpieces, List.foldl_append, ← eq_foldl_step hfollow, List.foldl_cons,
      List.foldl_nil, step_of_not_isTaken hfree]
  have hputs : d.Puts { d with root := d.root.put (dir ++ [name]) (.file c) } (dir ++ [name])
      (.file c) := puts_put hdir hkind fun x q => Node.kindAt?_file_cons c x q
  have hkeeps := hputs.keeps hkind
  rw [hdest]
  refine ⟨hkind, hputs, locate_eq_ok_iff.mpr ⟨hpath, ?_⟩⟩
  rw [hpieces, foldlM_follow_append]
  refine ⟨dir, hkeeps.foldlM_follow hfollow, foldlM_follow_cons.mpr ⟨dir ++ [name], ?_, ?_⟩⟩
  · refine follow_eq_ok_iff.mpr ⟨hkeeps.directory _ hdir, (step_of_not_isTaken hfree dir).symm, ?_⟩
    intro _
    rw [hputs.kindAt?, if_pos rfl]
    exact ⟨hshort, Option.some_ne_none _⟩
  · exact foldlM_follow_nil.mpr rfl

end Places

/-! ## Directories on the way -/

/-- What has been made after directories were asked for is no more than single directories. -/
theorem makeDirectories_cons_disk (d : Disk) (path : String) (outer : List String) :
    (d.makeDirectories (path :: outer)).1 = d
      ∨ d.makeDirectory path = .ok (d.makeDirectories (path :: outer)).1
      ∨ (d.makeDirectories (path :: outer)).1 = (d.makeDirectories outer).1
      ∨ (d.makeDirectories outer).1.makeDirectory path
        = .ok (d.makeDirectories (path :: outer)).1 := by
  rw [makeDirectories]
  split
  · exact Or.inl rfl
  · split
    · next made hmade => exact Or.inr (Or.inl hmade)
    · split
      · next made e houter =>
          rw [houter]
          exact Or.inr (Or.inr (Or.inl rfl))
      · next made houter =>
          rw [houter]
          split
          · next all hall => exact Or.inr (Or.inr (Or.inr hall))
          · exact Or.inr (Or.inr (Or.inl rfl))
    · exact Or.inl rfl

theorem addsDirectories_makeDirectories (d : Disk) : ∀ paths : List String,
    d.AddsDirectories (d.makeDirectories paths).1 fun _ => True
  | [] => .refl d
  | path :: outer => by
      have ih := addsDirectories_makeDirectories d outer
      rcases makeDirectories_cons_disk d path outer with h | h | h | h
      · rw [h]
        exact .refl d
      · exact addsDirectories_of_makeDirectory h
      · rw [h]
        exact ih
      · exact ih.trans (addsDirectories_of_makeDirectory h)

/-- The disk with the directories that the path lies in. -/
def made (d : Disk) (path : String) : Disk × Option DiskFailure :=
  match FilePath.parent? path with
  | some dir => d.makeDirectories (FilePath.ancestors dir)
  | none => (d, none)

theorem addsDirectories_made (d : Disk) (path : String) :
    d.AddsDirectories (d.made path).1 fun _ => True := by
  unfold made
  split
  · exact addsDirectories_makeDirectories d _
  · exact .refl d

/-! ## Files -/

section Files

variable {d : Disk} {path : String} {c : Content}

/-- The directories are made first, and then the file is filled. -/
theorem write_eq : d.write path c = match (d.made path).2 with
    | some e => ((d.made path).1, some e)
    | none =>
        match (d.made path).1.overwrite path c with
        | .ok written => (written, none)
        | .error e => ((d.made path).1, some e) := by
  unfold write made
  rfl

/-- A file that cannot be written leaves only directories behind. -/
theorem write_failed (h : (d.write path c).2 ≠ none) : (d.write path c).1 = (d.made path).1 := by
  rw [write_eq] at h ⊢
  cases hmade : (d.made path).2 with
  | some e => rfl
  | none =>
      rw [hmade] at h
      cases hover : (d.made path).1.overwrite path c with
      | error e => rfl
      | ok written =>
          rw [hover] at h
          exact absurd rfl h

theorem write_eq_none_iff : (d.write path c).2 = none ↔ (d.made path).2 = none
    ∧ (d.made path).1.overwrite path c = .ok (d.write path c).1 := by
  rw [write_eq]
  cases (d.made path).2 with
  | some e => simp
  | none => cases (d.made path).1.overwrite path c <;> simp

/-- The file that a path leads to has this content. -/
structure HasFile (d : Disk) (path : String) (names : List String) (c : Content) : Prop where
  locate : d.locate path = .ok names
  kindAt? : d.kindAt? names = some (.file c)

theorem HasFile.read {names : List String} {s : String} (h : d.HasFile path names (.text s)) :
    d.read path = .ok s := by
  obtain ⟨n, hnode, hkind⟩ : ∃ n, d.get? names = some n ∧ n.kind = .file (.text s) :=
    Option.map_eq_some_iff.mp h.kindAt?
  cases n with
  | directory entries => cases hkind
  | file c =>
      cases hkind
      simp only [Disk.read, h.locate, bind, Except.bind, hnode, pure, Except.pure]

/-- A file that has been written is there. -/
theorem hasFile_of_write (h : (d.write path c).2 = none) :
    (d.write path c).1.HasFile path (d.destination path) c := by
  have hkeeps := (addsDirectories_made d path).keeps
  obtain ⟨-, hputs, hlocate⟩ := written_of_overwrite (write_eq_none_iff.mp h).2
  rw [hkeeps.destination] at hputs hlocate
  exact ⟨hlocate, by rw [hputs.kindAt?, if_pos rfl]⟩

/-- Whether a file is written or not, all that stood on the disk is kept. -/
theorem write_keeps (d : Disk) (path : String) (c : Content) : d.Keeps (d.write path c).1 := by
  have hkeeps := (addsDirectories_made d path).keeps
  by_cases h : (d.write path c).2 = none
  · obtain ⟨hplace, hputs, -⟩ := written_of_overwrite (write_eq_none_iff.mp h).2
    exact hkeeps.trans (hputs.keeps hplace)
  · rw [write_failed h]
    exact hkeeps

/-- To write a file changes the content of no other file. -/
theorem kindAt?_write {names : List String} {other : Content}
    (hfile : d.kindAt? names = some (.file other))
    (hne : (d.write path c).2 = none → d.destination path ≠ names) :
    (d.write path c).1.kindAt? names = some (.file other) := by
  have hadds := addsDirectories_made d path
  by_cases h : (d.write path c).2 = none
  · obtain ⟨-, hputs, -⟩ := written_of_overwrite (write_eq_none_iff.mp h).2
    rw [hadds.keeps.destination] at hputs
    rw [hputs.kindAt?, if_neg (hne h).symm, hadds.kindAt?_eq_file_iff]
    exact hfile
  · rw [write_failed h, hadds.kindAt?_eq_file_iff]
    exact hfile

end Files

end BuilderForge.Disk
