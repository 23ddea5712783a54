import BuilderForge.Output
import BuilderForge.Proofs.Disk.Writing

set_option autoImplicit false

/-! # Attempts to write files

Generated files are written one after the other, each on the disk that the attempts before it have
left. An attempt fails or succeeds for itself: every file is attempted, there is one remark for each
attempt that fails, and what has been written stays as it is until it is written once more
(`accounts`).
-/

namespace BuilderForge.Output

/-- A file, and why it could not be written, if it could not. -/
structure Attempt where
  file : GeneratedFile
  failure : Option DiskFailure
  deriving DecidableEq, Repr

namespace Attempt

/-- What is to be said about an attempt. -/
def remark? (root : String) (a : Attempt) : Option Diagnostic :=
  a.failure.map fun e =>
    .writeFailed (FilePath.join root a.file.path) (a.file.owner.getD moduleFile) e.message

end Attempt

/-- The attempts to write files below the directory `root`, each on the disk that is left by those
before it. -/
def attempts (root : String) : Disk → List GeneratedFile → List Attempt
  | _, [] => []
  | d, f :: fs =>
      ⟨f, (d.write (FilePath.join root f.path) (.text f.code)).2⟩
        :: attempts root (d.write (FilePath.join root f.path) (.text f.code)).1 fs

/-- The attempt fills the file that these names lead to. -/
def Attempt.Fills (a : Attempt) (d : Disk) (root : String) (names : List String) : Prop :=
  a.failure = none ∧ d.destination (FilePath.join root a.file.path) = names

/-- What is left, and what is said, after files have been written below the directory `root`. -/
structure Accounts (d : Disk) (root : String) (files : List GeneratedFile) : Prop where
  /-- Every file is attempted once, in order. -/
  attempted : (attempts root d files).map Attempt.file = files
  /-- There is one remark for each attempt that fails, in order. -/
  remarks : (writeAll d root files).2 = (attempts root d files).filterMap (Attempt.remark? root)
  /-- A file that was written, and was not written again later, holds its code. -/
  written : ∀ before f after, attempts root d files = before ++ ⟨f, none⟩ :: after →
    (∀ a ∈ after, ¬ a.Fills d root (d.destination (FilePath.join root f.path))) →
    (writeAll d root files).1.read (FilePath.join root f.path) = .ok f.code
  /-- A file that none of the attempts has written holds what it held before. -/
  untouched : ∀ names c, d.kindAt? names = some (.file c) →
    (∀ a ∈ attempts root d files, ¬ a.Fills d root names) →
    (writeAll d root files).1.kindAt? names = some (.file c)

section Steps

variable (d : Disk) (root : String) (f : GeneratedFile) (fs : List GeneratedFile)

/-- A file is attempted, and then the others are, whatever becomes of it. -/
theorem writeAll_cons : writeAll d root (f :: fs)
    = ((writeAll (d.write (FilePath.join root f.path) (.text f.code)).1 root fs).1,
      ((Attempt.mk f (d.write (FilePath.join root f.path) (.text f.code)).2).remark? root).toList
        ++ (writeAll (d.write (FilePath.join root f.path) (.text f.code)).1 root fs).2) := by
  conv_lhs => unfold writeAll
  delta write
  dsimp only
  generalize d.write (FilePath.join root f.path) (.text f.code) = w
  obtain ⟨d', failure⟩ := w
  cases failure <;> rfl

theorem writeAll_cons_disk : (writeAll d root (f :: fs)).1
    = (writeAll (d.write (FilePath.join root f.path) (.text f.code)).1 root fs).1 := by
  rw [writeAll_cons]

end Steps

section Runs

variable {root : String} {names : List String} {c : Content}

theorem writeAll_keeps (d : Disk) (root : String) (files : List GeneratedFile) :
    d.Keeps (writeAll d root files).1 := by
  induction files generalizing d with
  | nil => exact .refl d
  | cons f fs ih =>
      rw [writeAll_cons_disk]
      exact (d.write_keeps _ _).trans (ih _)

/-- Files that are written elsewhere do not matter for a file. -/
theorem kindAt?_writeAll {d : Disk} {files : List GeneratedFile}
    (hfile : d.kindAt? names = some (.file c))
    (hfree : ∀ a ∈ attempts root d files, ¬ a.Fills d root names) :
    (writeAll d root files).1.kindAt? names = some (.file c) := by
  induction files generalizing d with
  | nil => exact hfile
  | cons f fs ih =>
      have hkeeps := d.write_keeps (FilePath.join root f.path) (.text f.code)
      rw [attempts, List.forall_mem_cons] at hfree
      rw [writeAll_cons_disk]
      refine ih (Disk.kindAt?_write hfile fun hok hdest => hfree.1 ⟨hok, hdest⟩) ?_
      intro a ha hfills
      exact hfree.2 a ha ⟨hfills.1, (hkeeps.destination _).symm.trans hfills.2⟩

/-- A file that is written and not written again is there. -/
theorem read_writeAll {d : Disk} {files : List GeneratedFile} {before after : List Attempt}
    {f : GeneratedFile} (h : attempts root d files = before ++ ⟨f, none⟩ :: after)
    (hfree : ∀ a ∈ after, ¬ a.Fills d root (d.destination (FilePath.join root f.path))) :
    (writeAll d root files).1.read (FilePath.join root f.path) = .ok f.code := by
  induction files generalizing d before with
  | nil => exact absurd h.symm (by simp [attempts])
  | cons g fs ih =>
      have hkeeps := d.write_keeps (FilePath.join root g.path) (.text g.code)
      have hfree' : ∀ a ∈ after, ¬ a.Fills (d.write (FilePath.join root g.path) (.text g.code)).1
          root (d.destination (FilePath.join root f.path)) := fun a ha hfills =>
        hfree a ha ⟨hfills.1, (hkeeps.destination _).symm.trans hfills.2⟩
      rw [attempts] at h
      rw [writeAll_cons_disk]
      cases before with
      | nil =>
          obtain ⟨hhead, rfl⟩ := List.cons.inj h
          obtain ⟨rfl, hok⟩ := Attempt.mk.inj hhead
          have hfile := Disk.hasFile_of_write hok
          exact Disk.HasFile.read
            ⟨(writeAll_keeps _ root fs).locate hfile.locate, kindAt?_writeAll hfile.kindAt? hfree'⟩
      | cons a before =>
          refine ih (List.cons.inj h).2 ?_
          rwa [hkeeps.destination]

end Runs

/-- What is answered and left after files have been written is told by the attempts, whatever the
disk was before. -/
theorem accounts (d : Disk) (root : String) (files : List GeneratedFile) :
    Accounts d root files where
  attempted := by
    induction files generalizing d with
    | nil => rfl
    | cons f fs ih => rw [attempts, List.map_cons, ih]
  remarks := by
    induction files generalizing d with
    | nil => rfl
    | cons f fs ih =>
        rw [writeAll_cons, ih, attempts, List.filterMap_cons]
        cases Attempt.remark? root _ <;> rfl
  written _ _ _ := read_writeAll
  untouched _ _ := kindAt?_writeAll

end BuilderForge.Output
