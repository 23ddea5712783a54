import BuilderForge.Proofs.Derive.Accepted
import BuilderForge.Proofs.Disk.Kinds
import BuilderForge.Proofs.Disk.Paths

set_option autoImplicit false

/-! # Where paths lead

There are no links on a disk, so that the text of a path tells where it leads (`destination`), if it
leads anywhere (`eq_foldl_step`). For that all directories on the way have to be there
(`follow_eq_ok_iff`). They still are on a disk that keeps what stood there (`Keeps`), so there the path
leads to the same place (`Keeps.locate`). Where a name on the way is missing and no file is in its place, it is not found
(`foldlM_follow_missing`).
-/

namespace BuilderForge.Disk

/-! ## One piece -/

/-- Where one more piece of a path leads, if it leads anywhere. -/
def step (names : List String) (piece : String) : List String :=
  if piece.isEmpty || piece == "." then names
  else if piece == ".." then names.dropLast
  else names ++ [piece]

theorem isTaken_eq_false_iff {name : String} :
    isTaken name = false ↔ name ≠ "" ∧ name ≠ "." ∧ name ≠ ".." := by
  rw [← Bool.not_eq_true]
  simp [isTaken, not_or, and_assoc]

theorem step_of_not_isTaken {piece : String} (h : isTaken piece = false) (names : List String) :
    step names piece = names ++ [piece] := by
  simp only [isTaken, Bool.or_eq_false_iff] at h
  simp [step, h]

theorem step_of_meaningless {piece : String} (h : piece = "" ∨ piece = ".") (names : List String) :
    step names piece = names := by
  rcases h with rfl | rfl <;> rfl

section Following

variable {d d' : Disk} {names names' : List String} {piece : String}

theorem get?_eq_none_iff : d.get? names = none ↔ d.kindAt? names = none := by
  rw [get?, kindAt?, Node.kindAt?, Option.map_eq_none_iff]

theorem directory_eq_ok_iff {u : Unit} :
    d.directory names = .ok u ↔ d.kindAt? names = some .directory := by
  unfold directory kindAt? Node.kindAt? get?
  cases hnode : d.root.get? names with
  | none => simp
  | some n => cases n <;> simp [Node.kind]

/-- A piece leads on from a directory, and to something that is there. -/
theorem follow_eq_ok_iff : d.follow names piece = .ok names' ↔
    d.kindAt? names = some .directory ∧ names' = step names piece
      ∧ (isTaken piece = false →
        d.limits.allowsName piece ∧ d.kindAt? (names ++ [piece]) ≠ none) := by
  unfold follow
  rw [bind_eq_ok_iff]
  simp only [directory_eq_ok_iff, exists_const]
  refine and_congr_right fun _ => ?_
  by_cases hname : piece.isEmpty || piece == "."
  · have htaken : isTaken piece = true := by rw [isTaken, hname, Bool.true_or]
    simp [hname, step, htaken, pure_eq_ok_iff]
  · rw [Bool.not_eq_true] at hname
    by_cases hup : piece == ".."
    · have htaken : isTaken piece = true := by rw [isTaken, hup, Bool.or_true]
      simp [hname, hup, step, htaken, pure_eq_ok_iff]
    · rw [Bool.not_eq_true] at hup
      have htaken : isTaken piece = false := by rw [isTaken, hname, hup, Bool.or_false]
      simp only [hname, hup, Bool.false_eq_true, if_false, step, htaken, forall_const, ne_eq,
        ← get?_eq_none_iff]
      split
      · next hlong =>
          rw [Bool.not_eq_true'] at hlong
          simp [hlong]
      · next hshort =>
          rw [Bool.not_eq_true', Bool.not_eq_false] at hshort
          split
          · next n hn => simp [hn, hshort, pure_eq_ok_iff]
          · next hn => simp [hn]

theorem follow_missing (hdir : d.kindAt? names = some .directory) (hname : isTaken piece = false)
    (hfits : d.limits.allowsName piece) (hnone : d.kindAt? (names ++ [piece]) = none) :
    d.follow names piece = .error .notFound := by
  have hok : d.directory names = .ok () := directory_eq_ok_iff.mpr hdir
  simp only [isTaken, Bool.or_eq_false_iff] at hname
  unfold follow
  rw [hok]
  simp only [hname, Bool.or_self, Bool.false_eq_true, if_false, hfits, Bool.not_true,
    get?_eq_none_iff.mpr hnone]
  rfl

/-! ## Pieces one by one -/

theorem foldlM_follow_cons {pieces : List String} :
    (piece :: pieces).foldlM d.follow names = .ok names'
      ↔ ∃ next, d.follow names piece = .ok next ∧ pieces.foldlM d.follow next = .ok names' := by
  rw [List.foldlM_cons, bind_eq_ok_iff]

theorem foldlM_follow_append {pieces more : List String} :
    (pieces ++ more).foldlM d.follow names = .ok names'
      ↔ ∃ next, pieces.foldlM d.follow names = .ok next
        ∧ more.foldlM d.follow next = .ok names' := by
  rw [List.foldlM_append, bind_eq_ok_iff]

theorem foldlM_follow_nil : ([] : List String).foldlM d.follow names = .ok names' ↔ names' = names :=
  pure_eq_ok_iff

theorem eq_foldl_step {pieces : List String} (h : pieces.foldlM d.follow names = .ok names') :
    names' = pieces.foldl step names := by
  induction pieces generalizing names with
  | nil => exact foldlM_follow_nil.mp h
  | cons piece pieces ih =>
      obtain ⟨next, hnext, hrest⟩ := foldlM_follow_cons.mp h
      rw [List.foldl_cons, ← (follow_eq_ok_iff.mp hnext).2.1]
      exact ih hrest

/-- Every name on the way is short enough. -/
theorem fits_of_foldlM_follow {pieces : List String}
    (h : pieces.foldlM d.follow names = .ok names') :
    ∀ x ∈ pieces, isTaken x = false → d.limits.allowsName x := by
  induction pieces generalizing names with
  | nil => simp
  | cons piece pieces ih =>
      obtain ⟨next, hnext, hrest⟩ := foldlM_follow_cons.mp h
      rw [List.forall_mem_cons]
      exact ⟨fun hname => ((follow_eq_ok_iff.mp hnext).2.2 hname).1, ih hrest⟩

/-- Pieces that mean nothing lead nowhere else. -/
theorem eq_of_foldlM_meaningless {pieces : List String} (hpieces : ∀ x ∈ pieces, x = "" ∨ x = ".")
    (h : pieces.foldlM d.follow names = .ok names') : names' = names := by
  rw [eq_foldl_step h]
  clear h
  induction pieces with
  | nil => rfl
  | cons piece pieces ih =>
      rw [List.forall_mem_cons] at hpieces
      rw [List.foldl_cons, step_of_meaningless hpieces.1]
      exact ih hpieces.2

theorem foldl_step_of_names {pieces : List String} (h : ∀ x ∈ pieces, isTaken x = false)
    (names : List String) : pieces.foldl step names = names ++ pieces := by
  induction pieces generalizing names with
  | nil => exact (List.append_nil names).symm
  | cons piece pieces ih =>
      rw [List.forall_mem_cons] at h
      rw [List.foldl_cons, step_of_not_isTaken h.1, ih h.2, List.append_assoc,
        List.singleton_append]

/-- Where everything on the way is a directory, names lead to the end of it. -/
theorem foldlM_follow_names {pieces : List String}
    (hpieces : ∀ x ∈ pieces, isTaken x = false ∧ d.limits.allowsName x)
    (hdir : d.kindAt? (names ++ pieces) = some .directory) :
    pieces.foldlM d.follow names = .ok (names ++ pieces) := by
  induction pieces generalizing names with
  | nil => exact foldlM_follow_nil.mpr (List.append_nil names)
  | cons piece pieces ih =>
      rw [List.forall_mem_cons] at hpieces
      have hnext : d.kindAt? (names ++ [piece] ++ pieces) = some .directory := by
        rwa [List.append_assoc]
      have hhere : d.kindAt? names = some .directory :=
        Node.kindAt?_of_append (by rw [← kindAt?, hdir]; exact Option.some_ne_none _)
      have hthere : d.kindAt? (names ++ [piece]) ≠ none := by
        cases pieces with
        | nil =>
            rw [hdir]
            exact Option.some_ne_none _
        | cons x pieces =>
            have hinner : d.kindAt? (names ++ [piece]) = some .directory :=
              Node.kindAt?_of_append (by rw [← kindAt?, hnext]; exact Option.some_ne_none _)
            rw [hinner]
            exact Option.some_ne_none _
      have hfollow : d.follow names piece = .ok (names ++ [piece]) :=
        follow_eq_ok_iff.mpr ⟨hhere, (step_of_not_isTaken hpieces.1.1 names).symm,
          fun _ => ⟨hpieces.1.2, hthere⟩⟩
      rw [foldlM_follow_cons]
      refine ⟨_, hfollow, ?_⟩
      rw [ih hpieces.2 hnext, List.append_assoc, List.singleton_append]

/-- No file stands on the way. -/
def IsClear (d : Disk) (names way : List String) : Prop :=
  ∀ part, part <+: way → ∀ c, d.kindAt? (names ++ part) ≠ some (.file c)

theorem IsClear.of_prefix {way part : List String} (h : d.IsClear names way) (hpart : part <+: way) :
    d.IsClear names part := fun q hq => h q (hq.trans hpart)

theorem IsClear.tail {way : List String} (h : d.IsClear names (piece :: way)) :
    d.IsClear (names ++ [piece]) way := by
  intro part hpart c
  rw [List.append_assoc]
  exact h _ (List.cons_prefix_cons.mpr ⟨rfl, hpart⟩) c

/-- What is no file on the way is a directory or missing. -/
theorem IsClear.directory_or_missing {way part : List String} (h : d.IsClear names way)
    (hpart : part <+: way) :
    d.kindAt? (names ++ part) = some .directory ∨ d.kindAt? (names ++ part) = none := by
  cases hkind : d.kindAt? (names ++ part) with
  | none => exact Or.inr rfl
  | some k =>
      cases k with
      | file c => exact absurd hkind (h part hpart c)
      | directory => exact Or.inl rfl

/-- Where the end of the way is missing, the first name that is missing is not found. -/
theorem foldlM_follow_missing {way : List String} (hdir : d.kindAt? names = some .directory)
    (hway : ∀ x ∈ way, isTaken x = false ∧ d.limits.allowsName x) (hclear : d.IsClear names way)
    (hnone : d.kindAt? (names ++ way) = none) : way.foldlM d.follow names = .error .notFound := by
  induction way generalizing names with
  | nil =>
      rw [List.append_nil, hdir] at hnone
      cases hnone
  | cons piece way ih =>
      rw [List.forall_mem_cons] at hway
      have hpart : [piece] <+: piece :: way := ⟨way, rfl⟩
      rw [List.foldlM_cons]
      rcases hclear.directory_or_missing hpart with hinner | hinner
      · have hfollow : d.follow names piece = .ok (names ++ [piece]) :=
          follow_eq_ok_iff.mpr ⟨hdir, (step_of_not_isTaken hway.1.1 names).symm,
            fun _ => ⟨hway.1.2, by rw [hinner]; exact Option.some_ne_none _⟩⟩
        rw [hfollow]
        exact ih hinner hway.2 hclear.tail (by rwa [List.append_assoc])
      · rw [follow_missing hdir hway.1.1 hway.1.2 hinner]
        rfl

end Following

/-! ## Whole paths -/

/-- Where a path leads, if it leads anywhere. -/
def destination (d : Disk) (path : String) : List String :=
  (FilePath.pieces path).foldl step (d.startOf path)

theorem locate_eq_ok_iff {d : Disk} {path : String} {names : List String} :
    d.locate path = .ok names ↔ d.pathFailure? path = none
      ∧ (FilePath.pieces path).foldlM d.follow (d.startOf path) = .ok names := by
  unfold locate
  cases d.pathFailure? path with
  | none => simp
  | some e => simp

/-! ## Disks that keep what stood there -/

/-- What stood on the disk `d` stands on `d'` as well, and directories are still directories. -/
structure Keeps (d d' : Disk) : Prop where
  current : d'.current = d.current
  limits : d'.limits = d.limits
  directory : ∀ q, d.kindAt? q = some .directory → d'.kindAt? q = some .directory
  standing : ∀ q, d.kindAt? q ≠ none → d'.kindAt? q ≠ none

namespace Keeps

variable {d d' d'' : Disk} {names names' : List String} {path : String}

theorem refl (d : Disk) : d.Keeps d := ⟨rfl, rfl, fun _ h => h, fun _ h => h⟩

theorem trans (h : d.Keeps d') (h' : d'.Keeps d'') : d.Keeps d'' :=
  ⟨h'.current.trans h.current, h'.limits.trans h.limits,
    fun q hq => h'.directory q (h.directory q hq), fun q hq => h'.standing q (h.standing q hq)⟩

theorem startOf (h : d.Keeps d') (path : String) : d'.startOf path = d.startOf path := by
  rw [Disk.startOf, Disk.startOf, h.current]

theorem destination (h : d.Keeps d') (path : String) : d'.destination path = d.destination path := by
  rw [Disk.destination, Disk.destination, h.startOf]

theorem pathFailure? (h : d.Keeps d') (path : String) : d'.pathFailure? path = d.pathFailure? path := by
  rw [Disk.pathFailure?, Disk.pathFailure?, h.limits]

theorem foldlM_follow (h : d.Keeps d') {pieces : List String}
    (hfollow : pieces.foldlM d.follow names = .ok names') :
    pieces.foldlM d'.follow names = .ok names' := by
  induction pieces generalizing names with
  | nil => exact hfollow
  | cons piece pieces ih =>
      obtain ⟨next, hnext, hrest⟩ := foldlM_follow_cons.mp hfollow
      obtain ⟨hdir, hstep, hname⟩ := follow_eq_ok_iff.mp hnext
      refine foldlM_follow_cons.mpr ⟨next, follow_eq_ok_iff.mpr ?_, ih hrest⟩
      rw [h.limits]
      exact ⟨h.directory _ hdir, hstep, fun hfree => ⟨(hname hfree).1, h.standing _ (hname hfree).2⟩⟩

theorem locate (h : d.Keeps d') (hlocate : d.locate path = .ok names) :
    d'.locate path = .ok names := by
  rw [locate_eq_ok_iff] at hlocate ⊢
  rw [h.startOf, h.pathFailure?]
  exact ⟨hlocate.1, h.foldlM_follow hlocate.2⟩

end Keeps

end BuilderForge.Disk
