import BuilderForge.Proofs.Disk.Writing
import Mathlib.Data.List.Induction

set_option autoImplicit false

/-! # Writing below a directory

A file is written below a directory that is there, by a path of plain names. The directories on the
way are asked for from the inside out. None is made but those on the way
(`addsDirectories_made_below`); if no file is on the way, and no name and no path is too long, they are
all there in the end (`made_below_ok`). So of a file with a free place and nothing on the way it can
be told by the lengths of its names and of its path whether it is written (`write_below_iff`).
-/

namespace BuilderForge

open FilePath (IsPiece base pieces)

/-! ## Text -/

namespace FilePath

/-- The path of names behind a directory, as it is found from the inside out. -/
def wayPath (root : String) (dirs : List String) : String :=
  ofReversed (isAbsolute root) (trimEnd (base root ++ dirs).reverse)

theorem ofReversed_cons (absolute : Bool) (x : String) (before : List String) :
    ofReversed absolute (x :: before) = "/".intercalate (before.reverse ++ [x]) := by
  rw [← List.reverse_cons]
  rfl

theorem exists_pieces_eq_base {root : String} (h : root ≠ "") :
    ∃ rest, pieces root = base root ++ rest ∧ ∀ x ∈ rest, x = "" := by
  unfold base
  rw [if_neg (mt String.isEmpty_iff.mp h)]
  split
  · next hlast =>
      obtain ⟨r, rfl⟩ := exists_append_slash (beq_iff_eq.mp hlast)
      have hempty : pieces "" = [""] := rfl
      rw [dropLast_pieces_append_slash, ← String.append_empty (s := r ++ "/"), pieces_append_slash,
        hempty]
      exact ⟨[""], rfl, by simp⟩
  · exact ⟨[], (List.append_nil _).symm, by simp⟩

theorem exists_intercalate_append {ps : List String} (hps : ps ≠ []) (qs : List String) :
    ∃ t, "/".intercalate (ps ++ qs) = "/".intercalate ps ++ t := by
  by_cases hqs : qs = []
  · exact ⟨"", by rw [hqs, List.append_nil, String.append_empty]⟩
  · exact ⟨"/" ++ "/".intercalate qs, by
      rw [String.intercalate_append_of_ne_nil hps hqs, String.append_assoc]⟩

theorem length_le_length_intercalate {ps : List String} (h : ∀ x ∈ ps, x ≠ "") :
    ps.length ≤ ("/".intercalate ps).length := by
  induction ps with
  | nil => exact Nat.zero_le _
  | cons x ps ih =>
      rw [List.forall_mem_cons] at h
      have hx : 0 < x.length := by
        rw [Nat.pos_iff_ne_zero, ne_eq, String.length_eq_zero_iff]
        exact h.1
      by_cases hps : ps = []
      · rw [hps, String.intercalate_singleton]
        exact hx
      · have hrest := ih h.2
        have hslash : "/".length = 1 := rfl
        rw [String.intercalate_cons_of_ne_nil hps, String.length_append, String.length_append,
          List.length_cons]
        omega

/-- The characters of a path are those of its pieces, and slashes. -/
theorem mem_toList_intercalate {c : Char} {ps : List String}
    (h : c ∈ ("/".intercalate ps).toList) : c = '/' ∨ ∃ x ∈ ps, c ∈ x.toList := by
  induction ps with
  | nil => cases h
  | cons x ps ih =>
      by_cases hps : ps = []
      · rw [hps, String.intercalate_singleton] at h
        exact Or.inr ⟨x, List.mem_cons_self, h⟩
      · rw [String.intercalate_cons_of_ne_nil hps, String.toList_append, String.toList_append,
          List.mem_append, List.mem_append] at h
        rcases h with (h | h) | h
        · exact Or.inr ⟨x, List.mem_cons_self, h⟩
        · exact Or.inl (List.mem_singleton.mp h)
        · exact (ih h).imp_right fun ⟨y, hy, hc⟩ => ⟨y, List.mem_cons_of_mem x hy, hc⟩

end FilePath

namespace Disk

open FilePath (wayPath)

/-- A name that something new can have. -/
structure IsName (x : String) : Prop where
  free : isTaken x = false
  isPiece : IsPiece x
  noNul : Char.ofNat 0 ∉ x.toList

namespace IsName

variable {x : String} (h : IsName x)
include h

theorem ne_empty : x ≠ "" := by
  rintro rfl
  cases h.free

theorem ne_dot : x ≠ "." := by
  rintro rfl
  cases h.free

end IsName

section Text

variable {root : String} {dirs : List String} {x : String}

theorem forall_isPiece (root : String) (hdirs : ∀ y ∈ dirs, IsName y) :
    ∀ y ∈ base root ++ dirs, IsPiece y :=
  List.forall_mem_append.mpr ⟨fun _ => FilePath.isPiece_of_mem_base, fun y hy => (hdirs y hy).isPiece⟩

theorem isAbsolute_intercalate (h : ∀ y ∈ dirs, IsName y) :
    FilePath.isAbsolute ("/".intercalate dirs) = false := by
  cases dirs with
  | nil => rfl
  | cons y dirs =>
      have hy := h y List.mem_cons_self
      exact FilePath.isAbsolute_intercalate_cons hy.isPiece hy.ne_empty

/-- A path of names behind a directory. -/
theorem join_intercalate (root : String) (hne : dirs ≠ []) (h : ∀ y ∈ dirs, IsName y) :
    FilePath.join root ("/".intercalate dirs) = "/".intercalate (base root ++ dirs) := by
  rw [← FilePath.intercalate_pieces (FilePath.join root ("/".intercalate dirs)),
    FilePath.pieces_join (isAbsolute_intercalate h),
    FilePath.pieces_intercalate hne fun y hy => (h y hy).isPiece]

/-- It starts where the directory starts. -/
theorem isAbsolute_below (root : String) (hne : dirs ≠ []) (h : ∀ y ∈ dirs, IsName y) :
    FilePath.isAbsolute ("/".intercalate (base root ++ dirs)) = FilePath.isAbsolute root := by
  rw [← join_intercalate root hne h]
  obtain ⟨mark, -, hjoin⟩ := FilePath.exists_join root (isAbsolute_intercalate h)
  by_cases hroot : root = ""
  · subst hroot
    have hjoin : FilePath.join "" ("/".intercalate dirs) = "/".intercalate dirs := by
      rw [FilePath.join, isAbsolute_intercalate h, if_neg Bool.false_ne_true]
      exact (if_pos rfl).trans String.empty_append
    rw [hjoin, isAbsolute_intercalate h]
    rfl
  · rw [hjoin, String.append_assoc, FilePath.isAbsolute_append hroot]

theorem wayPath_concat (h : IsName x) :
    wayPath root (dirs ++ [x]) = "/".intercalate (base root ++ dirs ++ [x]) := by
  rw [wayPath, ← List.append_assoc, List.reverse_append, List.reverse_singleton,
    List.singleton_append, FilePath.trimEnd_cons h.ne_empty h.ne_dot, FilePath.ofReversed_cons,
    List.reverse_reverse]

theorem parent?_below (hdirs : ∀ y ∈ dirs, IsName y) (hx : IsName x) :
    FilePath.parent? ("/".intercalate (base root ++ dirs ++ [x])) = some (wayPath root dirs) := by
  have hall : ∀ y ∈ dirs ++ [x], IsName y :=
    List.forall_mem_append.mpr ⟨hdirs, List.forall_mem_singleton.mpr hx⟩
  have habsolute := isAbsolute_below root (by simp) hall
  rw [← List.append_assoc] at habsolute
  rw [FilePath.parent?_intercalate (forall_isPiece root hdirs) hx.isPiece hx.ne_empty hx.ne_dot,
    habsolute, wayPath]

theorem splitLast_below (hdirs : ∀ y ∈ dirs, IsName y) (hx : IsName x) :
    splitLast ("/".intercalate (base root ++ dirs ++ [x])) = (base root ++ dirs, x, false) :=
  FilePath.splitLast_intercalate (forall_isPiece root hdirs) hx.isPiece hx.ne_empty

theorem startOf_below (d : Disk) (hdirs : ∀ y ∈ dirs, IsName y) (hx : IsName x) :
    d.startOf ("/".intercalate (base root ++ dirs ++ [x])) = d.startOf root := by
  have hall : ∀ y ∈ dirs ++ [x], IsName y :=
    List.forall_mem_append.mpr ⟨hdirs, List.forall_mem_singleton.mpr hx⟩
  rw [startOf, startOf, List.append_assoc, isAbsolute_below root (by simp) hall]

theorem length_le_wayPath (root : String) (hdirs : ∀ y ∈ dirs, IsName y) :
    dirs.length ≤ (wayPath root dirs).length := by
  rcases List.eq_nil_or_concat' dirs with rfl | ⟨before, x, rfl⟩
  · exact Nat.zero_le _
  · have hlength := FilePath.length_le_length_intercalate fun y hy => (hdirs y hy).ne_empty
    rw [wayPath_concat (hdirs x (by simp)), List.append_assoc]
    by_cases hbase : base root = []
    · rwa [hbase, List.nil_append]
    · rw [String.intercalate_append_of_ne_nil hbase (by simp), String.length_append]
      exact hlength.trans (Nat.le_add_left _ _)

end Text

/-! ## Paths that are good wherever they lead -/

section Good

variable {d : Disk}

theorem pathFailure?_eq_none_iff {path : String} : d.pathFailure? path = none ↔
    Char.ofNat 0 ∉ path.toList ∧ path ≠ "" ∧ d.limits.allowsPath path := by
  unfold pathFailure?
  simp only [List.contains_iff_mem, String.isEmpty_iff, Bool.not_eq_true', ← Bool.not_eq_true]
  split
  · next h => simp [h]
  · next hnul =>
      split
      · next h => simp [h]
      · next hempty =>
          split
          · next h => simp [h]
          · next h => simpa [hnul, hempty] using h

theorem allowsPath_of_append {l : DiskLimits} {a b : String} (h : l.allowsPath (a ++ b)) :
    l.allowsPath a := by
  cases hpath : l.path with
  | none => simp [DiskLimits.allowsPath, hpath]
  | some n =>
      simp only [DiskLimits.allowsPath, hpath, Option.all_some, decide_eq_true_eq,
        String.utf8ByteSize_append] at h ⊢
      omega

/-- With a path its beginnings are good. -/
theorem pathFailure?_of_append {a b : String} (h : d.pathFailure? (a ++ b) = none) (ha : a ≠ "") :
    d.pathFailure? a = none := by
  rw [pathFailure?_eq_none_iff, String.toList_append, List.mem_append, not_or] at h
  exact pathFailure?_eq_none_iff.mpr ⟨h.1.1, ha, allowsPath_of_append h.2.2⟩

end Good

/-! ## A directory that is there -/

/-- The path leads to these names. The empty path leads to the working directory. -/
def LeadsTo (d : Disk) (root : String) (names : List String) : Prop :=
  root = "" ∧ names = d.current ∨ d.locate root = .ok names

section Root

variable {d d' : Disk} {root : String} {names : List String}

theorem LeadsTo.keeps (h : d.LeadsTo root names) (hkeeps : d.Keeps d') : d'.LeadsTo root names := by
  rcases h with ⟨hempty, hcurrent⟩ | hlocate
  · exact Or.inl ⟨hempty, hcurrent.trans hkeeps.current.symm⟩
  · exact Or.inr (hkeeps.locate hlocate)

/-- So do its pieces. -/
theorem LeadsTo.foldlM_follow (h : d.LeadsTo root names) :
    (base root).foldlM d.follow (d.startOf root) = .ok names := by
  rcases h with ⟨rfl, rfl⟩ | hlocate
  · rfl
  · rw [locate_eq_ok_iff, pathFailure?_eq_none_iff] at hlocate
    obtain ⟨rest, hrest, hempty⟩ := FilePath.exists_pieces_eq_base hlocate.1.2.1
    rw [hrest, foldlM_follow_append] at hlocate
    obtain ⟨-, next, hnext, hmore⟩ := hlocate
    rw [eq_of_foldlM_meaningless (fun x hx => Or.inl (hempty x hx)) hmore]
    exact hnext

/-- What is there cannot be made. -/
theorem makeDirectory_there {path x : String} {before : List String}
    (hsplit : splitLast path = (before, x, false)) (hlocate : d.locate path = .ok names) :
    d.makeDirectory path = .error .exists := by
  rw [locate_eq_ok_iff, FilePath.pieces_of_splitLast hsplit, foldlM_follow_append] at hlocate
  obtain ⟨hpath, dir, hfollow, hlast⟩ := hlocate
  obtain ⟨next, hnext, -⟩ := foldlM_follow_cons.mp hlast
  obtain ⟨hdir, -, hname⟩ := follow_eq_ok_iff.mp hnext
  have hplace : d.place path = .ok (dir, x, false) :=
    place_eq_ok_iff.mpr ⟨hpath, before, hsplit, hfollow, hdir⟩
  unfold makeDirectory
  rw [hplace]
  cases htaken : isTaken x with
  | true => simp [bind, Except.bind, htaken]
  | false =>
      obtain ⟨hshort, hthere⟩ := hname htaken
      obtain ⟨n, hn⟩ := Option.ne_none_iff_exists'.mp (mt get?_eq_none_iff.mp hthere)
      simp [bind, Except.bind, htaken, hshort, hn]

/-- Nothing has to be made for a directory that is there. -/
theorem makeDirectories_there {path x : String} {before : List String}
    (hsplit : splitLast path = (before, x, false)) (hlocate : d.locate path = .ok names)
    (hdir : d.kindAt? names = some .directory) (outer : List String) :
    d.makeDirectories (path :: outer) = (d, none) := by
  have hdirectory : d.directory names = .ok () := directory_eq_ok_iff.mpr hdir
  have hthere : d.hasDirectory path = true := by
    rw [hasDirectory, hlocate]
    simp [Except.bind, hdirectory]
  rw [makeDirectories, makeDirectory_there hsplit hlocate, hthere]
  split <;> rfl

/-- The path that the directories on the way lie in is the top or the working directory, or a
beginning of the path of the directory that leads to the same place. -/
theorem LeadsTo.wayPath_nil (h : d.LeadsTo root names) :
    wayPath root [] = (if FilePath.isAbsolute root then "/" else "")
      ∨ ∃ before x, splitLast (wayPath root []) = (before, x, false)
        ∧ d.locate (wayPath root []) = .ok names := by
  obtain ⟨rest, hrest, hmeaningless⟩ := FilePath.exists_trimEnd (base root).reverse
  rw [wayPath, List.append_nil]
  cases htrim : FilePath.trimEnd (base root).reverse with
  | nil => exact Or.inl rfl
  | cons x before =>
      have hx := FilePath.head_trimEnd_ne_empty htrim
      have hbase : base root = before.reverse ++ [x] ++ rest.reverse := by
        rw [htrim] at hrest
        rw [← List.reverse_reverse (base root), hrest]
        simp
      have hpiece : ∀ y ∈ before.reverse ++ [x], IsPiece y := fun y hy =>
        FilePath.isPiece_of_mem_base (hbase ▸ List.mem_append_left _ hy)
      have hsplit := FilePath.splitLast_intercalate (List.forall_mem_append.mp hpiece).1
        (hpiece x (by simp)) hx
      have hpieces := FilePath.pieces_intercalate (by simp) hpiece
      have hne := FilePath.intercalate_ne_empty hpiece (by simp) hx
      have hroot : root ≠ "" := by
        rintro rfl
        exact absurd hbase.symm (by simp [base])
      -- the text of the directory begins with that of these pieces
      obtain ⟨empty, hall, -⟩ := FilePath.exists_pieces_eq_base hroot
      rw [hbase, List.append_assoc] at hall
      have hfull : before.reverse ++ [x] ≠ [] := by simp
      obtain ⟨t, ht⟩ := FilePath.exists_intercalate_append hfull (rest.reverse ++ empty)
      rw [← hall, FilePath.intercalate_pieces] at ht
      have hlocate := locate_eq_ok_iff.mp (h.resolve_left fun hleft => hroot hleft.1)
      have hfollow := h.foldlM_follow
      rw [hbase, foldlM_follow_append] at hfollow
      obtain ⟨next, hnext, hback⟩ := hfollow
      obtain rfl := eq_of_foldlM_meaningless
        (fun y hy => hmeaningless y (List.mem_reverse.mp hy)) hback
      rw [FilePath.ofReversed_cons]
      refine Or.inr ⟨before.reverse, x, hsplit, locate_eq_ok_iff.mpr ⟨?_, ?_⟩⟩
      · rw [ht] at hlocate
        exact pathFailure?_of_append hlocate.1 hne
      · rw [hpieces]
        rw [ht, startOf, FilePath.isAbsolute_append hne, ← startOf] at hnext
        exact hnext

theorem exists_outward_eq_cons (path : String) (fuel : Nat) :
    ∃ outer, FilePath.outward path fuel = path :: outer := by
  cases fuel with
  | zero => exact ⟨[], rfl⟩
  | succ fuel =>
      rw [FilePath.outward]
      split
      · exact ⟨[], rfl⟩
      · exact ⟨_, rfl⟩

theorem makeDirectories_root (h : d.LeadsTo root names)
    (hdir : d.kindAt? names = some .directory) (fuel : Nat) :
    d.makeDirectories (FilePath.outward (wayPath root []) fuel) = (d, none) := by
  obtain ⟨outer, houter⟩ := exists_outward_eq_cons (wayPath root []) fuel
  rw [houter]
  rcases h.wayPath_nil with htop | ⟨before, x, hsplit, hlocate⟩
  · have hnone : ((wayPath root []).isEmpty || (FilePath.parent? (wayPath root [])).isNone)
        = true := by
      rw [htop]
      cases FilePath.isAbsolute root <;> rfl
    rw [makeDirectories, if_pos hnone]
  · exact makeDirectories_there hsplit hlocate hdir outer

end Root

/-! ## One directory on the way -/

section Way

variable {d d' : Disk} {root : String} {names dirs : List String} {x : String}

theorem foldlM_follow_below (hroot : d.LeadsTo root names)
    (hdirs : ∀ y ∈ dirs, IsName y ∧ d.limits.allowsName y)
    (hdir : d.kindAt? (names ++ dirs) = some .directory) :
    (base root ++ dirs).foldlM d.follow (d.startOf root) = .ok (names ++ dirs) := by
  rw [foldlM_follow_append]
  exact ⟨names, hroot.foldlM_follow,
    foldlM_follow_names (fun y hy => ⟨(hdirs y hy).1.free, (hdirs y hy).2⟩) hdir⟩

theorem place_below (hroot : d.LeadsTo root names)
    (hdirs : ∀ y ∈ dirs, IsName y ∧ d.limits.allowsName y) (hx : IsName x)
    (hpath : d.pathFailure? ("/".intercalate (base root ++ dirs ++ [x])) = none)
    (hdir : d.kindAt? (names ++ dirs) = some .directory) :
    d.place ("/".intercalate (base root ++ dirs ++ [x])) = .ok (names ++ dirs, x, false) := by
  have hnames : ∀ y ∈ dirs, IsName y := fun y hy => (hdirs y hy).1
  rw [place_eq_ok_iff, splitLast_below hnames hx, startOf_below d hnames hx]
  exact ⟨hpath, _, rfl, foldlM_follow_below hroot hdirs hdir, hdir⟩

/-- What is made by names behind a directory lies at these names. -/
theorem puts_of_makeDirectory_below (hroot : d.LeadsTo root names) (hdirs : ∀ y ∈ dirs, IsName y)
    (hx : IsName x) (h : d.makeDirectory ("/".intercalate (base root ++ dirs ++ [x])) = .ok d') :
    d.kindAt? (names ++ dirs ++ [x]) = none ∧ d.Puts d' (names ++ dirs ++ [x]) .directory := by
  obtain ⟨dir, name, slashed, hplace, -⟩ := makeDirectory_eq_ok_iff.mp h
  obtain ⟨-, before, hsplit, hfollow, -⟩ := place_eq_ok_iff.mp hplace
  obtain ⟨rfl, rfl, rfl⟩ : base root ++ dirs = before ∧ x = name ∧ false = slashed := by
    simpa using (splitLast_below hdirs hx).symm.trans hsplit
  rw [startOf_below d hdirs hx, foldlM_follow_append, hroot.foldlM_follow] at hfollow
  obtain ⟨next, hnext, hfollow⟩ := hfollow
  obtain rfl := Except.ok.inj hnext
  obtain rfl : dir = names ++ dirs :=
    (eq_foldl_step hfollow).trans (foldl_step_of_names (fun y hy => (hdirs y hy).free) names)
  exact puts_of_makeDirectory hplace h

theorem exists_makeDirectory_below (hroot : d.LeadsTo root names)
    (hdirs : ∀ y ∈ dirs, IsName y ∧ d.limits.allowsName y) (hx : IsName x)
    (hshort : d.limits.allowsName x)
    (hpath : d.pathFailure? ("/".intercalate (base root ++ dirs ++ [x])) = none)
    (hdir : d.kindAt? (names ++ dirs) = some .directory)
    (hnone : d.kindAt? (names ++ dirs ++ [x]) = none) :
    ∃ d', d.makeDirectory ("/".intercalate (base root ++ dirs ++ [x])) = .ok d'
      ∧ d'.kindAt? (names ++ dirs ++ [x]) = some .directory := by
  have hnames : ∀ y ∈ dirs, IsName y := fun y hy => (hdirs y hy).1
  have hmade := makeDirectory_eq_ok_iff.mpr
    ⟨_, _, _, place_below hroot hdirs hx hpath hdir, hx.free, hshort, hnone, rfl⟩
  obtain ⟨-, hputs⟩ := puts_of_makeDirectory_below hroot hnames hx hmade
  exact ⟨_, hmade, by rw [hputs.kindAt?, if_pos rfl]⟩

theorem makeDirectory_below_missing (hroot : d.LeadsTo root names)
    (hrootdir : d.kindAt? names = some .directory)
    (hdirs : ∀ y ∈ dirs, IsName y ∧ d.limits.allowsName y) (hx : IsName x)
    (hpath : d.pathFailure? ("/".intercalate (base root ++ dirs ++ [x])) = none)
    (hclear : d.IsClear names dirs) (hnone : d.kindAt? (names ++ dirs) = none) :
    d.makeDirectory ("/".intercalate (base root ++ dirs ++ [x])) = .error .notFound := by
  have hnames : ∀ y ∈ dirs, IsName y := fun y hy => (hdirs y hy).1
  have hmissing : (base root ++ dirs).foldlM d.follow (d.startOf root) = .error .notFound := by
    rw [List.foldlM_append, hroot.foldlM_follow]
    exact foldlM_follow_missing hrootdir (fun y hy => ⟨(hdirs y hy).1.free, (hdirs y hy).2⟩) hclear
      hnone
  unfold makeDirectory place
  rw [hpath, splitLast_below hnames hx, startOf_below d hnames hx]
  simp only [hmissing]
  rfl

theorem locate_below (hroot : d.LeadsTo root names)
    (hdirs : ∀ y ∈ dirs, IsName y ∧ d.limits.allowsName y) (hne : dirs ≠ [])
    (hpath : d.pathFailure? ("/".intercalate (base root ++ dirs)) = none)
    (hdir : d.kindAt? (names ++ dirs) = some .directory) :
    d.locate ("/".intercalate (base root ++ dirs)) = .ok (names ++ dirs) := by
  have hnames : ∀ y ∈ dirs, IsName y := fun y hy => (hdirs y hy).1
  rw [locate_eq_ok_iff, FilePath.pieces_intercalate (by simp [hne]) (forall_isPiece root hnames),
    startOf, isAbsolute_below root hne hnames]
  exact ⟨hpath, foldlM_follow_below hroot hdirs hdir⟩

/-- With the path of names that of the directory around them is good. -/
theorem pathFailure?_below (hdirs : ∀ y ∈ dirs, IsName y) (hne : dirs ≠ [])
    (h : d.pathFailure? ("/".intercalate (base root ++ dirs ++ [x])) = none) :
    d.pathFailure? ("/".intercalate (base root ++ dirs)) = none := by
  obtain ⟨y, hy⟩ := List.exists_mem_of_ne_nil dirs hne
  have hfull : base root ++ dirs ≠ [] := by simp [hne]
  obtain ⟨t, ht⟩ := FilePath.exists_intercalate_append hfull [x]
  rw [ht] at h
  exact pathFailure?_of_append h (FilePath.intercalate_ne_empty (forall_isPiece root hdirs)
    (List.mem_append_right _ hy) (hdirs y hy).ne_empty)

/-! ## All directories on the way -/

/-- The names are those of a directory on the way. -/
def IsOnWay (names dirs q : List String) : Prop := ∃ part, part <+: dirs ∧ q = names ++ part

theorem not_isOnWay (names dirs : List String) (x : String) :
    ¬ IsOnWay names dirs (names ++ dirs ++ [x]) := by
  rintro ⟨part, hpart, hq⟩
  rw [List.append_assoc, List.append_cancel_left_eq] at hq
  have hlength := hpart.length_le
  rw [← hq, List.length_append, List.length_singleton] at hlength
  omega

theorem outward_below (hdirs : ∀ y ∈ dirs, IsName y) (hx : IsName x) (fuel : Nat) :
    FilePath.outward (wayPath root (dirs ++ [x])) (fuel + 1)
      = "/".intercalate (base root ++ dirs ++ [x])
        :: FilePath.outward (wayPath root dirs) fuel := by
  rw [FilePath.outward, wayPath_concat hx, parent?_below hdirs hx]

/-- Whatever becomes of it, no directories are made but those on the way. -/
theorem addsDirectories_way (hroot : d.LeadsTo root names)
    (hdir : d.kindAt? names = some .directory) (hdirs : ∀ y ∈ dirs, IsName y) {fuel : Nat}
    (hfuel : dirs.length ≤ fuel) :
    d.AddsDirectories (d.makeDirectories (FilePath.outward (wayPath root dirs) fuel)).1
      (IsOnWay names dirs) := by
  induction dirs using List.reverseRecOn generalizing fuel with
  | nil =>
      rw [makeDirectories_root hroot hdir]
      exact .refl d
  | append_singleton before x ih =>
      rw [List.forall_mem_append, List.forall_mem_singleton] at hdirs
      rw [List.length_append, List.length_singleton] at hfuel
      obtain ⟨fuel, rfl⟩ := Nat.exists_eq_add_of_le' (Nat.le_of_add_left_le hfuel)
      have hadds := (ih hdirs.1 (Nat.le_of_succ_le_succ hfuel)).mono
        fun q ⟨part, hpart, hq⟩ => (⟨part, hpart.trans (List.prefix_append _ _), hq⟩ :
          IsOnWay names (before ++ [x]) q)
      have hlast : ∀ {d₁ d₂ : Disk}, d.Keeps d₁ →
          d₁.makeDirectory ("/".intercalate (base root ++ before ++ [x])) = .ok d₂ →
          d₁.AddsDirectories d₂ (IsOnWay names (before ++ [x])) := fun hkeeps hmade => by
        obtain ⟨hnone, hputs⟩ :=
          puts_of_makeDirectory_below (hroot.keeps hkeeps) hdirs.1 hdirs.2 hmade
        exact .of_puts hputs hnone ⟨_, List.prefix_rfl, List.append_assoc ..⟩
      rw [outward_below hdirs.1 hdirs.2]
      rcases makeDirectories_cons_disk d _ _ with h | h | h | h
      · rw [h]
        exact .refl d
      · exact hlast (.refl d) h
      · rw [h]
        exact hadds
      · exact hadds.trans (hlast hadds.keeps h)

/-- A directory whose outer directories are there or can be made is made. -/
theorem makeDirectories_made {path : String} {outer : List String} (hne : path ≠ "")
    (hparent : FilePath.parent? path ≠ none)
    (h : d.makeDirectory path = .ok d'
      ∨ d.makeDirectory path = .error .notFound ∧ (d.makeDirectories outer).2 = none
        ∧ (d.makeDirectories outer).1.makeDirectory path = .ok d') :
    d.makeDirectories (path :: outer) = (d', none) := by
  have hgoes : ¬ (path.isEmpty || (FilePath.parent? path).isNone) = true := by
    rw [Bool.or_eq_true, not_or, String.isEmpty_iff, Option.isNone_iff_eq_none]
    exact ⟨hne, hparent⟩
  rw [makeDirectories, if_neg hgoes]
  rcases h with hmade | ⟨hmissing, hok, hmade⟩
  · rw [hmade]
  · rw [hmissing]
    have houter : d.makeDirectories outer = ((d.makeDirectories outer).1, none) := by rw [← hok]
    generalize (d.makeDirectories outer).1 = made at houter hmade
    rw [houter]
    simp only [hmade]

/-- If no file is on the way and nothing is too long, all of them are there in the end. -/
theorem way_ok (hroot : d.LeadsTo root names) (hdir : d.kindAt? names = some .directory)
    (hdirs : ∀ y ∈ dirs, IsName y ∧ d.limits.allowsName y) (hclear : d.IsClear names dirs)
    (hpath : dirs ≠ [] → d.pathFailure? ("/".intercalate (base root ++ dirs)) = none) {fuel : Nat}
    (hfuel : dirs.length ≤ fuel) :
    (d.makeDirectories (FilePath.outward (wayPath root dirs) fuel)).2 = none
      ∧ (d.makeDirectories (FilePath.outward (wayPath root dirs) fuel)).1.kindAt? (names ++ dirs)
        = some .directory := by
  induction dirs using List.reverseRecOn generalizing fuel with
  | nil =>
      rw [makeDirectories_root hroot hdir, List.append_nil]
      exact ⟨rfl, hdir⟩
  | append_singleton before x ih =>
      obtain ⟨hbefore, hlast⟩ := List.forall_mem_append.mp hdirs
      obtain ⟨hx, hshort⟩ := hlast x (List.mem_singleton_self x)
      have hnames : ∀ y ∈ before, IsName y := fun y hy => (hbefore y hy).1
      have hbegins : before <+: before ++ [x] := List.prefix_append _ _
      have hpath := hpath (by simp)
      rw [List.length_append, List.length_singleton] at hfuel
      obtain ⟨fuel, rfl⟩ := Nat.exists_eq_add_of_le' (Nat.le_of_add_left_le hfuel)
      rw [outward_below hnames hx]
      rcases hclear.directory_or_missing List.prefix_rfl with hthere | hmissing
      · have hlocate := locate_below hroot hdirs (by simp) hpath hthere
        rw [← List.append_assoc] at hlocate
        rw [makeDirectories_there (splitLast_below hnames hx) hlocate hthere]
        exact ⟨rfl, hthere⟩
      · rw [← List.append_assoc] at hpath hmissing ⊢
        have hempty := (pathFailure?_eq_none_iff.mp hpath).2.1
        have hparent : FilePath.parent? ("/".intercalate (base root ++ before ++ [x])) ≠ none := by
          rw [parent?_below hnames hx]
          exact Option.some_ne_none _
        rcases hclear.directory_or_missing hbegins with houter | houter
        · obtain ⟨d', hmade, hthere⟩ := exists_makeDirectory_below hroot hbefore hx hshort hpath
            houter hmissing
          rw [makeDirectories_made hempty hparent (Or.inl hmade)]
          exact ⟨rfl, hthere⟩
        · -- the directory that it lies in has to be made first
          have hnotFound := makeDirectory_below_missing hroot hdir hbefore hx hpath
            (hclear.of_prefix hbegins) houter
          obtain ⟨hok, hthere⟩ := ih hbefore (hclear.of_prefix hbegins)
            (fun hne => pathFailure?_below hnames hne hpath) (Nat.le_of_succ_le_succ hfuel)
          have hadds := addsDirectories_way hroot hdir hnames (Nat.le_of_succ_le_succ hfuel)
          have hfree := hadds.kindAt?_of_not_allowed (not_isOnWay names before x)
          rw [← hadds.keeps.pathFailure?] at hpath
          rw [← hadds.limits] at hbefore hshort
          obtain ⟨d', hmade, hthere⟩ := exists_makeDirectory_below (hroot.keeps hadds.keeps) hbefore
            hx hshort hpath hthere (hfree.trans hmissing)
          rw [makeDirectories_made hempty hparent (Or.inr ⟨hnotFound, hok, hmade⟩)]
          exact ⟨rfl, hthere⟩

/-! ## A file -/

theorem made_below (hdirs : ∀ y ∈ dirs, IsName y) (hx : IsName x) (d : Disk) :
    d.made ("/".intercalate (base root ++ dirs ++ [x]))
      = d.makeDirectories (FilePath.outward (wayPath root dirs) (wayPath root dirs).length) := by
  rw [made, parent?_below hdirs hx]
  rfl

theorem addsDirectories_made_below (hroot : d.LeadsTo root names)
    (hdir : d.kindAt? names = some .directory) (hdirs : ∀ y ∈ dirs, IsName y) (hx : IsName x) :
    d.AddsDirectories (d.made ("/".intercalate (base root ++ dirs ++ [x]))).1
      (IsOnWay names dirs) := by
  rw [made_below hdirs hx]
  exact addsDirectories_way hroot hdir hdirs (length_le_wayPath root hdirs)

theorem destination_below (hroot : d.LeadsTo root names) (hdirs : ∀ y ∈ dirs, IsName y)
    (hx : IsName x) :
    d.destination ("/".intercalate (base root ++ dirs ++ [x])) = names ++ dirs ++ [x] := by
  have hall : ∀ y ∈ dirs ++ [x], IsName y :=
    List.forall_mem_append.mpr ⟨hdirs, List.forall_mem_singleton.mpr hx⟩
  rw [destination, startOf_below d hdirs hx, List.append_assoc,
    FilePath.pieces_intercalate (by simp) (forall_isPiece root hall), List.foldl_append,
    ← eq_foldl_step hroot.foldlM_follow, foldl_step_of_names fun y hy => (hall y hy).free,
    List.append_assoc]

variable {c : Content}

/-- What is written lies at its names. -/
theorem puts_of_write_below (hroot : d.LeadsTo root names) (hdirs : ∀ y ∈ dirs, IsName y)
    (hx : IsName x) (h : (d.write ("/".intercalate (base root ++ dirs ++ [x])) c).2 = none) :
    (d.made ("/".intercalate (base root ++ dirs ++ [x]))).1.Puts
      (d.write ("/".intercalate (base root ++ dirs ++ [x])) c).1 (names ++ dirs ++ [x])
      (.file c) := by
  obtain ⟨-, hputs, -⟩ := written_of_overwrite (write_eq_none_iff.mp h).2
  rwa [(addsDirectories_made d _).keeps.destination, destination_below hroot hdirs hx] at hputs

/-- A file with a free place and no files on the way is written if nothing is too long. -/
theorem write_below_iff (hroot : d.LeadsTo root names) (hdir : d.kindAt? names = some .directory)
    (hdirs : ∀ y ∈ dirs, IsName y) (hx : IsName x) (hclear : d.IsClear names dirs)
    (hplace : d.kindAt? (names ++ dirs ++ [x]) ≠ some .directory) :
    (d.write ("/".intercalate (base root ++ dirs ++ [x])) c).2 = none
      ↔ d.pathFailure? ("/".intercalate (base root ++ dirs ++ [x])) = none
        ∧ ∀ y ∈ dirs ++ [x], d.limits.allowsName y := by
  have hall : ∀ y ∈ dirs ++ [x], IsName y :=
    List.forall_mem_append.mpr ⟨hdirs, List.forall_mem_singleton.mpr hx⟩
  constructor
  · intro h
    have hkeeps := d.write_keeps ("/".intercalate (base root ++ dirs ++ [x])) c
    have hlocate := locate_eq_ok_iff.mp (hasFile_of_write h).locate
    rw [hkeeps.pathFailure?] at hlocate
    refine ⟨hlocate.1, fun y hy => ?_⟩
    have hfits := fits_of_foldlM_follow hlocate.2
    rw [hkeeps.limits] at hfits
    rw [List.append_assoc, FilePath.pieces_intercalate (by simp) (forall_isPiece root hall)] at hfits
    exact hfits y (List.mem_append_right _ hy) (hall y hy).free
  · rintro ⟨hpath, hshort⟩
    have hways : ∀ y ∈ dirs, IsName y ∧ d.limits.allowsName y := fun y hy =>
      ⟨hdirs y hy, hshort y (List.mem_append_left _ hy)⟩
    have hadds := addsDirectories_made_below hroot hdir hdirs hx
    have hway := way_ok hroot hdir hways hclear (fun hne => pathFailure?_below hdirs hne hpath)
      (length_le_wayPath root hdirs)
    rw [← made_below hdirs hx] at hway
    rw [write_eq_none_iff]
    refine ⟨hway.1, ?_⟩
    have hfree : (d.made ("/".intercalate (base root ++ dirs ++ [x]))).1.kindAt?
        (names ++ dirs ++ [x]) ≠ some .directory := by
      rw [hadds.kindAt?_of_not_allowed (not_isOnWay names dirs x)]
      exact hplace
    rw [← hadds.keeps.pathFailure?] at hpath
    rw [← hadds.limits] at hways hshort
    have hover := (overwrite_eq_ok_iff (c := c)).mpr ⟨_, _,
      place_below (hroot.keeps hadds.keeps) hways hx hpath hway.2, hx.free, hshort x (by simp),
      hfree, rfl⟩
    rw [write_eq, hway.1, hover]

/-- What is a file at its names is found by its path. -/
theorem hasFile_below (hroot : d.LeadsTo root names)
    (hall : ∀ y ∈ dirs ++ [x], IsName y ∧ d.limits.allowsName y)
    (hpath : d.pathFailure? ("/".intercalate (base root ++ dirs ++ [x])) = none)
    (hfile : d.kindAt? (names ++ dirs ++ [x]) = some (.file c)) :
    d.HasFile ("/".intercalate (base root ++ dirs ++ [x])) (names ++ dirs ++ [x]) c := by
  obtain ⟨hdirs, hlast⟩ := List.forall_mem_append.mp hall
  obtain ⟨hx, hshort⟩ := hlast x (List.mem_singleton_self x)
  have hthere : d.kindAt? (names ++ dirs ++ [x]) ≠ none := by
    rw [hfile]
    exact Option.some_ne_none _
  have hdir : d.kindAt? (names ++ dirs) = some .directory := Node.kindAt?_of_append hthere
  refine ⟨?_, hfile⟩
  rw [locate_eq_ok_iff, startOf_below d (fun y hy => (hdirs y hy).1) hx, List.append_assoc,
    FilePath.pieces_intercalate (by simp) (forall_isPiece root fun y hy => (hall y hy).1),
    ← List.append_assoc, foldlM_follow_append]
  refine ⟨hpath, names ++ dirs, foldlM_follow_below hroot hdirs hdir, ?_⟩
  exact foldlM_follow_cons.mpr ⟨_, follow_eq_ok_iff.mpr
    ⟨hdir, (step_of_not_isTaken hx.free _).symm, fun _ => ⟨hshort, hthere⟩⟩,
    foldlM_follow_nil.mpr rfl⟩

end Way

end Disk

end BuilderForge
