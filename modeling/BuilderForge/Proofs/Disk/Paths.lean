import BuilderForge.Disk
import Mathlib.Data.List.Basic
import Mathlib.Data.String.Basic

set_option autoImplicit false

/-! # The text of paths

A path is the text of its pieces with slashes between them (`pieces_intercalate`,
`intercalate_pieces`). What is asked of the text of a path is told by the pieces: the directory it
lies in (`parent?_intercalate`), its last name (`splitLast_intercalate`), and what becomes of a path
behind a directory (`pieces_join`).
-/

namespace BuilderForge

namespace Text

/-! ## Stretches -/

theorem splitAt_ne_nil (mark : Char) (cs : List Char) : splitAt mark cs ≠ [] := by
  cases cs with
  | nil => exact List.cons_ne_nil _ _
  | cons c cs =>
      rw [splitAt]
      split
      · exact List.cons_ne_nil _ _
      · split <;> exact List.cons_ne_nil _ _

theorem splitAt_append_mark (mark : Char) (cs ds : List Char) :
    splitAt mark (cs ++ mark :: ds) = splitAt mark cs ++ splitAt mark ds := by
  induction cs with
  | nil => simp [splitAt]
  | cons c cs ih =>
      rw [List.cons_append, splitAt, splitAt, ih]
      by_cases hc : c = mark
      · simp [hc]
      · obtain ⟨p, ps, hps⟩ := List.exists_cons_of_ne_nil (splitAt_ne_nil mark cs)
        simp [hc, hps]

theorem splitAt_of_not_mem {mark : Char} {cs : List Char} (h : mark ∉ cs) :
    splitAt mark cs = [cs] := by
  induction cs with
  | nil => rfl
  | cons c cs ih =>
      rw [List.mem_cons, not_or] at h
      rw [splitAt, if_neg (Ne.symm h.1), ih h.2]

theorem not_mem_of_mem_splitAt {mark : Char} : ∀ {cs p : List Char}, p ∈ splitAt mark cs → mark ∉ p
  | [], p, h => by
      rw [List.mem_singleton.mp h]
      exact List.not_mem_nil
  | c :: cs, p, h => by
      rw [splitAt] at h
      split at h
      · rcases List.mem_cons.mp h with rfl | h
        · exact List.not_mem_nil
        · exact not_mem_of_mem_splitAt h
      · next hc =>
          split at h
          · next hnil => exact absurd hnil (splitAt_ne_nil mark cs)
          · next q qs hqs =>
              rcases List.mem_cons.mp h with rfl | h
              · rw [List.mem_cons, not_or]
                exact ⟨Ne.symm hc, not_mem_of_mem_splitAt (hqs ▸ List.mem_cons_self)⟩
              · exact not_mem_of_mem_splitAt (hqs ▸ List.mem_cons_of_mem q h)

/-- The stretches with marks between them are the text. -/
theorem intercalate_splitAt (mark : Char) (cs : List Char) :
    [mark].intercalate (splitAt mark cs) = cs := by
  induction cs with
  | nil => rfl
  | cons c cs ih =>
      obtain ⟨p, ps, hps⟩ := List.exists_cons_of_ne_nil (splitAt_ne_nil mark cs)
      rw [hps] at ih
      rw [splitAt]
      split
      · next hc => simpa [hc, hps, List.intercalate] using ih
      · cases ps <;> simpa [hps, List.intercalate] using ih

end Text

namespace FilePath

/-! ## Pieces -/

/-- A text without slashes, as it can stand between slashes. -/
def IsPiece (x : String) : Prop := '/' ∉ x.toList

theorem isPiece_of_mem_pieces {path x : String} (h : x ∈ pieces path) : IsPiece x := by
  obtain ⟨p, hp, rfl⟩ := List.mem_map.mp h
  rw [IsPiece, String.toList_ofList]
  exact Text.not_mem_of_mem_splitAt hp

theorem pieces_ne_nil (path : String) : pieces path ≠ [] := by
  rw [pieces, ne_eq, List.map_eq_nil_iff]
  exact Text.splitAt_ne_nil _ _

theorem pieces_of_isPiece {x : String} (h : IsPiece x) : pieces x = [x] := by
  rw [pieces, Text.splitAt_of_not_mem h, List.map_singleton, String.ofList_toList]

theorem pieces_append_slash (a b : String) : pieces (a ++ "/" ++ b) = pieces a ++ pieces b := by
  have hslash : "/".toList = ['/'] := rfl
  simp only [pieces, String.toList_append, hslash, List.append_assoc, List.singleton_append,
    Text.splitAt_append_mark, List.map_append]

theorem pieces_intercalate {ps : List String} (hne : ps ≠ []) (h : ∀ x ∈ ps, IsPiece x) :
    pieces ("/".intercalate ps) = ps := by
  induction ps with
  | nil => exact absurd rfl hne
  | cons x ps ih =>
      rw [List.forall_mem_cons] at h
      by_cases hps : ps = []
      · rw [hps, String.intercalate_singleton, pieces_of_isPiece h.1]
      · rw [String.intercalate_cons_of_ne_nil hps, pieces_append_slash, pieces_of_isPiece h.1,
          ih hps h.2, List.singleton_append]

/-- A path is the text of its pieces. -/
theorem intercalate_pieces (path : String) : "/".intercalate (pieces path) = path := by
  have hslash : "/".toList = ['/'] := rfl
  rw [← String.toList_inj, String.toList_intercalate, hslash, pieces, List.map_map]
  simp [Function.comp_def, Text.intercalate_splitAt]

theorem intercalate_ne_empty {ps : List String} (h : ∀ x ∈ ps, IsPiece x) {x : String}
    (hx : x ∈ ps) (hne : x ≠ "") : "/".intercalate ps ≠ "" := by
  intro hempty
  have hps := pieces_intercalate (List.ne_nil_of_mem hx) h
  rw [hempty] at hps
  rw [← hps] at hx
  exact hne (List.mem_singleton.mp hx)

theorem isAbsolute_append {a : String} (h : a ≠ "") (b : String) :
    isAbsolute (a ++ b) = isAbsolute a := by
  have hne : a.toList ≠ [] := by simpa using h
  unfold isAbsolute
  rw [String.toList_append, List.head?_append_of_ne_nil _ hne]

/-- A path whose first piece is no empty name is a relative one. -/
theorem isAbsolute_intercalate_cons {x : String} {ps : List String} (h : IsPiece x)
    (hne : x ≠ "") : isAbsolute ("/".intercalate (x :: ps)) = false := by
  have hx : isAbsolute x = false := by
    unfold isAbsolute
    rw [beq_eq_false_iff_ne]
    exact fun hhead => h (List.mem_of_mem_head? hhead)
  by_cases hps : ps = []
  · rw [hps, String.intercalate_singleton, hx]
  · rw [String.intercalate_cons_of_ne_nil hps, String.append_assoc, isAbsolute_append hne, hx]

/-! ## The last piece -/

theorem getLast?_ne_slash {a x : String} (h : IsPiece x) (hne : x ≠ "") :
    ((a ++ x).toList.getLast? == some '/') = false := by
  have hx : x.toList ≠ [] := by simpa using hne
  rw [beq_eq_false_iff_ne, String.toList_append, List.getLast?_append_of_ne_nil _ hx]
  exact fun hlast => h (List.mem_of_getLast? hlast)

theorem exists_intercalate_concat (ps : List String) (x : String) :
    ∃ a, "/".intercalate (ps ++ [x]) = a ++ x := by
  by_cases hps : ps = []
  · exact ⟨"", by rw [hps, List.nil_append, String.intercalate_singleton, String.empty_append]⟩
  · refine ⟨"/".intercalate ps ++ "/", ?_⟩
    rw [String.intercalate_append_of_ne_nil hps (by simp), String.intercalate_singleton]

theorem splitLast_intercalate {ps : List String} {x : String} (hps : ∀ y ∈ ps, IsPiece y)
    (hx : IsPiece x) (hne : x ≠ "") :
    Disk.splitLast ("/".intercalate (ps ++ [x])) = (ps, x, false) := by
  have hpieces : pieces ("/".intercalate (ps ++ [x])) = ps ++ [x] :=
    pieces_intercalate (by simp) (List.forall_mem_append.mpr ⟨hps, by simpa using hx⟩)
  have hdrop : (pieces ("/".intercalate (ps ++ [x]))).reverse.dropWhile String.isEmpty
      = x :: ps.reverse := by
    rw [hpieces, List.reverse_append]
    simp [hne]
  obtain ⟨a, ha⟩ := exists_intercalate_concat ps x
  rw [Disk.splitLast, hdrop]
  simp only [List.reverse_reverse, ha, getLast?_ne_slash hx hne]

/-- A path that no slash follows ends with its last name. -/
theorem pieces_of_splitLast {path name : String} {before : List String}
    (h : Disk.splitLast path = (before, name, false)) : pieces path = before ++ [name] := by
  obtain ⟨ps, x, hpieces⟩ := (List.eq_nil_or_concat' (pieces path)).resolve_left (pieces_ne_nil path)
  have hps : ∀ y ∈ pieces path, IsPiece y := fun y => isPiece_of_mem_pieces
  have hpath := intercalate_pieces path
  rw [hpieces] at hpath hps ⊢
  rw [List.forall_mem_append, List.forall_mem_singleton] at hps
  by_cases hne : x = ""
  · -- the path is empty, or it ends with a slash
    subst hne
    by_cases hnil : ps = []
    · rw [hnil, List.nil_append, String.intercalate_singleton] at hpath
      rw [← hpath] at h
      cases h
    · rw [String.intercalate_append_of_ne_nil hnil (by simp), String.intercalate_singleton,
        String.append_empty] at hpath
      have hlast : (path.toList.getLast? == some '/') = true := by
        rw [← hpath, String.toList_append]
        simp
      unfold Disk.splitLast at h
      split at h
      · cases h
      · rw [hlast] at h
        cases h
  · rw [← hpath, splitLast_intercalate hps.1 hps.2 hne] at h
    cases h
    rfl

/-! ## The directory of a path -/

theorem trimEnd_of_meaningless {x : String} (h : x = "" ∨ x = ".") (y : String)
    (ps : List String) : trimEnd (x :: y :: ps) = trimEnd (y :: ps) := by
  rcases h with rfl | rfl <;> simp [trimEnd]

theorem trimEnd_cons {x : String} (hempty : x ≠ "") (hdot : x ≠ ".") (ps : List String) :
    trimEnd (x :: ps) = x :: ps := by
  cases ps with
  | nil => simp [trimEnd, hempty]
  | cons y ps => simp [trimEnd, hempty, hdot]

/-- What is left out at the end of a path means nothing. Only the empty name in front of a leading
slash is left out as well. -/
theorem exists_trimEnd : ∀ ps : List String, ∃ rest, ps = rest ++ trimEnd ps
    ∧ ∀ x ∈ rest, x = "" ∨ x = "."
  | [] => ⟨[], rfl, by simp⟩
  | [x] => by
      by_cases hx : x = ""
      · exact ⟨[x], by simp [trimEnd, hx], by simp [hx]⟩
      · exact ⟨[], by simp [trimEnd, hx], by simp⟩
  | x :: y :: ps => by
      by_cases hx : x = "" ∨ x = "."
      · obtain ⟨rest, hrest, hall⟩ := exists_trimEnd (y :: ps)
        refine ⟨x :: rest, ?_, List.forall_mem_cons.mpr ⟨hx, hall⟩⟩
        rw [trimEnd_of_meaningless hx, List.cons_append, ← hrest]
      · rw [not_or] at hx
        exact ⟨[], by rw [trimEnd_cons hx.1 hx.2, List.nil_append], by simp⟩

theorem head_trimEnd_ne_empty {x : String} {ps : List String} : ∀ {qs : List String},
    trimEnd qs = x :: ps → x ≠ ""
  | [], h => by cases h
  | [y], h => by
      by_cases hy : y = ""
      · simp [trimEnd, hy] at h
      · simp only [trimEnd, String.isEmpty_iff, hy, if_false, List.cons.injEq] at h
        exact h.1 ▸ hy
  | y :: z :: qs, h => by
      by_cases hy : y = "" ∨ y = "."
      · exact head_trimEnd_ne_empty ((trimEnd_of_meaningless hy z qs).symm.trans h)
      · rw [not_or] at hy
        rw [trimEnd_cons hy.1 hy.2, List.cons.injEq] at h
        exact h.1 ▸ hy.1

/-- The directory of a path is that of its pieces without the last. -/
theorem parent?_intercalate {ps : List String} {x : String} (hps : ∀ y ∈ ps, IsPiece y)
    (hx : IsPiece x) (hempty : x ≠ "") (hdot : x ≠ ".") :
    parent? ("/".intercalate (ps ++ [x]))
      = some (ofReversed (isAbsolute ("/".intercalate (ps ++ [x]))) (trimEnd ps.reverse)) := by
  have hpieces : pieces ("/".intercalate (ps ++ [x])) = ps ++ [x] :=
    pieces_intercalate (by simp) (List.forall_mem_append.mpr ⟨hps, by simpa using hx⟩)
  simp only [parent?, meaningful, hpieces, List.reverse_append, List.reverse_singleton,
    List.singleton_append, trimEnd_cons hempty hdot]

/-! ## Behind a directory -/

/-- The pieces of the path of a directory, without the empty one behind a slash at its end. -/
def base (root : String) : List String :=
  if root.isEmpty then []
  else if root.toList.getLast? == some '/' then (pieces root).dropLast
  else pieces root

theorem exists_append_slash {root : String} (h : root.toList.getLast? = some '/') :
    ∃ r, root = r ++ "/" := by
  refine ⟨String.ofList root.toList.dropLast, ?_⟩
  rw [← String.toList_inj, String.toList_append, String.toList_ofList]
  exact (List.dropLast_append_getLast? _ h).symm

theorem dropLast_pieces_append_slash (r : String) : (pieces (r ++ "/")).dropLast = pieces r := by
  have hempty : pieces "" = [""] := rfl
  rw [← String.append_empty (s := r ++ "/"), pieces_append_slash, hempty, List.dropLast_concat]

/-- A relative path behind a directory. -/
theorem pieces_join {root path : String} (h : isAbsolute path = false) :
    pieces (join root path) = base root ++ pieces path := by
  unfold join base
  simp only [h, Bool.false_eq_true, if_false, Bool.or_eq_true, beq_iff_eq, String.isEmpty_iff]
  by_cases hempty : root = ""
  · simp [hempty]
  · by_cases hlast : root.toList.getLast? = some '/'
    · obtain ⟨r, rfl⟩ := exists_append_slash hlast
      simp only [hlast, or_true, if_true, if_neg hempty, pieces_append_slash,
        dropLast_pieces_append_slash]
    · simp only [hempty, hlast, or_self, if_false, pieces_append_slash]

theorem isPiece_of_mem_base {root x : String} (h : x ∈ base root) : IsPiece x := by
  unfold base at h
  split at h
  · cases h
  · split at h
    · exact isPiece_of_mem_pieces (List.dropLast_subset _ h)
    · exact isPiece_of_mem_pieces h

/-- The text of a path behind a directory begins with the text of the directory. -/
theorem exists_join (root : String) {path : String} (h : isAbsolute path = false) :
    ∃ mark, (mark = "" ∨ mark = "/") ∧ join root path = root ++ mark ++ path := by
  unfold join
  rw [h, if_neg Bool.false_ne_true]
  split
  · exact ⟨"", Or.inl rfl, by rw [String.append_empty]⟩
  · exact ⟨"/", Or.inr rfl, rfl⟩

end FilePath

end BuilderForge
