import BuilderForge.Proofs.ModuleTree.Faithful
import BuilderForge.Proofs.Registry.Keys

set_option autoImplicit false

/-! # What an entry of a list means

The lists of the settings name types by their full path, by the path behind `crate`, or by the last
name. The full path of a type has no white space at its ends, as its name is an identifier, and there
are two colons in it, so it means that type only, unless there is a module `crate`
(`names_pathString_iff`).
-/

namespace BuilderForge

/-! ## White space -/

namespace Text

/-- What is found is in one of the ranges. -/
theorem Ranges.exists_of_search {ranges : Ranges} {n low high : Nat}
    (h : ranges.search n low high = true) : ∃ x ∈ ranges, x.1 ≤ n ∧ n ≤ x.2 := by
  induction low, high using Ranges.search.induct ranges n with
  | case1 low high hlt middle hnone =>
      rw [search, if_pos hlt] at h
      simp [middle, hnone] at h
  | case2 low high hlt middle first last hsome hfirst ih =>
      rw [search, if_pos hlt] at h
      simp only [middle] at hsome
      simp only [hsome, hfirst, if_true] at h
      exact ih h
  | case3 low high hlt middle first last hsome hfirst hlast ih =>
      rw [search, if_pos hlt] at h
      simp only [middle] at hsome
      simp only [hsome, hfirst, hlast, if_true, if_false] at h
      exact ih h
  | case4 low high hlt middle first last hsome hfirst hlast =>
      exact ⟨(first, last), Array.mem_of_getElem? hsome, Nat.le_of_not_lt hfirst,
        Nat.le_of_not_lt hlast⟩
  | case5 low high hge =>
      rw [search, if_neg hge] at h
      cases h

/-- The code points of white space. -/
def blankCodes : List Nat := blankRanges.toList.flatMap fun x => List.range' x.1 (x.2 + 1 - x.1)

theorem toNat_mem_blankCodes {c : Char} (h : isBlank c = true) : c.toNat ∈ blankCodes := by
  obtain ⟨x, hx, hle, hge⟩ := Ranges.exists_of_search h
  refine List.mem_flatMap.mpr ⟨x, Array.mem_toList_iff.mpr hx, List.mem_range'_1.mpr ⟨hle, ?_⟩⟩
  omega

/-- No white space stands in an identifier. -/
theorem not_isWord_of_isBlank {c : Char} (h : isBlank c = true) :
    isWordStart c = false ∧ isWordPart c = false := by
  have hall : ∀ n ∈ blankCodes,
      isWordStart (Char.ofNat n) = false ∧ isWordPart (Char.ofNat n) = false := by
    decide +kernel
  have hc := hall c.toNat (toNat_mem_blankCodes h)
  rwa [Char.ofNat_toNat] at hc

/-- Nothing is cut off a text without white space at its ends. -/
theorem trim_eq_self {s : String} (hfirst : ∀ c ∈ s.toList.head?, isBlank c = false)
    (hlast : ∀ c ∈ s.toList.getLast?, isBlank c = false) : trim s = s := by
  have hdrop : ∀ l : List Char, (∀ c ∈ l.head?, isBlank c = false) → l.dropWhile isBlank = l := by
    intro l hl
    cases l with
    | nil => rfl
    | cons c l => exact List.dropWhile_cons_of_neg (by simp [hl c rfl])
  rw [trim, trimChars, hdrop _ hfirst, hdrop, List.reverse_reverse, String.ofList_toList]
  rwa [List.head?_reverse]

end Text

/-! ## What an entry of a list means -/

namespace Config

theorem afterStart?_eq_some_iff {s t u : String} : afterStart? s t = some u ↔ s = t ++ u := by
  unfold afterStart?
  rw [← String.toList_inj, String.toList_append]
  constructor
  · intro h
    split at h
    · next hprefix =>
        obtain ⟨rest, hrest⟩ := List.isPrefixOf_iff_prefix.mp hprefix
        rw [← hrest, ← String.length_toList, List.drop_left] at h
        rw [← hrest, ← Option.some.inj h, String.toList_ofList]
    · cases h
  · intro h
    rw [h, if_pos (List.isPrefixOf_iff_prefix.mpr (List.prefix_append _ _)),
      ← String.length_toList, List.drop_left, String.ofList_toList]

end Config

namespace ModulePath

/-- The first piece is what a text begins with, and it holds no two colons in a row. -/
theorem head_pieces (cs : List Char) : ∃ p ps, pieces cs = p :: ps ∧ p <+: cs
    ∧ ¬ [':', ':'] <:+: p := by
  induction cs using pieces.induct with
  | case1 => exact ⟨[], [], rfl, List.nil_prefix, by simp⟩
  | case2 rest ih => exact ⟨[], pieces rest, by rw [pieces], List.nil_prefix, by simp⟩
  | case3 c rest hcolons hnil ih =>
      obtain ⟨p, ps, hp, -⟩ := ih
      rw [hnil] at hp
      cases hp
  | case4 c rest hcolons p ps hpieces ih =>
      obtain ⟨p', ps', hp, hprefix, hinfix⟩ := ih
      rw [hpieces] at hp
      obtain ⟨rfl, rfl⟩ := List.cons.inj hp
      refine ⟨c :: p, ps, ?_, ?_, ?_⟩
      · rw [pieces, hpieces]
        exact hcolons
      · rwa [List.cons_prefix_cons, eq_self, true_and]
      · intro h
        rcases List.infix_cons_iff.mp h with h | h
        · obtain ⟨hc, hp⟩ := List.cons_prefix_cons.mp h
          obtain ⟨rest', hrest⟩ := hp.trans hprefix
          exact hcolons rest' hc.symm hrest.symm
        · exact hinfix h

/-- A path begins with `crate`. -/
theorem prefix_displaySegments (segments : List String) :
    "crate".toList <+: (displaySegments segments).toList := by
  rw [toList_displaySegments]
  exact List.prefix_append _ _

end ModulePath

namespace Declaration

theorem toList_pathString (d : Declaration) :
    d.pathString.toList = d.module.display.toList ++ [':', ':'] ++ d.ident.name.toList := by
  rw [pathString, ModulePath.itemPath, String.toList_append, String.toList_append]
  rfl

/-- There is no white space at the ends of a path. -/
theorem trim_pathString {d : Declaration} (hident : nameError? d.ident = none) :
    Text.trim d.pathString = d.pathString := by
  obtain ⟨hne, hword⟩ := ModuleTree.forall_isWordPart hident
  apply Text.trim_eq_self
  · obtain ⟨rest, hrest⟩ := ModulePath.prefix_displaySegments d.module.segments
    rw [toList_pathString, ModulePath.display, ← hrest]
    intro c hc
    obtain rfl : 'c' = c := by simpa using hc
    decide +kernel
  · intro c hc
    have hname : d.ident.name.toList ≠ [] := by simpa using hne
    rw [toList_pathString, List.getLast?_append_of_ne_nil _ hname] at hc
    by_contra hblank
    obtain ⟨hstart, hpart⟩ := Text.not_isWord_of_isBlank (Bool.eq_true_of_not_eq_false hblank)
    have hc := hword c (List.mem_of_getLast? hc)
    rw [hstart, hpart, or_self] at hc
    cases hc

end Declaration

namespace Config

/-- There are no two colons in a row in the last name of a path. -/
theorem not_infix_lastName (path : String) : ¬ [':', ':'] <:+: (lastName path).toList := by
  obtain ⟨p, ps, hpieces, -, hinfix⟩ := ModulePath.head_pieces path.toList.reverse
  rw [lastName, hpieces, String.toList_ofList]
  intro h
  exact hinfix (List.reverse_infix.mp h)

/-- A full path means the type of that path, and one whose path is that path within a module
`crate`. -/
theorem names_pathString_iff {d : Declaration} (hident : nameError? d.ident = none)
    (path : String) :
    names d.pathString path = true ↔ path = d.pathString ∨ path = "crate::" ++ d.pathString := by
  -- a full path is never taken for a last name, as there are two colons in it
  have hlast : lastName path ≠ d.pathString := by
    intro h
    refine not_infix_lastName path ?_
    rw [h, d.toList_pathString]
    exact List.infix_append _ _ _
  rw [names, d.trim_pathString hident]
  simp only [Bool.or_eq_true, beq_iff_eq, afterStart?_eq_some_iff, hlast, or_false]

/-- A full path means one type only unless there is a module `crate`. -/
theorem names_pathString {d : Declaration} (hident : nameError? d.ident = none) {path : String}
    (hcrate : path ≠ "crate::" ++ d.pathString) :
    names d.pathString path = (path == d.pathString) := by
  rw [Bool.eq_iff_iff, names_pathString_iff hident, beq_iff_eq, or_iff_left hcrate]

theorem selects_excluding (c : Config) (entry path : String) :
    { c with exclude := c.exclude ++ [entry] }.selects path
      = (c.selects path && !names entry path) := by
  simp only [selects, List.any_append, List.any_cons, List.any_nil, Bool.or_false, Bool.not_or,
    Bool.and_assoc]

end Config

end BuilderForge
