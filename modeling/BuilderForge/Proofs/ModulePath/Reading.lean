import BuilderForge.Proofs.Registry.Keys

set_option autoImplicit false

/-! # Reading paths

A path is the text of its names from `crate` on, with two colons between them
(`displaySegments_eq_intercalate`). Where no colon stands in a name the text is cut where it was
joined (`pieces_textOf`), so a path is read back from its text (`parse_display`). Its names alone are
read back too, unless the first one is `crate`, which is then taken for the root
(`parse_intercalate_eq_iff`).
-/

namespace BuilderForge

/-- A name as it can stand in a path that is read. -/
structure IsPathName (name : String) : Prop where
  ne_empty : name ≠ ""
  isPlain : IsPlain name

namespace ModulePath

/-! ## Texts -/

theorem toList_intercalate_cons (name : String) (segments : List String) :
    ("::".intercalate (name :: segments)).toList = name.toList ++ textOf segments := by
  induction segments generalizing name with
  | nil => simp [textOf]
  | cons next segments ih =>
      have hcolons : "::".toList = [':', ':'] := rfl
      rw [String.intercalate_cons_cons, String.toList_append, String.toList_append, ih, textOf_cons,
        hcolons, List.append_assoc]
      rfl

/-- A path is written with two colons between its names. -/
theorem displaySegments_eq_intercalate (segments : List String) :
    displaySegments segments = "::".intercalate ("crate" :: segments) := by
  rw [← String.toList_inj, toList_displaySegments, toList_intercalate_cons]

/-- The text of an item tells its module and its name. -/
theorem eq_of_itemPath_eq {m m' : ModulePath} {name name' : String}
    (hm : ∀ x ∈ m.segments, IsPlain x) (hm' : ∀ x ∈ m'.segments, IsPlain x) (hname : IsPlain name)
    (hname' : IsPlain name') (h : m.itemPath name = m'.itemPath name') : m = m' ∧ name = name' := by
  rw [itemPath_eq_displaySegments, itemPath_eq_displaySegments] at h
  have hall : ∀ {k : ModulePath} {x : String}, (∀ y ∈ k.segments, IsPlain y) → IsPlain x →
      ∀ y ∈ k.segments ++ [x], IsPlain y := by
    intro k x hk hx
    rw [List.forall_mem_append, List.forall_mem_singleton]
    exact ⟨hk, hx⟩
  have hsegments := displaySegments_inj (hall hm hname) (hall hm' hname') h
  obtain ⟨habove, hlast⟩ := List.append_inj' hsegments rfl
  exact ⟨congrArg mk habove, List.head_eq_of_cons_eq hlast⟩

/-! ## Pieces -/

/-- Characters other than colons join the first piece of what follows. -/
theorem pieces_append {cs : List Char} (hcs : ':' ∉ cs) {rest : List Char} {ps : List (List Char)}
    (hrest : pieces rest = [] :: ps) : pieces (cs ++ rest) = cs :: ps := by
  induction cs with
  | nil => exact hrest
  | cons c cs ih =>
      rw [List.mem_cons, not_or] at hcs
      rw [List.cons_append, pieces, ih hcs.2]
      rintro _ rfl
      exact absurd rfl hcs.1

/-- The text behind `crate` is cut into the names. -/
theorem pieces_textOf : ∀ {segments : List String}, (∀ name ∈ segments, IsPlain name) →
    pieces (textOf segments) = [] :: segments.map String.toList
  | [], _ => rfl
  | name :: segments, h => by
      rw [List.forall_mem_cons] at h
      rw [textOf_cons, pieces, pieces_append h.1 (pieces_textOf h.2), List.map_cons]

/-- The names that are read from a text. -/
theorem parse_eq {text name : String} {segments : List String}
    (hnames : ∀ x ∈ name :: segments, IsPathName x)
    (htext : withoutCrate text.toList = name.toList ++ textOf segments) :
    parse text = ⟨name :: segments⟩ := by
  have hplain : ∀ x ∈ name :: segments, IsPlain x := fun x hx => (hnames x hx).isPlain
  rw [List.forall_mem_cons] at hplain
  have hpieces : pieces (name.toList ++ textOf segments) = (name :: segments).map String.toList :=
    pieces_append hplain.1 (pieces_textOf hplain.2)
  -- no name is passed over
  have hfilter : ((name :: segments).map String.toList).filter (fun p => !p.isEmpty)
      = (name :: segments).map String.toList := by
    rw [List.filter_eq_self, List.forall_mem_map]
    intro x hx
    simpa using (hnames x hx).ne_empty
  rw [parse, htext, hpieces, hfilter, List.map_map]
  simp [Function.comp_def]

/-! ## Paths -/

/-- What does not begin with the name `crate` is all there is to the path. -/
theorem withoutCrate_eq_self {cs : List Char} (h : cs.takeWhile (· != ':') ≠ "crate".toList) :
    withoutCrate cs = cs := by
  unfold withoutCrate
  split
  · exact absurd rfl h
  · exact absurd rfl h
  · rfl

variable {segments : List String} (h : ∀ name ∈ segments, IsPathName name)
include h

/-- A path is read back with `crate` in front. -/
theorem parse_intercalate_crate : parse ("::".intercalate ("crate" :: segments)) = ⟨segments⟩ := by
  cases segments with
  | nil => rfl
  | cons name segments =>
      refine parse_eq h ?_
      rw [toList_intercalate_cons, textOf_cons]
      rfl

/-- A path is read back as it is written. -/
theorem parse_display : parse (display ⟨segments⟩) = ⟨segments⟩ := by
  rw [display, displaySegments_eq_intercalate, parse_intercalate_crate h]

/-- A path is read back without `crate` in front, unless that is its own first name. -/
theorem parse_intercalate_eq_iff :
    parse ("::".intercalate segments) = ⟨segments⟩ ↔ segments.head? ≠ some "crate" := by
  cases segments with
  | nil => exact iff_of_true rfl (by simp)
  | cons name segments =>
      by_cases hcrate : name = "crate"
      · -- the first name is taken for the root
        subst hcrate
        rw [parse_intercalate_crate (List.forall_mem_cons.mp h).2]
        simp
      · refine iff_of_true (parse_eq h ?_) (by simpa using hcrate)
        have hfirst : name.toList ≠ "crate".toList := fun heq => hcrate (String.toList_inj.mp heq)
        rw [toList_intercalate_cons, withoutCrate_eq_self]
        rwa [takeWhile_textOf (h name List.mem_cons_self).isPlain]

end ModulePath

end BuilderForge
