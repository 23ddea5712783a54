import BuilderForge.Proofs.FieldChain.Lineage

set_option autoImplicit false

/-! # The walk along the derived matches

Assigning a field by name asks the derived match of the struct for the name. Without an arm of that
name the match of the parent is asked, and so on (`reach`). A field has its *place*: the level of
its struct above the outermost one, and its index among the fields there.

For a lineage that the derive accepts, the walk ends at the first field of the name, in the order in
which the chain lists the fields (`reach_eq_find?`).
-/

namespace BuilderForge

open Code (Ident)

/-- Where a field stands in a lineage. -/
structure FieldPlace where
  level : Nat
  index : Nat
  deriving DecidableEq, Repr

/-- The index of the first field of a name in a struct. -/
def Declaration.indexOf? (d : Declaration) (name : String) : Option Nat :=
  d.fields.findIdx? fun f => f.ident.name == name

/-- The first arm for a name is that of the first field of the name. -/
theorem Accepted.findIdx?_arms {d : Declaration} {s : DerivedStruct} (h : Accepted d s)
    (name : String) :
    (s.fieldMatch.arms.findIdx? fun a => a.key == name) = d.indexOf? name := by
  rw [h.arms, List.findIdx?_map]
  rfl

namespace FieldMatch

/-- The place of the arm that a name leads to, if the first match stands at `level`. -/
def reachFrom (level : Nat) : List FieldMatch → String → Option FieldPlace
  | [], _ => none
  | m :: above, name =>
      match m.arms.findIdx? fun a => a.key == name with
      | some index => some ⟨level, index⟩
      | none =>
          match m.fallback with
          | .parent _ => reachFrom (level + 1) above name
          | .notFound => none

/-- The place of the arm that a name leads to. -/
def reach (ms : List FieldMatch) (name : String) : Option FieldPlace := reachFrom 0 ms name

/-- The arm at a place. -/
def armAt? (ms : List FieldMatch) (p : FieldPlace) : Option Arm :=
  ms[p.level]?.bind fun m => m.arms[p.index]?

theorem level_le_of_reachFrom {ms : List FieldMatch} {name : String} {level : Nat} {p : FieldPlace}
    (h : reachFrom level ms name = some p) : level ≤ p.level := by
  induction ms generalizing level with
  | nil => cases h
  | cons m above ih =>
      rw [reachFrom] at h
      split at h
      · obtain rfl := Option.some.inj h
        exact Nat.le_refl level
      · split at h
        · have := ih h
          omega
        · cases h

/-- The arm that a name leads to is one of that name. -/
theorem armAt?_of_reachFrom {ms : List FieldMatch} {name : String} {level : Nat} {p : FieldPlace}
    (h : reachFrom level ms name = some p) :
    ∃ a, armAt? ms ⟨p.level - level, p.index⟩ = some a ∧ a.key = name := by
  induction ms generalizing level with
  | nil => cases h
  | cons m above ih =>
      rw [reachFrom] at h
      split at h
      · next index hindex =>
          obtain rfl := Option.some.inj h
          obtain ⟨hlt, hkey, -⟩ := List.findIdx?_eq_some_iff_getElem.mp hindex
          refine ⟨m.arms[index], ?_, by simpa using hkey⟩
          simp [armAt?, hlt]
      · split at h
        · obtain ⟨a, ha, hkey⟩ := ih h
          have hle := level_le_of_reachFrom h
          refine ⟨a, ?_, hkey⟩
          rw [show p.level - level = p.level - (level + 1) + 1 by omega]
          exact ha
        · cases h

theorem armAt?_of_reach {ms : List FieldMatch} {name : String} {p : FieldPlace}
    (h : reach ms name = some p) : ∃ a, armAt? ms p = some a ∧ a.key = name := by
  simpa using armAt?_of_reachFrom h

/-- A walk from further up ends as much further up. -/
theorem reachFrom_add (level more : Nat) (ms : List FieldMatch) (name : String) :
    reachFrom (level + more) ms name
      = (reachFrom level ms name).map fun p => ⟨p.level + more, p.index⟩ := by
  induction ms generalizing level with
  | nil => rfl
  | cons m above ih =>
      rw [reachFrom, reachFrom]
      cases m.arms.findIdx? fun a => a.key == name with
      | some index => rfl
      | none =>
          cases m.fallback with
          | notFound => rfl
          | parent link =>
              dsimp only
              rw [show level + more + 1 = level + 1 + more by omega]
              exact ih (level + 1)

/-- One step of a walk: an arm of the first match, or what the matches above it lead to. -/
theorem reach_cons (m : FieldMatch) (above : List FieldMatch) (name : String) :
    reach (m :: above) name
      = match m.arms.findIdx? fun a => a.key == name with
        | some index => some ⟨0, index⟩
        | none =>
            match m.fallback with
            | .parent _ => (reach above name).map fun p => ⟨p.level + 1, p.index⟩
            | .notFound => none := by
  rw [reach, reachFrom, reach, reachFrom_add 0 1]

end FieldMatch

namespace FieldChain

variable (r : Registry)

/-- The fields of a struct with their places. -/
def placedFields (level : Nat) (d : Declaration) : List (FieldPlace × ChainField) :=
  d.fields.zipIdx.map fun e => (⟨level, e.2⟩, chainField r level d e.1)

/-- The fields of structs one above the other with their places, the first of which stands at
`level`. -/
def placedLevels : Nat → List Declaration → List (FieldPlace × ChainField)
  | _, [] => []
  | level, d :: above => placedFields r level d ++ placedLevels (level + 1) above

theorem map_snd_placedLevels (level : Nat) (ds : List Declaration) :
    (placedLevels r level ds).map (·.2) = levelFields r level ds := by
  induction ds generalizing level with
  | nil => rfl
  | cons d above ih =>
      rw [placedLevels, levelFields, List.map_append, ih, placedFields, List.map_map]
      congr 1
      conv_rhs => rw [← List.zipIdx_map_fst 0 d.fields, List.map_map]
      rfl

theorem mem_placedFields {level : Nat} {d : Declaration} {e : FieldPlace × ChainField} :
    e ∈ placedFields r level d ↔ e.1.level = level
      ∧ ∃ f, d.fields[e.1.index]? = some f ∧ e.2 = chainField r level d f := by
  rw [placedFields, List.mem_map]
  constructor
  · rintro ⟨⟨f, index⟩, hmem, rfl⟩
    exact ⟨rfl, f, List.mem_zipIdx_iff_getElem?.mp hmem, rfl⟩
  · obtain ⟨⟨level', index⟩, field⟩ := e
    rintro ⟨hlevel, f, hf, hfield⟩
    dsimp only at hlevel hf hfield
    subst hlevel hfield
    exact ⟨(f, index), List.mem_zipIdx_iff_getElem?.mpr hf, rfl⟩

/-- What stands at a place is the field of that index of the struct at that level. -/
theorem mem_placedLevels {level : Nat} {ds : List Declaration} {e : FieldPlace × ChainField} :
    e ∈ placedLevels r level ds ↔ level ≤ e.1.level ∧ ∃ d f, ds[e.1.level - level]? = some d
      ∧ d.fields[e.1.index]? = some f ∧ e.2 = chainField r e.1.level d f := by
  induction ds generalizing level with
  | nil => simp [placedLevels]
  | cons d above ih =>
      rw [placedLevels, List.mem_append, mem_placedFields, ih]
      constructor
      · rintro (⟨rfl, f, hf, he⟩ | ⟨hle, d', f, hd, hf, he⟩)
        · exact ⟨Nat.le_refl _, d, f, by simp, hf, he⟩
        · refine ⟨by omega, d', f, ?_, hf, he⟩
          rw [show e.1.level - level = e.1.level - (level + 1) + 1 by omega]
          exact hd
      · rintro ⟨hle, d', f, hd, hf, he⟩
        by_cases hlevel : e.1.level = level
        · rw [hlevel, Nat.sub_self] at hd
          obtain rfl := Option.some.inj hd
          exact Or.inl ⟨hlevel, f, hf, by rw [he, hlevel]⟩
        · refine Or.inr ⟨by omega, d', f, ?_, hf, he⟩
          rw [show e.1.level - level = e.1.level - (level + 1) + 1 by omega] at hd
          exact hd

/-- No two fields stand at one place. -/
theorem nodup_placedLevels (level : Nat) (ds : List Declaration) :
    ((placedLevels r level ds).map (·.1)).Nodup := by
  induction ds generalizing level with
  | nil => exact List.nodup_nil
  | cons d above ih =>
      rw [placedLevels, List.map_append, List.nodup_append']
      refine ⟨?_, ih (level + 1), ?_⟩
      · -- the indices alone tell the fields of one level apart
        have hindices : ((placedFields r level d).map fun e => e.1.index).Nodup := by
          have hsnd : (placedFields r level d).map (fun e => e.1.index)
              = d.fields.zipIdx.map Prod.snd := by
            rw [placedFields, List.map_map]
            rfl
          rw [hsnd, List.zipIdx_map_snd]
          exact List.nodup_range'
        rw [show (fun e : FieldPlace × ChainField => e.1.index) = FieldPlace.index ∘ (·.1) from rfl,
          ← List.map_map] at hindices
        exact List.Nodup.of_map _ hindices
      · intro p hp hp'
        obtain ⟨e, he, rfl⟩ := List.mem_map.mp hp
        obtain ⟨e', he', heq⟩ := List.mem_map.mp hp'
        have hlevel := ((mem_placedFields r).mp he).1
        have hlevel' := ((mem_placedLevels r).mp he').1
        rw [heq] at hlevel'
        omega

/-! ## The first field of a name -/

/-- The first field of a name in one struct. -/
theorem find?_placedFields (level : Nat) (d : Declaration) (name : String) :
    ((placedFields r level d).find? fun e => e.2.ident.name == name).map (·.1)
      = (d.indexOf? name).map (FieldPlace.mk level) := by
  rw [placedFields, List.find?_map, Declaration.indexOf?, List.findIdx?_eq_fst_find?_zipIdx,
    Option.map_map, Option.map_map]
  rfl

/-- The walk ends at the first field of the name. -/
theorem reachFrom_eq_find? {d : Declaration} {ds : List Declaration} {ss : List DerivedStruct}
    (hds : Lineage r d ds) (hss : List.Forall₂ Accepted ds ss) (level : Nat) (name : String) :
    FieldMatch.reachFrom level (ss.map DerivedStruct.fieldMatch) name
      = ((placedLevels r level ds).find? fun e => e.2.ident.name == name).map (·.1) := by
  induction hds generalizing ss level with
  | top hlink =>
      obtain ⟨s, rest, hs, hrest, rfl⟩ := List.forall₂_cons_left_iff.mp hss
      obtain rfl := List.forall₂_nil_left_iff.mp hrest
      rw [placedLevels, placedLevels, List.append_nil, find?_placedFields, List.map_cons,
        FieldMatch.reachFrom, hs.findIdx?_arms, hs.fallback, hlink]
      cases Declaration.indexOf? _ name <;> rfl
  | child hlink hparent rest ih =>
      obtain ⟨s, ss, hs, hrest, rfl⟩ := List.forall₂_cons_left_iff.mp hss
      rw [placedLevels, List.find?_append, Option.map_or, find?_placedFields, ← ih hrest,
        List.map_cons, FieldMatch.reachFrom, hs.findIdx?_arms, hs.fallback, hlink]
      cases Declaration.indexOf? _ name <;> rfl

end FieldChain

end BuilderForge
