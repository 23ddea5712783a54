import BuilderForge.Proofs.FieldAccess.Assign

set_option autoImplicit false

/-! # Where an assignment by name ends

A derived match without an arm for a name calls that of the parent. Which one this is, is decided by
the compiler from the type that is written for the link; the registry has no say in it. A `Reading`
stands for what the compiler takes types for, and `Dispatch` follows the calls. They end at the
nearest struct that has a field of the name (`dispatch_iff`), and that field of an instance is
assigned (`setField_of_nearest?`).
-/

namespace BuilderForge

open Code (Tree)

/-- What the compiler takes types for: the struct that a type stands for in a module. -/
abbrev Reading := ModulePath → Tree → Option Declaration

/-- Where an assignment by name to a value of a struct ends: at an arm of the match of a struct, told
by its index, or without a field. -/
inductive Dispatch (reads : Reading) (name : String) :
    Declaration → Option (Declaration × Nat) → Prop
  | arm {d : Declaration} {s : DerivedStruct} {index : Nat} (hs : Accepted d s)
      (harm : (s.fieldMatch.arms.findIdx? fun a => a.key == name) = some index) :
      Dispatch reads name d (some (d, index))
  | up {d e : Declaration} {s : DerivedStruct} {link : DeclaredField}
      {found : Option (Declaration × Nat)} (hs : Accepted d s)
      (hnone : (s.fieldMatch.arms.findIdx? fun a => a.key == name) = none)
      (hfallback : s.fieldMatch.fallback = .parent link.ident) (hlink : d.parent = some link)
      (hread : reads d.module link.type = some e) (rest : Dispatch reads name e found) :
      Dispatch reads name d found
  | notFound {d : Declaration} {s : DerivedStruct} (hs : Accepted d s)
      (hnone : (s.fieldMatch.arms.findIdx? fun a => a.key == name) = none)
      (hfallback : s.fieldMatch.fallback = .notFound) : Dispatch reads name d none

/-- A struct and the structs that the types of the links stand for, nearest first. -/
inductive Ancestry (reads : Reading) : Declaration → List Declaration → Prop
  | top {d : Declaration} (hlink : d.parent = none) : Ancestry reads d [d]
  | child {d e : Declaration} {link : DeclaredField} {above : List Declaration}
      (hlink : d.parent = some link) (hread : reads d.module link.type = some e)
      (rest : Ancestry reads e above) : Ancestry reads d (d :: above)

/-- The first struct with a field of a name, and the index of the field. -/
def nearest? (name : String) : List Declaration → Option (Declaration × Nat)
  | [] => none
  | d :: above =>
      match d.indexOf? name with
      | some index => some (d, index)
      | none => nearest? name above

variable {reads : Reading} {name : String} {d : Declaration} {es : List Declaration}
  {ts : List DerivedStruct}

/-- One step: the arm of the struct, or what the struct above ends with. -/
theorem dispatch_step {s : DerivedStruct} (hs : Accepted d s)
    {found : Option (Declaration × Nat)} : Dispatch reads name d found ↔
      match d.indexOf? name, d.parent with
      | some index, _ => found = some (d, index)
      | none, none => found = none
      | none, some link => ∃ e, reads d.module link.type = some e ∧ Dispatch reads name e found := by
  have harms := hs.findIdx?_arms name
  have hlast := hs.fallback
  constructor
  · intro h
    cases h with
    | arm hs' harm =>
        rw [hs'.findIdx?_arms] at harm
        rw [harm]
    | up hs' hnone _ hlink hread rest =>
        rw [hs'.findIdx?_arms] at hnone
        rw [hnone, hlink]
        exact ⟨_, hread, rest⟩
    | notFound hs' hnone hfallback =>
        rw [hs'.findIdx?_arms] at hnone
        rw [hs'.fallback] at hfallback
        rw [hnone]
        cases hlink : d.parent with
        | none => rfl
        | some link =>
            rw [hlink] at hfallback
            cases hfallback
  · cases hindex : d.indexOf? name with
    | some index =>
        rintro rfl
        exact .arm hs (harms.trans hindex)
    | none =>
        cases hlink : d.parent with
        | none =>
            rintro rfl
            rw [hlink] at hlast
            exact .notFound hs (harms.trans hindex) hlast
        | some link =>
            rintro ⟨e, hread, rest⟩
            rw [hlink] at hlast
            exact .up hs (harms.trans hindex) hlast hlink hread rest

/-- An assignment ends at the nearest struct that has a field of the name, and without a field if
there is none. -/
theorem dispatch_iff (hes : Ancestry reads d es) (hts : List.Forall₂ Accepted es ts)
    {found : Option (Declaration × Nat)} :
    Dispatch reads name d found ↔ found = nearest? name es := by
  induction hes generalizing ts with
  | @top d hlink =>
      obtain ⟨s, rest, hs, -, rfl⟩ := List.forall₂_cons_left_iff.mp hts
      rw [dispatch_step hs, hlink, nearest?]
      cases d.indexOf? name <;> rfl
  | @child d e link above hlink hread _ ih =>
      obtain ⟨s, rest, hs, hrest, rfl⟩ := List.forall₂_cons_left_iff.mp hts
      rw [dispatch_step hs, hlink, nearest?]
      cases d.indexOf? name with
      | some index => rfl
      | none =>
          dsimp only
          rw [← ih hrest]
          constructor
          · rintro ⟨e', hread', h⟩
            obtain rfl := Option.some.inj (hread.symm.trans hread')
            exact h
          · exact fun h => ⟨e, hread, h⟩

/-! ## Instances -/

/-- The walk along the matches leads to the nearest struct that has a field of the name. -/
theorem reach_eq_nearest? (name : String) (hes : Ancestry reads d es)
    (hts : List.Forall₂ Accepted es ts) :
    (FieldMatch.reach (ts.map DerivedStruct.fieldMatch) name).map
        (fun p => (es[p.level]?, p.index))
      = (nearest? name es).map fun x => (some x.1, x.2) := by
  induction hes generalizing ts with
  | @top d hlink =>
      obtain ⟨s, rest, hs, hrest, rfl⟩ := List.forall₂_cons_left_iff.mp hts
      obtain rfl := List.forall₂_nil_left_iff.mp hrest
      rw [List.map_singleton, FieldMatch.reach_cons, hs.findIdx?_arms, hs.fallback, hlink, nearest?]
      cases d.indexOf? name <;> rfl
  | @child d e link above hlink _ _ ih =>
      obtain ⟨s, rest, hs, hrest, rfl⟩ := List.forall₂_cons_left_iff.mp hts
      rw [List.map_cons, FieldMatch.reach_cons, hs.findIdx?_arms, hs.fallback, hlink, nearest?]
      cases d.indexOf? name with
      | some index => rfl
      | none =>
          dsimp only
          rw [Option.map_map, ← ih hrest]
          rfl

/-- The nearest field of the name is assigned. Without one, the name is not found. -/
theorem setField_of_nearest? (name : String) (hes : Ancestry reads d es)
    (hts : List.Forall₂ Accepted es ts) {x : Instance} (hx : x.IsOf ts) (v : Value) :
    match nearest? name es with
    | some (e, index) => ∃ level s owner, es[level]? = some e ∧ x.slot? ⟨level, index⟩ = some s
        ∧ x.setField name v = if v.type = s.value.type then .ok (x.put ⟨level, index⟩ v)
          else .error (.typeMismatch owner name s.value.type)
    | none => x.setField name v = .error (.notFound name) := by
  have hreach := reach_eq_nearest? name hes hts
  rw [← hx.fieldMatches] at hreach
  cases hnearest : nearest? name es with
  | none =>
      rw [hnearest, Option.map_none, Option.map_eq_none_iff] at hreach
      exact Instance.setField_of_not_reach hreach v
  | some found =>
      obtain ⟨e, index⟩ := found
      rw [hnearest, Option.map_some, Option.map_eq_some_iff] at hreach
      obtain ⟨⟨level, index'⟩, hplace, heq⟩ := hreach
      obtain ⟨hlevel, rfl⟩ := Prod.mk.inj heq
      obtain ⟨s, owner, hs, hset⟩ := Instance.setField_of_reach hplace v
      exact ⟨level, s, owner, hlevel, hs, hset⟩

end BuilderForge
