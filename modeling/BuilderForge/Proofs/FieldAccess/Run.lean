import BuilderForge.Proofs.FieldAccess.Assign
import Mathlib.Data.List.Induction

set_option autoImplicit false

/-! # Runs of assignments

A step *fits* an instance if its name leads to a place and its value has the type of what is there.
A fitting step never fails, and it keeps the shape, on which it depends alone whether later steps
fit. So a run of fitting steps goes through, and leaves at each place the last value that was
assigned there, or what was there before (`setAll_of_fits`).
-/

namespace BuilderForge.Instance

/-- The type of the value at a place. -/
def typeAt? (x : Instance) (p : FieldPlace) : Option ValueType :=
  (x.slot? p).map fun s => s.value.type

/-- A name leads to a place that holds a value of this type. -/
def Fits (x : Instance) (step : String × Value) : Prop :=
  ∃ p, FieldMatch.reach x.fieldMatches step.1 = some p ∧ x.typeAt? p = some step.2.type

/-- The last value that is assigned at a place. -/
def lastAt? (ms : List FieldMatch) (steps : List (String × Value)) (p : FieldPlace) :
    Option Value :=
  (steps.reverse.find? fun step => FieldMatch.reach ms step.1 == some p).map (·.2)

/-- Types are told by the shape. -/
theorem typeAt?_of_shape {x y : Instance} (h : x.shape = y.shape) (p : FieldPlace) :
    x.typeAt? p = y.typeAt? p := by
  have key : ∀ z : Instance, z.typeAt? p
      = (z.shape[p.level]?.bind fun l => l.2.1[p.index]?).map (·.2) := by
    intro z
    rw [typeAt?, slot?, shape, List.getElem?_map]
    cases z.layers[p.level]? with
    | none => rfl
    | some l =>
        simp only [Option.map_some, Option.bind_some, Layer.shape, List.getElem?_map,
          Option.map_map]
        rfl
  rw [key, key, h]

theorem Fits.of_shape {x y : Instance} {step : String × Value} (h : x.Fits step)
    (hshape : y.shape = x.shape) : y.Fits step := by
  obtain ⟨p, hreach, htype⟩ := h
  refine ⟨p, ?_, ?_⟩
  · rw [fieldMatches_of_shape hshape]
    exact hreach
  · rw [typeAt?_of_shape hshape]
    exact htype

/-- A step that fits replaces the value at the place its name leads to. -/
theorem set_of_fits {x : Instance} {step : String × Value} {p : FieldPlace}
    (hreach : FieldMatch.reach x.fieldMatches step.1 = some p)
    (htype : x.typeAt? p = some step.2.type) :
    x.set step.1 step.2 = .ok (x.put p step.2) ∧ (x.put p step.2).shape = x.shape := by
  obtain ⟨s, owner, hs, hset⟩ := setField_of_reach hreach step.2
  have hv : step.2.type = s.value.type := by
    rw [typeAt?, hs] at htype
    exact (Option.some.inj htype).symm
  rw [if_pos hv] at hset
  refine ⟨?_, shape_put hs hv⟩
  rw [set, hset]

theorem setAll_append (x : Instance) (before after : List (String × Value)) :
    x.setAll (before ++ after) = x.setAll before >>= fun y => y.setAll after :=
  List.foldlM_append

/-- A run of steps that fit goes through. It keeps the shape and leaves at each place the last value
that was assigned there. -/
theorem setAll_of_fits (x : Instance) (steps : List (String × Value))
    (h : ∀ step ∈ steps, x.Fits step) :
    ∃ y, x.setAll steps = .ok y ∧ y.shape = x.shape
      ∧ ∀ p, y.slot? p = match lastAt? x.fieldMatches steps p with
        | some v => (x.slot? p).map (Slot.with v)
        | none => x.slot? p := by
  induction steps using List.reverseRecOn with
  | nil => exact ⟨x, rfl, rfl, fun p => rfl⟩
  | append_singleton steps step ih =>
      obtain ⟨y, hrun, hshape, hslots⟩ := ih fun st hst => h st (by simp [hst])
      obtain ⟨p, hreach, htype⟩ := (h step (by simp)).of_shape hshape
      obtain ⟨hset, hshape'⟩ := set_of_fits hreach htype
      refine ⟨y.put p step.2, ?_, hshape'.trans hshape, ?_⟩
      · rw [setAll_append, hrun]
        exact (bind_pure _).trans hset
      · intro q
        have hlast : lastAt? x.fieldMatches (steps ++ [step]) q
            = if p = q then some step.2 else lastAt? x.fieldMatches steps q := by
          rw [fieldMatches_of_shape hshape] at hreach
          rw [lastAt?, List.reverse_append, List.reverse_singleton, List.singleton_append,
            List.find?_cons, hreach]
          by_cases hq : p = q
          · simp [hq]
          · simp [hq, lastAt?, beq_eq_false_iff_ne.mpr hq]
        rw [slot?_put, hlast, hslots]
        by_cases hq : p = q
        · rw [if_pos hq, if_pos hq]
          cases lastAt? x.fieldMatches steps q with
          | none => rfl
          | some v =>
              -- the value that was there gives way to the new one
              dsimp only
              rw [Option.map_map]
              rfl
        · rw [if_neg hq, if_neg hq]

/-- Two steps that lead to different places can be swapped. -/
theorem setAll_swap {x : Instance} {step step' : String × Value} (h : x.Fits step)
    (h' : x.Fits step')
    (hne : FieldMatch.reach x.fieldMatches step.1 ≠ FieldMatch.reach x.fieldMatches step'.1) :
    x.setAll [step, step'] = x.setAll [step', step] := by
  have run : ∀ {st st' : String × Value} {p p' : FieldPlace},
      FieldMatch.reach x.fieldMatches st.1 = some p → x.typeAt? p = some st.2.type →
      FieldMatch.reach x.fieldMatches st'.1 = some p' → x.typeAt? p' = some st'.2.type →
      x.setAll [st, st'] = .ok ((x.put p st.2).put p' st'.2) := by
    intro st st' p p' hreach htype hreach' htype'
    obtain ⟨hset, hshape⟩ := set_of_fits hreach htype
    rw [← fieldMatches_of_shape hshape] at hreach'
    rw [← typeAt?_of_shape hshape] at htype'
    obtain ⟨hset', -⟩ := set_of_fits hreach' htype'
    simp only [setAll, List.foldlM_cons, List.foldlM_nil, hset, bind_pure]
    exact hset'
  obtain ⟨p, hreach, htype⟩ := h
  obtain ⟨p', hreach', htype'⟩ := h'
  have hplaces : p ≠ p' := by
    rintro rfl
    exact hne (hreach.trans hreach'.symm)
  rw [run hreach htype hreach' htype', run hreach' htype' hreach htype, put_comm x hplaces]

/-- Neighbouring steps of a run that lead to different places can be swapped. -/
theorem setAll_swap_within (x : Instance) {before after : List (String × Value)}
    {step step' : String × Value} (hbefore : ∀ st ∈ before, x.Fits st) (h : x.Fits step)
    (h' : x.Fits step')
    (hne : FieldMatch.reach x.fieldMatches step.1 ≠ FieldMatch.reach x.fieldMatches step'.1) :
    x.setAll (before ++ step :: step' :: after) = x.setAll (before ++ step' :: step :: after) := by
  obtain ⟨y, hrun, hshape, -⟩ := setAll_of_fits x before hbefore
  have hswap : y.setAll [step, step'] = y.setAll [step', step] := by
    apply setAll_swap (h.of_shape hshape) (h'.of_shape hshape)
    rw [fieldMatches_of_shape hshape]
    exact hne
  have split : ∀ st st', x.setAll (before ++ st :: st' :: after)
      = y.setAll [st, st'] >>= fun z => z.setAll after := by
    intro st st'
    rw [setAll_append, hrun, show st :: st' :: after = [st, st'] ++ after from rfl]
    exact setAll_append y [st, st'] after
  rw [split, split, hswap]

end BuilderForge.Instance
