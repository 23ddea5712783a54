import BuilderForge.Proofs.Resolution.Visible

set_option autoImplicit false

/-! # Where paths lead along imports and globs

The scopes of a crate are a graph, whose edges are the imports and globs of modules. A path ends
where a type is declared, and goes on along the import of its last name if that leads into the
crate, and else along the globs. `Supplied` says that there is a way to a type at all. `Leads` says
to which one, as of several globs the first counts from which there is a way. Both bound the number
of edges as the look-up does, since a path may lead to another type if more of them may be taken. The
look-up finds what paths lead to (`findWithin_eq_some_iff`).
-/

namespace BuilderForge

namespace Registry

variable (r : Registry)

/-- There is a way of at most `n` edges from a path to a type. -/
inductive Supplied : Nat → List String → Prop where
  | declared {n : Nat} {segments : List String} {d : Declaration}
      (htype : r.get? (ModulePath.displaySegments segments) = some d) : Supplied n segments
  | imported {n : Nat} {above target : List String} {name : String}
      (htarget : r.importTarget? above name = some target) (h : Supplied n target) :
      Supplied (n + 1) (above ++ [name])
  | globbed {n : Nat} {above target : List String} {name : String} {s : Scope} {g : ImportPath}
      (hnone : r.importTarget? above name = none) (hs : r.scope? ⟨above⟩ = some s)
      (hg : g ∈ s.globs) (htarget : r.resolveImport ⟨above⟩ g = .crate target)
      (h : Supplied n (target ++ [name])) : Supplied (n + 1) (above ++ [name])

/-- There is a way from a glob of the module to a type of the name. -/
def GlobSupplies (n : Nat) (m : ModulePath) (s : Scope) (name : String) : Prop :=
  ∃ g ∈ s.globs, ∃ target, r.resolveImport m g = .crate target ∧ r.Supplied n (target ++ [name])

/-- A path leads to the type `d` along at most `n` edges. -/
inductive Leads (d : Declaration) : Nat → List String → Prop where
  | declared {n : Nat} {segments : List String}
      (htype : r.get? (ModulePath.displaySegments segments) = some d) : Leads d n segments
  | imported {n : Nat} {above target : List String} {name : String}
      (hget : r.get? (ModulePath.displaySegments (above ++ [name])) = none)
      (htarget : r.importTarget? above name = some target) (h : Leads d n target) :
      Leads d (n + 1) (above ++ [name])
  | globbed {n : Nat} {above target : List String} {name : String} {s : Scope}
      {before after : List ImportPath} {g : ImportPath}
      (hget : r.get? (ModulePath.displaySegments (above ++ [name])) = none)
      (hnone : r.importTarget? above name = none) (hs : r.scope? ⟨above⟩ = some s)
      (hglobs : s.globs = before ++ g :: after)
      (hbefore : ∀ x ∈ before, ∀ t, r.resolveImport ⟨above⟩ x = .crate t →
        ¬ r.Supplied n (t ++ [name]))
      (htarget : r.resolveImport ⟨above⟩ g = .crate target) (h : Leads d n (target ++ [name])) :
      Leads d (n + 1) (above ++ [name])

/-- The first glob of the module from which there is a way to a type leads to `d`. -/
def GlobLeads (d : Declaration) (n : Nat) (m : ModulePath) (s : Scope) (name : String) : Prop :=
  ∃ before g after target, s.globs = before ++ g :: after
    ∧ (∀ x ∈ before, ∀ t, r.resolveImport m x = .crate t → ¬ r.Supplied n (t ++ [name]))
    ∧ r.resolveImport m g = .crate target ∧ r.Leads d n (target ++ [name])

variable {r} {n : Nat} {d : Declaration} {above segments : List String} {name : String}

/-! ## One step of a way -/

theorem supplied_concat_iff : r.Supplied (n + 1) (above ++ [name]) ↔
    (∃ d, r.get? (ModulePath.displaySegments (above ++ [name])) = some d)
      ∨ (∃ target, r.importTarget? above name = some target ∧ r.Supplied n target)
      ∨ r.importTarget? above name = none
        ∧ ∃ s, r.scope? ⟨above⟩ = some s ∧ r.GlobSupplies n ⟨above⟩ s name := by
  constructor
  · intro h
    generalize hsegments : above ++ [name] = path at h ⊢
    cases h with
    | declared htype => exact .inl ⟨_, htype⟩
    | imported htarget h =>
        obtain ⟨rfl, rfl⟩ := List.append_singleton_inj.mp hsegments
        exact .inr (.inl ⟨_, htarget, h⟩)
    | globbed hnone hs hg htarget h =>
        obtain ⟨rfl, rfl⟩ := List.append_singleton_inj.mp hsegments
        exact .inr (.inr ⟨hnone, _, hs, _, hg, _, htarget, h⟩)
  · rintro (⟨d, htype⟩ | ⟨target, htarget, h⟩ | ⟨hnone, s, hs, g, hg, target, htarget, h⟩)
    · exact .declared htype
    · exact .imported htarget h
    · exact .globbed hnone hs hg htarget h

theorem leads_concat_iff : r.Leads d (n + 1) (above ++ [name]) ↔
    r.get? (ModulePath.displaySegments (above ++ [name])) = some d
      ∨ r.get? (ModulePath.displaySegments (above ++ [name])) = none
        ∧ ((∃ target, r.importTarget? above name = some target ∧ r.Leads d n target)
          ∨ r.importTarget? above name = none
            ∧ ∃ s, r.scope? ⟨above⟩ = some s ∧ r.GlobLeads d n ⟨above⟩ s name) := by
  constructor
  · intro h
    generalize hsegments : above ++ [name] = path at h ⊢
    cases h with
    | declared htype => exact .inl htype
    | imported hget htarget h =>
        obtain ⟨rfl, rfl⟩ := List.append_singleton_inj.mp hsegments
        exact .inr ⟨hget, .inl ⟨_, htarget, h⟩⟩
    | globbed hget hnone hs hglobs hbefore htarget h =>
        obtain ⟨rfl, rfl⟩ := List.append_singleton_inj.mp hsegments
        exact .inr ⟨hget, .inr ⟨hnone, _, hs, _, _, _, _, hglobs, hbefore, htarget, h⟩⟩
  · rintro (htype | ⟨hget, ⟨target, htarget, h⟩ |
      ⟨hnone, s, hs, before, g, after, target, hglobs, hbefore, htarget, h⟩⟩)
    · exact .declared htype
    · exact .imported hget htarget h
    · exact .globbed hget hnone hs hglobs hbefore htarget h

/-! ## Look-ups follow the ways -/

section Globs

variable {s : Scope} (hs : r.scope? ⟨above⟩ = some s)

include hs

theorem globbed?_eq_findSome? : r.globbed? n above name = s.globs.findSome? fun g =>
    (r.resolveImport ⟨above⟩ g).crate?.bind fun target => r.findWithin n (target ++ [name]) := by
  rw [globbed?, hs, Option.bind_some]
  congr
  funext g
  cases r.resolveImport ⟨above⟩ g <;> rfl

/-- What the globs supply, if ways tell whether the paths behind them lead to a type. -/
theorem globbed?_eq_none_of_ways
    (hnone : ∀ segments, r.findWithin n segments = none ↔ ¬ r.Supplied n segments) :
    r.globbed? n above name = none ↔ ¬ r.GlobSupplies n ⟨above⟩ s name := by
  simp only [globbed?_eq_findSome? hs, List.findSome?_eq_none_iff, Option.bind_eq_none_iff, hnone,
    Resolution.crate?_eq_some_iff, GlobSupplies, not_exists, not_and]

theorem globbed?_eq_some_of_ways
    (hnone : ∀ segments, r.findWithin n segments = none ↔ ¬ r.Supplied n segments)
    (hsome : ∀ segments, r.findWithin n segments = some d ↔ r.Leads d n segments) :
    r.globbed? n above name = some d ↔ r.GlobLeads d n ⟨above⟩ s name := by
  simp only [globbed?_eq_findSome? hs, List.findSome?_eq_some_iff, Option.bind_eq_some_iff,
    Option.bind_eq_none_iff, hnone, hsome, Resolution.crate?_eq_some_iff, GlobLeads]
  constructor
  · rintro ⟨before, g, after, hglobs, ⟨target, htarget, h⟩, hbefore⟩
    exact ⟨before, g, after, target, hglobs, hbefore, htarget, h⟩
  · rintro ⟨before, g, after, target, hglobs, hbefore, htarget, h⟩
    exact ⟨before, g, after, hglobs, ⟨target, htarget, h⟩, hbefore⟩

end Globs

section Stuck

variable (hstuck : n = 0 ∨ segments = [])

include hstuck

/-- Where no edge can be taken, a path leads to the type declared there. -/
theorem supplied_iff_of_stuck :
    r.Supplied n segments ↔ ∃ d, r.get? (ModulePath.displaySegments segments) = some d := by
  constructor
  · intro h
    cases h with
    | declared htype => exact ⟨_, htype⟩
    | imported | globbed => simp at hstuck
  · rintro ⟨d, htype⟩
    exact .declared htype

theorem leads_iff_of_stuck :
    r.Leads d n segments ↔ r.get? (ModulePath.displaySegments segments) = some d := by
  constructor
  · intro h
    cases h with
    | declared htype => exact htype
    | imported | globbed => simp at hstuck
  · exact .declared

theorem findWithin_of_stuck :
    r.findWithin n segments = r.get? (ModulePath.displaySegments segments) := by
  rw [findWithin.eq_def]
  rcases hstuck with rfl | rfl
  · cases r.get? (ModulePath.displaySegments segments) <;> rfl
  · cases r.get? (ModulePath.displaySegments []) <;> cases n <;> rfl

end Stuck

/-- A path is found to lead nowhere exactly if there is no way to a type. -/
theorem findWithin_eq_none_iff (n : Nat) (segments : List String) :
    r.findWithin n segments = none ↔ ¬ r.Supplied n segments := by
  induction n generalizing segments with
  | zero =>
      rw [findWithin_of_stuck (.inl rfl), supplied_iff_of_stuck (.inl rfl), not_exists]
      exact Option.eq_none_iff_forall_ne_some
  | succ n ih =>
      rcases List.eq_nil_or_concat' segments with rfl | ⟨above, name, rfl⟩
      · rw [findWithin_of_stuck (.inr rfl), supplied_iff_of_stuck (.inr rfl), not_exists]
        exact Option.eq_none_iff_forall_ne_some
      · rw [findWithin_concat, supplied_concat_iff]
        cases hget : r.get? (ModulePath.displaySegments (above ++ [name])) with
        | some d => simp
        | none =>
            cases htarget : r.importTarget? above name with
            | some target => simp [ih]
            | none =>
                cases hs : r.scope? ⟨above⟩ with
                | none => simp [globbed?, hs]
                | some s => simp [globbed?_eq_none_of_ways hs ih]

/-- A path is found to lead to a type exactly if it leads there. -/
theorem findWithin_eq_some_iff (n : Nat) (segments : List String) :
    r.findWithin n segments = some d ↔ r.Leads d n segments := by
  induction n generalizing segments with
  | zero => rw [findWithin_of_stuck (.inl rfl), leads_iff_of_stuck (.inl rfl)]
  | succ n ih =>
      rcases List.eq_nil_or_concat' segments with rfl | ⟨above, name, rfl⟩
      · rw [findWithin_of_stuck (.inr rfl), leads_iff_of_stuck (.inr rfl)]
      · rw [findWithin_concat, leads_concat_iff]
        cases hget : r.get? (ModulePath.displaySegments (above ++ [name])) with
        | some e => simp
        | none =>
            cases htarget : r.importTarget? above name with
            | some target => simp [ih]
            | none =>
                cases hs : r.scope? ⟨above⟩ with
                | none => simp [globbed?, hs]
                | some s => simp [globbed?_eq_some_of_ways hs (findWithin_eq_none_iff n) ih]

theorem find?_eq_some_iff : r.find? segments = some d ↔ r.Leads d reexportDepth segments :=
  findWithin_eq_some_iff reexportDepth segments

section Globs

variable {s : Scope} {m : ModulePath} (hs : r.scope? m = some s)

include hs

theorem globbed?_eq_none_iff :
    r.globbed? n m.segments name = none ↔ ¬ r.GlobSupplies n m s name :=
  globbed?_eq_none_of_ways hs (findWithin_eq_none_iff n)

theorem globbed?_eq_some_iff :
    r.globbed? n m.segments name = some d ↔ r.GlobLeads d n m s name :=
  globbed?_eq_some_of_ways hs (findWithin_eq_none_iff n) (findWithin_eq_some_iff n)

end Globs

end Registry

end BuilderForge
