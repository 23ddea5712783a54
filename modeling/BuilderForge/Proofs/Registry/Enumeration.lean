import BuilderForge.Proofs.Registry.Reordering

set_option autoImplicit false

/-! # Enumerations of what modules export

The names that a module exports are a set. Their list in a scope is one of its enumerations, and any
run may take another one (`Registry.Enumerates`). Everything else in a registry is the same on every
run.
-/

namespace BuilderForge

/-- The scope `s'` is `s` with its exports in some order. -/
structure Scope.Enumerates (s s' : Scope) : Prop where
  exports : s.exports.Perm s'.exports
  others : s' = { s with exports := s'.exports }

namespace Scope.Enumerates

variable {s s' s'' : Scope}

theorem refl (s : Scope) : s.Enumerates s := ⟨.refl _, rfl⟩

theorem symm (h : s.Enumerates s') : s'.Enumerates s := by
  obtain ⟨hexports, hothers⟩ := h
  refine ⟨hexports.symm, ?_⟩
  rw [hothers]

theorem trans (h : s.Enumerates s') (h' : s'.Enumerates s'') : s.Enumerates s'' := by
  refine ⟨h.exports.trans h'.exports, ?_⟩
  rw [h'.others, h.others]

theorem reorders (h : s.Enumerates s') : s.Reorders s' := by
  obtain ⟨hexports, hothers⟩ := h
  rw [hothers]
  exact ⟨fun _ => rfl, fun _ => rfl, .refl _, hexports, .refl _⟩

theorem globs_eq (h : s.Enumerates s') : s'.globs = s.globs := by rw [h.others]

end Scope.Enumerates

namespace Registry

/-- The registry `r'` is `r` with the exports of each module in some order. -/
structure Enumerates (r r' : Registry) : Prop where
  types : r'.types = r.types
  visible : r'.visible = r.visible
  diagnostics : r'.diagnostics = r.diagnostics
  scopes : List.Forall₂ (fun e e' => e.1 = e'.1 ∧ e.2.Enumerates e'.2) r.scopes r'.scopes

namespace Enumerates

variable {r r' r'' : Registry}

theorem refl (r : Registry) : r.Enumerates r :=
  ⟨rfl, rfl, rfl, List.forall₂_same.mpr fun e _ => ⟨rfl, .refl e.2⟩⟩

theorem symm (h : r.Enumerates r') : r'.Enumerates r where
  types := h.types.symm
  visible := h.visible.symm
  diagnostics := h.diagnostics.symm
  scopes := h.scopes.flip.imp fun _ _ he => ⟨he.1.symm, he.2.symm⟩

theorem trans (h : r.Enumerates r') (h' : r'.Enumerates r'') : r.Enumerates r'' := by
  refine ⟨h'.types.trans h.types, h'.visible.trans h.visible, h'.diagnostics.trans h.diagnostics, ?_⟩
  have hscopes := h.scopes
  have hscopes' := h'.scopes
  generalize r.scopes = l, r'.scopes = l', r''.scopes = l'' at hscopes hscopes'
  induction hscopes generalizing l'' with
  | nil =>
      cases hscopes'
      exact .nil
  | cons he _ ih =>
      cases hscopes' with
      | cons he' hrest => exact .cons ⟨he.1.trans he'.1, he.2.trans he'.2⟩ (ih _ hrest)

theorem reorders (h : r.Enumerates r') : r.Reorders r' :=
  ⟨h.types, h.visible, h.scopes.imp fun _ _ he => ⟨he.1, he.2.reorders⟩⟩

/-- A module has its globs in the same order. -/
theorem map_globs (h : r.Enumerates r') (m : ModulePath) :
    (r'.scope? m).map Scope.globs = (r.scope? m).map Scope.globs := by
  rw [scope?, scope?]
  have hscopes := h.scopes
  generalize r.scopes = l, r'.scopes = l' at hscopes
  induction hscopes with
  | nil => rfl
  | @cons e e' _ _ he _ ih =>
      rw [List.lookup_cons, List.lookup_cons, ← he.1]
      cases m == e.1 with
      | true => exact congrArg some he.2.globs_eq
      | false => exact ih

end Enumerates

end Registry

end BuilderForge
