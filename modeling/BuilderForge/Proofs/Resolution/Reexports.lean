import BuilderForge.Proofs.Resolution.Visible
import Mathlib.Data.List.MinMax

set_option autoImplicit false

/-! # The search for re-exports

Every visible module offers the first name that it re-exports an item under (`reexportAt?`); its
other names make no shorter path. The search takes the shortest of these offers, and the first one
of those that are as short (`reexportOf?_eq_argmin`). So it finds a re-export if there is one
(`isSome_reexportOf?_iff`), and no re-export is shorter than what it finds
(`length_le_of_reexportOf?`).
-/

namespace BuilderForge

namespace Registry

variable (r : Registry) {target : List String}

/-! ## The names of one module -/

/-- The first name is that of an import, or no import leads there and it is the name behind a
glob. -/
theorem head?_reexportNames {m : ModulePath} {s : Scope} {name : String}
    (h : (r.reexportNames m s target).head? = some name) :
    r.ExportsByImport m s name target
      ∨ (∀ x, ¬ r.ExportsByImport m s x target) ∧ r.ExportsByGlob m s name target := by
  obtain ⟨named, globbed, hnames, hnamed, hglobbed⟩ := r.exists_reexportNames_eq m s target
  rw [hnames] at h
  cases named with
  | nil =>
      refine Or.inr ⟨fun x hx => ?_, (hglobbed name).mp (List.mem_of_head? h)⟩
      exact List.not_mem_nil ((hnamed x).mpr hx)
  | cons first named =>
      obtain rfl := Option.some.inj h
      exact Or.inl ((hnamed first).mp List.mem_cons_self)

/-- What a visible module offers: the path of the first name that it re-exports an item under. -/
def reexportAt? (target : List String) (e : ModulePath × Scope) : Option (List String) :=
  if r.isPathVisible e.1.segments then
    (r.reexportNames e.1 e.2 target).head?.map fun name => e.1.segments ++ [name]
  else none

theorem reexportAt?_eq_some_iff {e : ModulePath × Scope} {path : List String} :
    r.reexportAt? target e = some path ↔ r.isPathVisible e.1.segments = true
      ∧ ∃ name, (r.reexportNames e.1 e.2 target).head? = some name
        ∧ path = e.1.segments ++ [name] := by
  rw [reexportAt?, Option.ite_none_right_eq_some, Option.map_eq_some_iff]
  simp only [eq_comm]

/-! ## The shortest offer -/

/-- The search keeps what it has unless something is shorter, as `List.argmin` does. -/
theorem foldl_shorter (paths : List (List String)) :
    paths.foldl shorter none = paths.argmin List.length := by
  show paths.foldl shorter none = paths.foldl (List.argAux fun b c => b.length < c.length) none
  congr 1
  funext best path
  cases best <;> rfl

/-- Of the names of one module the first decides: the paths of the others are not shorter. -/
theorem foldl_shorter_names (above : List String) (names : List String)
    (best : Option (List String)) :
    names.foldl (fun best name => shorter best (above ++ [name])) best
      = (names.head?.map fun name => above ++ [name]).elim best (shorter best) := by
  -- paths of one module are all as long, so none of the rest is shorter than the first
  have hkeep : ∀ (names : List String) (b : List String), b.length ≤ above.length + 1 →
      names.foldl (fun best name => shorter best (above ++ [name])) (some b) = some b := by
    intro names b hb
    induction names with
    | nil => rfl
    | cons name names ih =>
        have hnot : ¬ (above ++ [name]).length < b.length := by
          rw [List.length_append, List.length_singleton]
          omega
        rw [List.foldl_cons, shorter, if_neg hnot]
        exact ih
  cases names with
  | nil => rfl
  | cons name names =>
      have hlength : (above ++ [name]).length = above.length + 1 := List.length_append
      rw [List.foldl_cons]
      show _ = shorter best (above ++ [name])
      cases best with
      | none => exact hkeep names _ hlength.le
      | some b =>
          by_cases hshort : (above ++ [name]).length < b.length
          · rw [shorter, if_pos hshort]
            exact hkeep names _ hlength.le
          · rw [shorter, if_neg hshort]
            exact hkeep names b (by omega)

/-- The search takes the shortest of what the modules offer, and the first of the shortest. -/
theorem reexportOf?_eq_argmin (htarget : target ≠ []) :
    r.reexportOf? target = (r.scopes.filterMap (r.reexportAt? target)).argmin List.length := by
  have hempty : target.isEmpty = false := List.isEmpty_eq_false_iff.mpr htarget
  rw [← foldl_shorter, List.foldl_filterMap, reexportOf?, hempty, if_neg Bool.false_ne_true]
  congr 1
  funext best e
  rw [reexportAt?]
  by_cases hvisible : r.isPathVisible e.1.segments = true
  · rw [if_pos hvisible, if_pos hvisible, foldl_shorter_names]
    cases (r.reexportNames e.1 e.2 target).head? <;> rfl
  · rw [if_neg hvisible, if_neg hvisible]

/-- For every re-export there is an offer that is as short. -/
theorem exists_offer_of_isReexport {path : List String} (h : r.IsReexport target path) :
    ∃ p ∈ r.scopes.filterMap (r.reexportAt? target), p.length = path.length := by
  obtain ⟨e, he, hvisible, name, rfl, hexports⟩ := h
  have hmem : name ∈ r.reexportNames e.1 e.2 target := r.mem_reexportNames_iff.mpr hexports
  obtain ⟨first, hfirst⟩ : ∃ first, (r.reexportNames e.1 e.2 target).head? = some first :=
    Option.isSome_iff_exists.mp (List.isSome_head?.mpr (List.ne_nil_of_mem hmem))
  refine ⟨e.1.segments ++ [first], List.mem_filterMap.mpr ⟨e, he, ?_⟩, ?_⟩
  · exact r.reexportAt?_eq_some_iff.mpr ⟨hvisible, first, hfirst, rfl⟩
  · rw [List.length_append, List.length_append, List.length_singleton, List.length_singleton]

/-- The search finds a re-export if there is one. -/
theorem isSome_reexportOf?_iff (htarget : target ≠ []) :
    (r.reexportOf? target).isSome = true ↔ ∃ path, r.IsReexport target path := by
  rw [Option.isSome_iff_exists]
  constructor
  · rintro ⟨path, h⟩
    exact ⟨path, r.isReexport_of_reexportOf? h⟩
  · rintro ⟨path, h⟩
    obtain ⟨p, hp, -⟩ := r.exists_offer_of_isReexport h
    rw [r.reexportOf?_eq_argmin htarget, ← Option.isSome_iff_exists, Option.isSome_iff_ne_none]
    intro hnone
    rw [List.argmin_eq_none.mp hnone] at hp
    cases hp

/-- No re-export is shorter than the one that the search finds. -/
theorem length_le_of_reexportOf? {path : List String} (h : r.reexportOf? target = some path)
    {p : List String} (hp : r.IsReexport target p) : path.length ≤ p.length := by
  by_cases htarget : target = []
  · rw [htarget] at h
    cases h
  rw [r.reexportOf?_eq_argmin htarget] at h
  obtain ⟨q, hq, hlength⟩ := r.exists_offer_of_isReexport hp
  rw [← hlength]
  exact List.le_of_mem_argmin hq h

end Registry

end BuilderForge
