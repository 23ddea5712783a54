import BuilderForge.Proofs.Resolution.CratePath

set_option autoImplicit false

/-! # Where visible paths come from

A visible path is the path that an item is declared at, or else a module that is visible followed by
a name that the module exports: by an exported import that leads to the item, or by an exported glob
that does (`canonical_or_isReexport_of_visiblePath?`). A path counts as visible if nothing on the
way is noted as private (`isPathVisible_iff`).
-/

namespace BuilderForge

namespace Scope

theorem mem_exportedImports (s : Scope) (name : String) (path : ImportPath) :
    (name, path) ∈ s.exportedImports ↔ name ∈ s.exports ∧ s.import? name = some path := by
  simp only [exportedImports, List.mem_filterMap, Option.map_eq_some_iff, Prod.mk.injEq]
  constructor
  · rintro ⟨name', hmem, path', himport, rfl, rfl⟩
    exact ⟨hmem, himport⟩
  · rintro ⟨hmem, himport⟩
    exact ⟨name, hmem, path, himport, rfl, rfl⟩

end Scope

namespace Registry

variable (r : Registry)

/-! ## What is noted as private -/

/-- The item under a path is noted as one that cannot be named from everywhere in the crate. -/
def IsPrivate (path : List String) : Prop :=
  r.visible.lookup (ModulePath.displaySegments path) = some false

theorem mem_pathsUpTo {q path : List String} : q ∈ pathsUpTo path ↔ q ≠ [] ∧ q <+: path := by
  simp only [pathsUpTo, List.mem_map, List.mem_range]
  constructor
  · rintro ⟨n, hn, rfl⟩
    refine ⟨?_, List.take_prefix _ _⟩
    intro hnil
    have := congrArg List.length hnil
    simp only [List.length_take, List.length_nil] at this
    omega
  · rintro ⟨hne, hpre⟩
    have hlen : 0 < q.length := List.length_pos_of_ne_nil hne
    have hle := hpre.length_le
    refine ⟨q.length - 1, by omega, ?_⟩
    rw [show q.length - 1 + 1 = q.length by omega]
    exact (List.prefix_iff_eq_take.mp hpre).symm

/-- A path is visible if nothing on the way is noted as private. -/
theorem isPathVisible_iff (path : List String) :
    r.isPathVisible path = true ↔ ∀ q, q ≠ [] → q <+: path → ¬ r.IsPrivate q := by
  simp only [isPathVisible, List.all_eq_true, mem_pathsUpTo, IsPrivate]
  constructor
  · intro h q hne hpre hprivate
    have := h q ⟨hne, hpre⟩
    simp [hprivate] at this
  · rintro h q ⟨hne, hpre⟩
    have := h q hne hpre
    cases hnote : r.visible.lookup (ModulePath.displaySegments q) with
    | none => rfl
    | some b =>
        cases b with
        | true => rfl
        | false => exact absurd hnote this

/-! ## Re-exports -/

/-- A module exports a name by an import that leads to what is declared at `target`. -/
def ExportsByImport (m : ModulePath) (s : Scope) (name : String) (target : List String) : Prop :=
  name ∈ s.exports ∧ ∃ path found, s.import? name = some path
    ∧ r.resolveImport m path = .crate found ∧ r.canonical found = target

/-- A module exports a name by a glob that leads to what is declared at `target`. -/
def ExportsByGlob (m : ModulePath) (s : Scope) (name : String) (target : List String) : Prop :=
  target.getLast? = some name ∧ ∃ glob ∈ s.exportedGlobs, ∃ found,
    r.resolveImport m glob = .crate found ∧ r.canonical (found ++ [name]) = target

theorem Resolution.crate?_eq_some_iff {x : Resolution} {segments : List String} :
    x.crate? = some segments ↔ x = .crate segments := by
  cases x <;> simp [Resolution.crate?]

/-- The names of imports come before those of globs. -/
theorem exists_reexportNames_eq (m : ModulePath) (s : Scope) (target : List String) :
    ∃ named globbed, r.reexportNames m s target = named ++ globbed
      ∧ (∀ name, name ∈ named ↔ r.ExportsByImport m s name target)
      ∧ ∀ name, name ∈ globbed ↔ r.ExportsByGlob m s name target := by
  refine ⟨_, _, rfl, fun name => ?_, fun name => ?_⟩
  · simp only [List.mem_filterMap]
    constructor
    · rintro ⟨⟨alias', path⟩, hmem, hleads⟩
      obtain ⟨hexport, himport⟩ := (s.mem_exportedImports alias' path).mp hmem
      cases hfound : (r.resolveImport m path).crate? with
      | none => simp [hfound] at hleads
      | some found =>
          simp only [hfound, beq_iff_eq, Option.ite_none_right_eq_some, Option.some.injEq] at hleads
          obtain ⟨hcanonical, rfl⟩ := hleads
          exact ⟨hexport, path, found, himport, Resolution.crate?_eq_some_iff.mp hfound, hcanonical⟩
    · rintro ⟨hexport, path, found, himport, hleads, hcanonical⟩
      refine ⟨(name, path), (s.mem_exportedImports name path).mpr ⟨hexport, himport⟩, ?_⟩
      simp [hleads, Resolution.crate?, hcanonical]
  · simp only [List.mem_flatMap]
    constructor
    · rintro ⟨glob, hmem, hname⟩
      cases hfound : (r.resolveImport m glob).crate? with
      | none => simp [hfound] at hname
      | some found =>
          cases hlast : target.getLast? with
          | none => simp [hlast] at hname
          | some last =>
              simp only [hfound, hlast, Option.toList, Option.map_some, beq_iff_eq] at hname
              split at hname
              · next hcanonical =>
                  obtain rfl := List.mem_singleton.mp hname
                  exact ⟨hlast, glob, hmem, found, Resolution.crate?_eq_some_iff.mp hfound,
                    hcanonical⟩
              · cases hname
    · rintro ⟨hlast, glob, hglob, found, hleads, hcanonical⟩
      refine ⟨glob, hglob, ?_⟩
      simp [hleads, Resolution.crate?, hlast, hcanonical]

/-- A module re-exports something under a name exactly if an import that it exports under the name
leads there, or an exported glob does with the name behind. -/
theorem mem_reexportNames_iff {m : ModulePath} {s : Scope} {target : List String}
    {name : String} : name ∈ r.reexportNames m s target
      ↔ r.ExportsByImport m s name target ∨ r.ExportsByGlob m s name target := by
  obtain ⟨named, globbed, hnames, hnamed, hglobbed⟩ := r.exists_reexportNames_eq m s target
  rw [hnames, List.mem_append, hnamed, hglobbed]

theorem shorter_eq_some {best : Option (List String)} {path p : List String}
    (h : shorter best path = some p) : best = some p ∨ p = path := by
  unfold shorter at h
  split at h
  · exact Or.inr (Option.some.inj h).symm
  · split at h
    · exact Or.inr (Option.some.inj h).symm
    · exact Or.inl h

/-- A path is a visible module followed by a name that the module exports for what is declared at
`target`. -/
def IsReexport (target path : List String) : Prop :=
  ∃ e ∈ r.scopes, r.isPathVisible e.1.segments = true ∧ ∃ name, path = e.1.segments ++ [name]
    ∧ (r.ExportsByImport e.1 e.2 name target ∨ r.ExportsByGlob e.1 e.2 name target)

theorem isReexport_of_reexportOf? {target path : List String}
    (h : r.reexportOf? target = some path) : r.IsReexport target path := by
  unfold reexportOf? at h
  split at h
  · cases h
  · -- the best path so far is a re-export at every point of the search
    refine List.foldlRecOn (motive := fun best => ∀ p, best = some p → r.IsReexport target p)
      r.scopes _ ?_ ?_ path h
    · intro p hp
      cases hp
    · intro best hbest e he
      split
      · next hvisible =>
          refine List.foldlRecOn (motive := fun best => ∀ p, best = some p → r.IsReexport target p)
            _ _ hbest ?_
          intro best hbest name hname p hp
          rcases shorter_eq_some hp with hold | rfl
          · exact hbest p hold
          · exact ⟨e, he, hvisible, name, rfl, r.mem_reexportNames_iff.mp hname⟩
      · exact hbest

/-- A visible path is the path something is declared at, if that is visible, or else a re-export. -/
theorem canonical_or_isReexport_of_visiblePath? {segments path : List String}
    (h : r.visiblePath? segments = some path) :
    path = r.canonical segments ∧ r.isPathVisible path = true
      ∨ r.IsReexport (r.canonical segments) path := by
  simp only [visiblePath?] at h
  split at h
  · next hvisible =>
      obtain rfl := Option.some.inj h
      exact Or.inl ⟨rfl, hvisible⟩
  · exact Or.inr (r.isReexport_of_reexportOf? h)

end Registry

end BuilderForge
