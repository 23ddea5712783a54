import BuilderForge.Proofs.Registry.Building
import BuilderForge.Resolution

set_option autoImplicit false

/-! # Paths from the root of the crate

A path that begins with `crate` means the same in every module (`resolvePath_crate`). Which type it
leads to is up to the module it ends in: a type of that module comes first, then the import of the
name, then the globs in their order. `Unshadowed` says that nothing that comes first is in the way
of a type, and `find?_concat_iff` that this decides what the path leads to.

Whatever a path leads to is a registered type, which its own path leads to (`find?_segments`).
-/

namespace BuilderForge

open Code (Segment Path)

/-! ## Writing and reading paths -/

/-- The names of a path as they are read back from code: without the marks of raw identifiers. -/
def asRead (segments : List String) : List String := segments.map fun name => (identFor name).name

theorem identFor_crate : identFor "crate" = ⟨"crate", false⟩ := by decide +kernel

namespace Registry

variable (r : Registry)

theorem names_cratePath (segments : List String) :
    (cratePath segments).names = "crate" :: asRead segments := by
  simp [cratePath, Path.names, asRead, identFor_crate, Segment.ofIdent, Segment.ident,
    List.map_map, Function.comp_def]

/-- A path that begins with `crate` means the same in every module. -/
theorem resolvePath_crate (m : ModulePath) {path : Path} {rest : List String}
    (hleading : path.leadingColon = false) (hnames : path.names = "crate" :: rest) :
    r.resolvePath m path = .crate rest := by
  rw [resolvePath, hleading, hnames, resolveIn]
  simp

/-! ## What a module supplies under a name -/

/-- The path that the import of a name in a module leads to, if it leads into the crate. -/
def importTarget? (above : List String) (name : String) : Option (List String) :=
  ((r.scope? ⟨above⟩).bind fun s => s.import? name).bind fun path =>
    (r.resolveImport ⟨above⟩ path).crate?

/-- The type that the globs of a module supply under a name, if at most `fuel` re-exports are
followed: that of the first glob that leads to one. -/
def globbed? (fuel : Nat) (above : List String) (name : String) : Option Declaration :=
  (r.scope? ⟨above⟩).bind fun s => s.globs.findSome? fun glob =>
    match r.resolveImport ⟨above⟩ glob with
    | .crate target => r.findWithin fuel (target ++ [name])
    | _ => none

/-- Nothing that comes first stands in the way of the type `d` under a name of a module. -/
structure Unshadowed (d : Declaration) (above : List String) (name : String) : Prop where
  /-- The module declares no other type of the name. -/
  declared : ∀ e, r.get? (ModulePath.displaySegments (above ++ [name])) = some e → e = d
  /-- If it declares none, what it imports under the name leads to the type. -/
  imported : r.get? (ModulePath.displaySegments (above ++ [name])) = none →
    ∀ target, r.importTarget? above name = some target →
      r.findWithin (reexportDepth - 1) target = some d
  /-- If it does not import the name either, the first glob that supplies it supplies the type. -/
  globbed : r.get? (ModulePath.displaySegments (above ++ [name])) = none →
    r.importTarget? above name = none → r.globbed? (reexportDepth - 1) above name = some d

/-- One step along a path: a type of the module, else its import, else its globs. -/
theorem findWithin_concat (fuel : Nat) (above : List String) (name : String) :
    r.findWithin (fuel + 1) (above ++ [name]) =
      match r.get? (ModulePath.displaySegments (above ++ [name])) with
      | some d => some d
      | none =>
          match r.importTarget? above name with
          | some target => r.findWithin fuel target
          | none => r.globbed? fuel above name := by
  rw [findWithin]
  cases r.get? (ModulePath.displaySegments (above ++ [name])) with
  | some d => rfl
  | none =>
      simp only [List.getLast?_append, List.getLast?_singleton, Option.some_or,
        List.dropLast_concat, importTarget?, globbed?]
      cases r.scope? ⟨above⟩ with
      | none => rfl
      | some s => rfl

/-- What a path leads to is decided by what comes first under its last name. -/
theorem find?_concat_iff (d : Declaration) (above : List String) (name : String) :
    r.find? (above ++ [name]) = some d ↔ r.Unshadowed d above name := by
  rw [find?, show reexportDepth = reexportDepth - 1 + 1 from rfl, findWithin_concat]
  cases hget : r.get? (ModulePath.displaySegments (above ++ [name])) with
  | some e =>
      constructor
      · intro h
        refine ⟨fun e' he' => ?_, fun hn => ?_, fun hn => ?_⟩
        · rw [hget] at he'
          exact (Option.some.inj he').symm.trans (Option.some.inj h)
        · rw [hget] at hn; cases hn
        · rw [hget] at hn; cases hn
      · intro h
        exact congrArg some (h.declared e hget)
  | none =>
      cases htarget : r.importTarget? above name with
      | some target =>
          constructor
          · intro h
            refine ⟨fun e he => ?_, fun _ t ht => ?_, fun _ hn => ?_⟩
            · rw [hget] at he; cases he
            · rw [htarget] at ht
              exact Option.some.inj ht ▸ h
            · rw [htarget] at hn; cases hn
          · intro h
            exact h.imported hget target htarget
      | none =>
          constructor
          · intro h
            refine ⟨fun e he => ?_, fun _ t ht => ?_, fun _ _ => h⟩
            · rw [hget] at he; cases he
            · rw [htarget] at ht; cases ht
          · intro h
            exact h.globbed hget htarget

theorem exists_of_globbed? {fuel : Nat} {above : List String} {name : String} {d : Declaration}
    (h : r.globbed? fuel above name = some d) :
    ∃ s glob target, r.scope? ⟨above⟩ = some s ∧ glob ∈ s.globs
      ∧ r.resolveImport ⟨above⟩ glob = .crate target
      ∧ r.findWithin fuel (target ++ [name]) = some d := by
  obtain ⟨s, hs, hglob⟩ := Option.bind_eq_some_iff.mp h
  obtain ⟨glob, hmem, hfind⟩ := List.exists_of_findSome?_eq_some hglob
  split at hfind
  · next target htarget => exact ⟨s, glob, target, hs, hmem, htarget, hfind⟩
  · cases hfind

/-! ## Registered types -/

section OfSources

variable {sources : SourceSet} {d : Declaration} {segments : List String}

/-- Whatever a path leads to is registered under the path it is declared at. -/
theorem get?_of_findWithin {fuel : Nat}
    (h : (ofSources sources).findWithin fuel segments = some d) :
    (ofSources sources).get? d.pathString = some d := by
  have registered : ∀ {path : String}, (ofSources sources).get? path = some d →
      (ofSources sources).get? d.pathString = some d := by
    intro path hget
    rw [pathString_of_get? hget]
    exact hget
  induction fuel generalizing segments with
  | zero =>
      rw [findWithin] at h
      split at h
      · next e he => exact registered (h ▸ he)
      · cases h
  | succ fuel ih =>
      rcases List.eq_nil_or_concat' segments with rfl | ⟨above, name, rfl⟩
      · rw [findWithin] at h
        split at h
        · next e he => exact registered (h ▸ he)
        · cases h
      · rw [findWithin_concat] at h
        split at h
        · next e he => exact registered (h ▸ he)
        · split at h
          · exact ih h
          · obtain ⟨s, glob, target, -, -, -, hfind⟩ := exists_of_globbed? _ h
            exact ih hfind

/-- The path that a type is declared at leads to it. -/
theorem find?_segments (hd : (ofSources sources).get? d.pathString = some d) :
    (ofSources sources).find? d.segments = some d := by
  rw [find?, findWithin.eq_def, ← Declaration.pathString_eq_displaySegments, hd]

theorem canonical_of_find? (h : (ofSources sources).find? segments = some d) :
    (ofSources sources).canonical segments = d.segments := by
  rw [canonical, h]

/-- All paths to a type share one visible path. -/
theorem visiblePath?_of_find? (h : (ofSources sources).find? segments = some d) :
    (ofSources sources).visiblePath? segments = (ofSources sources).visiblePath? d.segments := by
  have hd := find?_segments (get?_of_findWithin h)
  rw [visiblePath?, visiblePath?, canonical_of_find? h, canonical_of_find? hd]

end OfSources

end Registry

end BuilderForge
