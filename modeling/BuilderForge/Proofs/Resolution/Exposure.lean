import BuilderForge.Proofs.Anchoring.Unreachable
import BuilderForge.Proofs.Resolution.Reexports

set_option autoImplicit false

/-! # What the search for re-exports finds

A module exposes a type by an exported import that leads to it, or by an exported glob behind which
a name leads to it, over any number of further imports and globs (`WayTo`). The look-up follows such
a way to its end if it is not too long (`findWithin_of_wayTo`). But the search asks what a glob
supplies for one name only, the name that the type is declared with, so a type that gets a new name
behind an exported glob is not found.

`isSome_visiblePath?_iff` says exactly when there is a visible path, and
`visiblePath?_isSome_of_exposes` which exposures are found.
-/

namespace BuilderForge

namespace Registry

variable (r : Registry)

/-! ## Ways to a type -/

/-- A path leads to the type `d` over at most `n` imports and globs. At every module on the way
nothing is in front of what leads on: a type that the module declares comes first, then the import,
then the globs, which must not supply any other type. (`LeadsTo` is the same for imports alone.) -/
inductive WayTo (d : Declaration) : Nat → List String → Prop
  | declared {n : Nat} {path : List String}
      (hget : r.get? (ModulePath.displaySegments path) = some d) : WayTo d n path
  | imported {n : Nat} {above target : List String} {name : String}
      (hfree : r.get? (ModulePath.displaySegments (above ++ [name])) = none)
      (himport : r.importTarget? above name = some target) (h : WayTo d n target) :
      WayTo d (n + 1) (above ++ [name])
  | globbed {n : Nat} {above target : List String} {name : String} {s : Scope} {glob : ImportPath}
      (hfree : r.get? (ModulePath.displaySegments (above ++ [name])) = none)
      (himport : r.importTarget? above name = none) (hs : r.scope? ⟨above⟩ = some s)
      (hglob : glob ∈ s.globs) (htarget : r.resolveImport ⟨above⟩ glob = .crate target)
      (hothers : ∀ other ∈ s.globs, ∀ t, r.resolveImport ⟨above⟩ other = .crate t →
        ∀ fuel e, r.findWithin fuel (t ++ [name]) = some e → e = d)
      (h : WayTo d n (target ++ [name])) : WayTo d (n + 1) (above ++ [name])

/-- A module exposes the type `d` under a name by an exported import, over at most `n` more imports
and globs. -/
def ExposesByImport (d : Declaration) (n : Nat) (m : ModulePath) (name : String) : Prop :=
  ∃ s path target, r.scope? m = some s ∧ name ∈ s.exports ∧ s.import? name = some path
    ∧ r.resolveImport m path = .crate target ∧ r.WayTo d n target

/-- A module exposes the type `d` under a name by an exported glob, over at most `n` more imports and
globs. -/
def ExposesByGlob (d : Declaration) (n : Nat) (m : ModulePath) (name : String) : Prop :=
  ∃ s glob target, r.scope? m = some s ∧ glob ∈ s.exportedGlobs
    ∧ r.resolveImport m glob = .crate target ∧ r.WayTo d n (target ++ [name])

variable {r} {d : Declaration} {n : Nat} {m : ModulePath} {s : Scope} {name : String}

/-- Globs supply a type if one of them does and the others supply no other type. -/
theorem globbed?_of_mem {fuel : Nat} {above target : List String} {glob : ImportPath}
    (hs : r.scope? ⟨above⟩ = some s) (hglob : glob ∈ s.globs)
    (htarget : r.resolveImport ⟨above⟩ glob = .crate target)
    (hfind : r.findWithin fuel (target ++ [name]) = some d)
    (hothers : ∀ other ∈ s.globs, ∀ t, r.resolveImport ⟨above⟩ other = .crate t →
      ∀ e, r.findWithin fuel (t ++ [name]) = some e → e = d) :
    r.globbed? fuel above name = some d := by
  cases hsupplied : r.globbed? fuel above name with
  | none =>
      rw [globbed?, hs, Option.bind_some, List.findSome?_eq_none_iff] at hsupplied
      have hnone := hsupplied glob hglob
      rw [htarget] at hnone
      exact absurd (hnone.symm.trans hfind) (by simp)
  | some e =>
      obtain ⟨s', other, t, hs', hother, ht, hfound⟩ := exists_of_globbed? r hsupplied
      obtain rfl := Option.some.inj (hs.symm.trans hs')
      rw [hothers other hother t ht e hfound]

/-- **The look-up follows a way to its end**, if it may follow as many imports and globs. -/
theorem findWithin_of_wayTo {path : List String} (h : r.WayTo d n path) :
    ∀ fuel, n ≤ fuel → r.findWithin fuel path = some d := by
  induction h with
  | declared hget =>
      intro fuel _
      rw [findWithin.eq_def, hget]
  | @imported n above target name hfree himport _ ih =>
      intro fuel hfuel
      obtain ⟨fuel, rfl⟩ := Nat.exists_eq_add_of_le' hfuel
      rw [← Nat.add_assoc, findWithin_concat, hfree, himport]
      exact ih (fuel + n) (Nat.le_add_left n fuel)
  | @globbed n above target name s glob hfree himport hs hglob htarget hothers _ ih =>
      -- a glob in front may be looked through first, but what it supplies is the same type
      intro fuel hfuel
      obtain ⟨fuel, rfl⟩ := Nat.exists_eq_add_of_le' hfuel
      rw [← Nat.add_assoc, findWithin_concat, hfree, himport]
      exact globbed?_of_mem hs hglob htarget (ih (fuel + n) (Nat.le_add_left n fuel))
        fun other hother t ht e he => hothers other hother t ht _ e he

theorem find?_of_wayTo {path : List String} (h : r.WayTo d n path) (hn : n ≤ reexportDepth) :
    r.find? path = some d := findWithin_of_wayTo h reexportDepth hn

section OfSources

variable {sources : SourceSet}

/-! ## What the search looks for -/

theorem canonical_eq_segments_iff (hd : (ofSources sources).get? d.pathString = some d)
    {path : List String} :
    (ofSources sources).canonical path = d.segments
      ↔ (ofSources sources).find? path = some d := by
  have hself := find?_segments hd
  constructor
  · intro h
    cases hfind : (ofSources sources).find? path with
    | none =>
        -- a path that leads nowhere is canonical, but the path of the type leads to the type
        rw [canonical, hfind] at h
        rw [← h, hfind] at hself
        cases hself
    | some e =>
        rw [canonical_of_find? hfind] at h
        have he := find?_segments (get?_of_findWithin hfind)
        rw [h, hself] at he
        exact he.symm
  · exact canonical_of_find?

/-- A visible module has an exported import that leads to the type, or an exported glob that
supplies the type under the name it is declared with. -/
def IsOffered (r : Registry) (d : Declaration) : Prop :=
  ∃ m s, r.scope? m = some s ∧ r.isPathVisible m.segments = true
    ∧ ((∃ name ∈ s.exports, ∃ path target, s.import? name = some path
        ∧ r.resolveImport m path = .crate target ∧ r.find? target = some d)
      ∨ ∃ glob ∈ s.exportedGlobs, ∃ target, r.resolveImport m glob = .crate target
        ∧ r.find? (target ++ [d.ident.name]) = some d)

theorem exists_isReexport_iff (hd : (ofSources sources).get? d.pathString = some d) :
    (∃ path, (ofSources sources).IsReexport d.segments path)
      ↔ (ofSources sources).IsOffered d := by
  have hlast : d.segments.getLast? = some d.ident.name := List.getLast?_concat
  constructor
  · rintro ⟨path, ⟨m, s⟩, he, hvisible, name, -, hexports⟩
    refine ⟨m, s, (scope?_eq_some_iff sources m s).mpr he, hvisible, ?_⟩
    rcases hexports with ⟨hexport, path, target, himport, htarget, hcanonical⟩
      | ⟨hname, glob, hglob, target, htarget, hcanonical⟩
    · exact Or.inl ⟨name, hexport, path, target, himport, htarget,
        (canonical_eq_segments_iff hd).mp hcanonical⟩
    · obtain rfl := Option.some.inj (hlast.symm.trans hname)
      exact Or.inr ⟨glob, hglob, target, htarget, (canonical_eq_segments_iff hd).mp hcanonical⟩
  · rintro ⟨m, s, hs, hvisible, hoffers⟩
    have he := (scope?_eq_some_iff sources m s).mp hs
    rcases hoffers with ⟨name, hexport, path, target, himport, htarget, hfind⟩
      | ⟨glob, hglob, target, htarget, hfind⟩
    · exact ⟨_, (m, s), he, hvisible, name, rfl, Or.inl ⟨hexport, path, target, himport, htarget,
        canonical_of_find? hfind⟩⟩
    · exact ⟨_, (m, s), he, hvisible, d.ident.name, rfl, Or.inr ⟨hlast, glob, hglob, target, htarget,
        canonical_of_find? hfind⟩⟩

theorem isSome_visiblePath?_iff (hd : (ofSources sources).get? d.pathString = some d) :
    ((ofSources sources).visiblePath? d.segments).isSome = true
      ↔ (ofSources sources).isPathVisible d.segments = true ∨ (ofSources sources).IsOffered d := by
  have hne : d.segments ≠ [] := List.append_ne_nil_of_right_ne_nil _ (List.cons_ne_nil _ _)
  rw [visiblePath?, canonical_of_find? (find?_segments hd)]
  by_cases hvisible : (ofSources sources).isPathVisible d.segments = true
  · rw [if_pos hvisible, Option.isSome_some]
    exact iff_of_true rfl (Or.inl hvisible)
  · rw [if_neg hvisible, isSome_reexportOf?_iff _ hne, exists_isReexport_iff hd]
    exact (or_iff_right hvisible).symm

/-- A type is offered by every visible module that exposes it by an import, or by a glob under the
name it is declared with. -/
theorem isOffered_of_exposes (hn : n ≤ reexportDepth)
    (hvisible : r.isPathVisible m.segments = true)
    (h : (∃ name, r.ExposesByImport d n m name) ∨ r.ExposesByGlob d n m d.ident.name) :
    r.IsOffered d := by
  rcases h with ⟨name, s, path, target, hs, hexport, himport, htarget, hway⟩
    | ⟨s, glob, target, hs, hglob, htarget, hway⟩
  · exact ⟨m, s, hs, hvisible, Or.inl ⟨name, hexport, path, target, himport, htarget,
      find?_of_wayTo hway hn⟩⟩
  · exact ⟨m, s, hs, hvisible, Or.inr ⟨glob, hglob, target, htarget, find?_of_wayTo hway hn⟩⟩

/-- **Every exposure is found, apart from new names behind a glob.** A type has a visible path
exactly if the path that it is declared at is visible or a visible module offers it. Every visible
module does so that exposes it over no more imports and globs than the look-up follows: by an import
under any name, by a glob under the name that the type is declared with. A struct is only refused a
chain for a type that is not exposed in this way. -/
theorem visiblePath?_isSome_of_exposes (sources : SourceSet) :
    (∀ d, (ofSources sources).get? d.pathString = some d →
      (((ofSources sources).visiblePath? d.segments).isSome = true
        ↔ (ofSources sources).isPathVisible d.segments = true ∨ (ofSources sources).IsOffered d)
      ∧ ∀ m n, n ≤ reexportDepth → (ofSources sources).isPathVisible m.segments = true →
        ((∃ name, (ofSources sources).ExposesByImport d n m name)
          ∨ (ofSources sources).ExposesByGlob d n m d.ident.name) →
        ((ofSources sources).visiblePath? d.segments).isSome = true)
    ∧ ∀ child typeName path,
      FieldChain.ofDecl (ofSources sources) child = .error (.notReachable typeName path) →
      ∃ segments, path = ModulePath.displaySegments segments
        ∧ (ofSources sources).visiblePath? segments = none
        ∧ ∀ d, (ofSources sources).find? segments = some d →
          (ofSources sources).isPathVisible d.segments = false
          ∧ ∀ m n, n ≤ reexportDepth → (ofSources sources).isPathVisible m.segments = true →
            (∀ name, ¬ (ofSources sources).ExposesByImport d n m name)
            ∧ ¬ (ofSources sources).ExposesByGlob d n m d.ident.name := by
  refine ⟨fun d hd => ⟨isSome_visiblePath?_iff hd, fun m n hn hvisible h => ?_⟩, ?_⟩
  · exact (isSome_visiblePath?_iff hd).mpr (Or.inr (isOffered_of_exposes hn hvisible h))
  · intro child typeName path hrefused
    obtain ⟨-, segments, hpath, hhidden⟩ := FieldChain.hidden_of_notReachable hrefused
    refine ⟨segments, hpath, hhidden, fun d hfind => ?_⟩
    have hnot : ¬ ((ofSources sources).isPathVisible d.segments = true
        ∨ (ofSources sources).IsOffered d) := by
      rw [← isSome_visiblePath?_iff (get?_of_findWithin hfind), ← visiblePath?_of_find? hfind,
        hhidden]
      exact Bool.false_ne_true
    rw [not_or, Bool.not_eq_true] at hnot
    refine ⟨hnot.1, fun m n hn hvisible => ⟨fun name h => ?_, fun h => ?_⟩⟩
    · exact hnot.2 (isOffered_of_exposes hn hvisible (Or.inl ⟨name, h⟩))
    · exact hnot.2 (isOffered_of_exposes hn hvisible (Or.inr h))

end OfSources

/-! ## A type that is handed up twice

The module `a` exports a glob of its private module `hidden`, which exports a type of its own
private module `deep`. -/

/-- The crate, with this end of the import in `hidden`. -/
def deepSources (leaf : Code.UseTree) : SourceSet where
  files := [
    ⟨"src/lib.rs", .root, [], [.outlined .everywhere "a"]⟩,
    ⟨"src/a.rs", ⟨["a"]⟩, [], [.outlined .inherited "hidden", .exportedGlobOf "hidden"]⟩,
    ⟨"src/a/hidden.rs", ⟨["a", "hidden"]⟩, [], [.outlined .inherited "deep",
      .use [] .everywhere false (.path ⟨"self", false⟩ (.path ⟨"deep", false⟩ leaf))]⟩,
    ⟨"src/a/hidden/deep.rs", ⟨["a", "hidden", "deep"]⟩, [], [.unitStruct .everywhere "T"]⟩]

/-- The type of `deep`. -/
def deepType : Declaration :=
  (Declaration.ofStruct ⟨["a", "hidden", "deep"]⟩ ⟨"T", false⟩ [] false .unit).1

/-- Under its own name, the type is exposed and found; no chain is refused because of it. Under a new
name it is not offered, and a chain is. -/
theorem visiblePath?_deepType :
    (ofSources (deepSources (.name ⟨"T", false⟩))).ExposesByGlob deepType 1 ⟨["a"]⟩ "T"
    ∧ ((ofSources (deepSources (.name ⟨"T", false⟩))).visiblePath? deepType.segments).isSome = true
    ∧ ¬ (ofSources (deepSources (.rename ⟨"T", false⟩ ⟨"Renamed", false⟩))).IsOffered deepType
    ∧ ∃ path, FieldChain.ofDecl
        (ofSources (deepSources (.rename ⟨"T", false⟩ ⟨"Renamed", false⟩))) deepType
          = .error (.notReachable "crate::a::hidden::deep::T" path)
      ∧ ∃ segments, path = ModulePath.displaySegments segments
        ∧ (ofSources (deepSources (.rename ⟨"T", false⟩ ⟨"Renamed", false⟩))).visiblePath? segments
          = none := by
  obtain ⟨hfound, -⟩ := visiblePath?_isSome_of_exposes (deepSources (.name ⟨"T", false⟩))
  obtain ⟨hoffered, hrefused⟩ := visiblePath?_isSome_of_exposes
    (deepSources (.rename ⟨"T", false⟩ ⟨"Renamed", false⟩))
  have hglob : (ofSources (deepSources (.name ⟨"T", false⟩))).ExposesByGlob deepType 1 ⟨["a"]⟩
      "T" := by
    refine ⟨_, ⟨false, ["self", "hidden"]⟩, ["a", "hidden"], rfl, List.mem_cons_self, rfl, ?_⟩
    exact .imported rfl rfl (.declared rfl)
  have hhidden : (ofSources (deepSources (.rename ⟨"T", false⟩ ⟨"Renamed", false⟩))).visiblePath?
      deepType.segments = none := rfl
  refine ⟨hglob, (hfound deepType rfl).2 _ 1 (by decide) rfl (Or.inr hglob), ?_, _, rfl, ?_⟩
  · intro h
    have hsome := (hoffered deepType rfl).1.mpr (Or.inr h)
    rw [hhidden] at hsome
    cases hsome
  · obtain ⟨segments, hpath, hnone, -⟩ := hrefused deepType _ _ rfl
    exact ⟨segments, hpath, hnone⟩

/-- A type that is renamed behind an exported glob is not found. -/
theorem not_isSome_visiblePath?_of_renamed :
    ¬ ∀ (sources : SourceSet) (d : Declaration) (m : ModulePath) (n : Nat) (name : String),
      (ofSources sources).get? d.pathString = some d → n ≤ reexportDepth →
      (ofSources sources).isPathVisible m.segments = true →
      ((ofSources sources).ExposesByImport d n m name
        ∨ (ofSources sources).ExposesByGlob d n m name) →
      ((ofSources sources).visiblePath? d.segments).isSome = true := by
  intro h
  have hglob : (ofSources (deepSources (.rename ⟨"T", false⟩ ⟨"Renamed", false⟩))).ExposesByGlob
      deepType 1 ⟨["a"]⟩ "Renamed" := by
    refine ⟨_, ⟨false, ["self", "hidden"]⟩, ["a", "hidden"], rfl, List.mem_cons_self, rfl, ?_⟩
    exact .imported rfl rfl (.declared rfl)
  have hsome := h _ deepType ⟨["a"]⟩ 1 "Renamed" rfl (by decide) rfl (Or.inr hglob)
  have hhidden : (ofSources (deepSources (.rename ⟨"T", false⟩ ⟨"Renamed", false⟩))).visiblePath?
      deepType.segments = none := rfl
  rw [hhidden] at hsome
  cases hsome

end Registry

end BuilderForge
