import BuilderForge.Proofs.FieldChain.Lineage
import BuilderForge.Proofs.Resolution.Visible

set_option autoImplicit false

/-! # Whether the crate can name a visible path

Rust lets a module be passed through, and an item be named, only by names that are visible where
they are used. `Nameable` states that for the whole crate: nothing on the way is private, no name on
the way is imported for the module alone, and what a glob hands out may be handed out.

Not every visible path is nameable. `Sound` collects what the search for visible paths leaves open,
and this is all: the modules on the way are never private, the path that a known type is declared at
is never an import, and neither is a re-export by name.
-/

namespace BuilderForge.Registry

variable (r : Registry)

/-! ## What it takes to be named -/

/-- A glob of a module brings in a name, from the scope it leads to or from one further on. -/
def BringsIn (m : ModulePath) (glob : ImportPath) (name : String) : Prop :=
  ∃ target, r.resolveImport m glob = .crate target
    ∧ ((∃ t, r.scope? ⟨target⟩ = some t ∧ t.declares name = true)
      ∨ ∃ d, r.find? (target ++ [name]) = some d)

/-- The last name of a path is in its module by imports only, none of which is exported. -/
def OnlyPrivatelyImported (path : List String) : Prop :=
  ∃ above name s, path = above ++ [name] ∧ r.scope? ⟨above⟩ = some s ∧ s.hasLocal name = false
    ∧ ((s.import? name).isSome = true ∨ ∃ glob ∈ s.globs, r.BringsIn ⟨above⟩ glob name)
    ∧ name ∉ s.exports ∧ ∀ glob ∈ s.exportedGlobs, ¬ r.BringsIn ⟨above⟩ glob name

/-- An exported glob supplies the type `d` under the last name of a path. -/
def SuppliedByGlob (path : List String) (d : Declaration) : Prop :=
  ∃ above name s, path = above ++ [name] ∧ r.scope? ⟨above⟩ = some s ∧ s.declares name = false
    ∧ ∃ glob ∈ s.exportedGlobs, ∃ target, r.resolveImport ⟨above⟩ glob = .crate target
      ∧ r.find? (target ++ [name]) = some d

/-- The whole crate can name what a path leads to. -/
structure Nameable (path : List String) : Prop where
  /-- No item on the way is private. -/
  visible : ∀ q, q ≠ [] → q <+: path → ¬ r.IsPrivate q
  /-- No name on the way is imported for its module alone. -/
  exported : ∀ q, q <+: path → ¬ r.OnlyPrivatelyImported q
  /-- A type that an exported glob supplies is not private. -/
  supplied : ∀ d, r.SuppliedByGlob path d → ¬ r.IsPrivate d.segments

/-- What the search for a visible path `path` of `segments` leaves open. -/
structure Sound (segments path : List String) : Prop where
  /-- No module on the way is imported for the module around it alone. -/
  modules : ∀ q, q <+: path → q ≠ path → ¬ r.OnlyPrivatelyImported q
  /-- What is no known type is not imported for its module alone. -/
  unknown : r.find? segments = none → ¬ r.OnlyPrivatelyImported path
  /-- A module has no private item of the name it re-exports something under. -/
  own : r.isPathVisible (r.canonical segments) = false → ¬ r.IsPrivate path
  /-- The types that an exported glob supplies under a re-exported name are not private. -/
  supplied : r.find? segments = none ∨ r.isPathVisible (r.canonical segments) = false →
    ∀ d, r.SuppliedByGlob path d → ¬ r.IsPrivate d.segments

/-! ## What always holds -/

theorem prefix_concat_cases (above : List String) {q : List String} {name : String}
    (h : q <+: above ++ [name]) : q = above ++ [name] ∨ q <+: above := by
  rcases List.prefix_concat_iff.mp h with rfl | h
  · exact Or.inl rfl
  · exact Or.inr h

/-- If the declared path is hidden, a visible path comes from the search for re-exports. -/
theorem reexportOf?_of_hidden {segments path : List String}
    (hhidden : r.isPathVisible (r.canonical segments) = false)
    (h : r.visiblePath? segments = some path) :
    r.reexportOf? (r.canonical segments) = some path := by
  simpa [visiblePath?, hhidden] using h

/-- The modules on the way of a visible path are visible, and so is its end unless the path is a
re-export. -/
theorem not_isPrivate_of_prefix {segments path : List String}
    (h : r.visiblePath? segments = some path)
    (hown : r.isPathVisible (r.canonical segments) = false → ¬ r.IsPrivate path)
    {q : List String} (hne : q ≠ []) (hq : q <+: path) : ¬ r.IsPrivate q := by
  simp only [visiblePath?] at h
  split at h
  · next hvisible =>
      obtain rfl := Option.some.inj h
      exact (r.isPathVisible_iff _).mp hvisible q hne hq
  · next hhidden =>
      obtain ⟨e, -, hmodule, name, rfl, -⟩ := r.isReexport_of_reexportOf? h
      rcases prefix_concat_cases _ hq with rfl | hq
      · exact hown (by simpa using hhidden)
      · exact (r.isPathVisible_iff _).mp hmodule q hne hq

/-- An exported import is not imported for its module alone, and neither is what an exported glob
brings in. -/
theorem not_onlyPrivatelyImported {above : List String} {name : String} {s : Scope}
    (hs : r.scope? ⟨above⟩ = some s)
    (h : s.hasLocal name = true ∨ name ∈ s.exports
      ∨ ∃ glob ∈ s.exportedGlobs, r.BringsIn ⟨above⟩ glob name) :
    ¬ r.OnlyPrivatelyImported (above ++ [name]) := by
  rintro ⟨above', name', s', heq, hs', hlocal, -, hexport, hglob⟩
  obtain ⟨rfl, hname⟩ := List.append_inj' heq rfl
  obtain rfl := (List.cons.inj hname).1
  obtain rfl := Option.some.inj (hs.symm.trans hs')
  rcases h with h | h | ⟨glob, hmem, h⟩
  · rw [hlocal] at h
    cases h
  · exact hexport h
  · exact hglob glob hmem h

section OfSources

variable {sources : SourceSet} {segments path : List String} {d : Declaration}

/-- The name of a known type is an item of its module. -/
theorem hasLocal_of_find? (h : (ofSources sources).find? segments = some d) :
    ∃ s, (ofSources sources).scope? d.module = some s ∧ s.hasLocal d.ident.name = true := by
  have hmem : (d.pathString, d) ∈ (ofSources sources).types :=
    mem_of_lookup (get?_of_findWithin h)
  exact hasLocal_of_mem_types hmem

/-- A module that re-exports a known type does not import it for itself alone. -/
theorem not_onlyPrivatelyImported_of_find? (hd : (ofSources sources).find? segments = some d)
    (h : (ofSources sources).visiblePath? segments = some path) :
    ¬ (ofSources sources).OnlyPrivatelyImported path := by
  rcases canonical_or_isReexport_of_visiblePath? _ h with ⟨rfl, -⟩ | ⟨e, he, -, name, rfl, hexp⟩
  · obtain ⟨s, hs, hlocal⟩ := hasLocal_of_find? hd
    rw [canonical_of_find? hd]
    exact not_onlyPrivatelyImported _ hs (Or.inl hlocal)
  · have hs := (scope?_eq_some_iff sources e.1 e.2).mpr he
    apply not_onlyPrivatelyImported _ hs
    rcases hexp with ⟨hexport, -⟩ | ⟨-, glob, hmem, found, hfound, hcanonical⟩
    · exact Or.inr (Or.inl hexport)
    · refine Or.inr (Or.inr ⟨glob, hmem, found, hfound, Or.inr ?_⟩)
      cases hfind : (ofSources sources).find? (found ++ [name]) with
      | some d' => exact ⟨d', rfl⟩
      | none =>
          -- a path that leads nowhere is canonical, and this one is the path of the type
          rw [canonical, hfind, canonical_of_find? hd] at hcanonical
          have hself := find?_segments (get?_of_findWithin hd)
          rw [← hcanonical, hfind] at hself
          cases hself

/-- No glob supplies anything under the path that a known type is declared at. -/
theorem not_suppliedByGlob_segments (hd : (ofSources sources).find? segments = some d)
    (e : Declaration) : ¬ (ofSources sources).SuppliedByGlob d.segments e := by
  rintro ⟨above, name, s, heq, hs, hdeclares, -⟩
  obtain ⟨s', hs', hlocal⟩ := hasLocal_of_find? hd
  obtain ⟨habove, hname⟩ := List.append_inj' heq rfl
  obtain rfl := (List.cons.inj hname).1
  have hmodule : d.module = ⟨above⟩ := by rw [← habove]
  rw [hmodule] at hs'
  obtain rfl := Option.some.inj (hs.symm.trans hs')
  simp [Scope.declares, hlocal] at hdeclares

end OfSources

/-! ## The exact condition -/

/-- A visible path can be named by the whole crate exactly if it is sound. A type without a visible
path gets no builder, and neither does one with a field of a type without one: the chain of a type
is only gathered if every path that it takes into the code is a visible one. -/
theorem nameable_iff_sound (sources : SourceSet) :
    (∀ segments path, (ofSources sources).visiblePath? segments = some path →
      ((ofSources sources).Nameable path ↔ (ofSources sources).Sound segments path))
    ∧ ∀ d : Declaration, d.generic = false →
      ((ofSources sources).visiblePath? d.segments = none →
        FieldChain.ofDecl (ofSources sources) d = .error (.notReachable d.pathString d.pathString))
      ∧ (∀ f ∈ d.fields,
        ((FieldChain.place (ofSources sources) d).anchor f.type).notes.unreachable ≠ [] →
        ∃ path, FieldChain.ofDecl (ofSources sources) d = .error (.notReachable d.pathString path))
      ∧ ∀ c, FieldChain.ofDecl (ofSources sources) d = .ok c →
        ∃ path ds, (ofSources sources).visiblePath? d.segments = some path
          ∧ c.target = cratePath path ∧ FieldChain.Lineage (ofSources sources) d ds
          ∧ c.fields = FieldChain.levelFields (ofSources sources) 0 ds
          ∧ ∀ e ∈ ds, ∀ f ∈ e.fields,
            ((FieldChain.place (ofSources sources) e).anchor f.type).notes.unreachable = [] := by
  refine ⟨fun segments path hvisible => ⟨fun h => ?_, fun h => ?_⟩, fun d hgeneric => ⟨?_, ?_, ?_⟩⟩
  · refine ⟨fun q hq _ => h.exported q hq, fun _ => h.exported path (List.prefix_refl path), ?_,
      fun _ => h.supplied⟩
    intro hhidden
    obtain ⟨e, -, -, name, rfl, -⟩ := isReexport_of_reexportOf? _
      (reexportOf?_of_hidden _ hhidden hvisible)
    exact h.visible _ (by simp) (List.prefix_refl _)
  · refine ⟨fun q hne hq => not_isPrivate_of_prefix _ hvisible h.own hne hq, ?_, ?_⟩
    · -- a re-export by name is exported, so only the modules on the way are left open
      intro q hq
      by_cases hpath : q = path
      · subst hpath
        cases hfind : (ofSources sources).find? segments with
        | none => exact h.unknown hfind
        | some d => exact not_onlyPrivatelyImported_of_find? hfind hvisible
      · exact h.modules q hq hpath
    · intro e he
      cases hfind : (ofSources sources).find? segments with
      | none => exact h.supplied (Or.inl hfind) e he
      | some d =>
          cases hdeclared : (ofSources sources).isPathVisible
              ((ofSources sources).canonical segments) with
          | false => exact h.supplied (Or.inr hdeclared) e he
          | true =>
              -- the type is emitted where it is declared, and no glob comes before an item
              have hpath : path = d.segments := by
                simp only [visiblePath?, hdeclared, if_true, Option.some.injEq] at hvisible
                rw [← hvisible, canonical_of_find? hfind]
              rw [hpath] at he
              exact absurd he (not_suppliedByGlob_segments hfind e)
  · exact FieldChain.ofDecl_of_not_visible hgeneric
  · intro f hf hunreachable
    exact FieldChain.ofDecl_of_unreachable_field hgeneric hf hunreachable
  · intro c hc
    obtain ⟨ds, target, htarget, -, hg⟩ := FieldChain.gathers_of_ofDecl _ hc
    obtain ⟨path, hpath, rfl⟩ := Option.map_eq_some_iff.mp htarget
    exact ⟨path, ds, hpath, hg.target, hg.lineage, hg.fields, hg.reachable⟩

/-! ## Types behind an exported glob

The module `a` exports a glob of its private module `hidden`, which has a type `T`. A glob hands out
what is visible where the glob stands, so it does not hand out a private `T`. -/

/-- The crate, with this visibility of `T`. -/
def globSources (vis : Code.Visibility) : SourceSet where
  files := [
    ⟨"src/lib.rs", .root, [], [.outlined .everywhere "a"]⟩,
    ⟨"src/a.rs", ⟨["a"]⟩, [], [.outlined .inherited "hidden", .exportedGlobOf "hidden"]⟩,
    ⟨"src/a/hidden.rs", ⟨["a", "hidden"]⟩, [], [.unitStruct vis "T"]⟩]

/-- The type behind the glob. -/
def globType : Declaration := (Declaration.ofStruct ⟨["a", "hidden"]⟩ ⟨"T", false⟩ [] false .unit).1

theorem suppliedByGlob_globType (vis : Code.Visibility) :
    (ofSources (globSources vis)).SuppliedByGlob ["a", "T"] globType :=
  ⟨["a"], "T", _, rfl, rfl, rfl, ⟨false, ["self", "hidden"]⟩, List.mem_singleton.mpr rfl,
    ["a", "hidden"], rfl, rfl⟩

/-- The glob counts as a way to a private type all the same. -/
theorem visiblePath?_not_nameable :
    ¬ ∀ (sources : SourceSet) (segments path : List String),
      (ofSources sources).visiblePath? segments = some path →
      (ofSources sources).Nameable path := by
  intro h
  have hnameable := h (globSources .inherited) ["a", "hidden", "T"] ["a", "T"] rfl
  exact hnameable.supplied globType (suppliedByGlob_globType .inherited) rfl

/-- A public type behind the glob leaves nothing open. -/
theorem sound_globType :
    (ofSources (globSources .everywhere)).Sound ["a", "hidden", "T"] ["a", "T"] := by
  have hd : (ofSources (globSources .everywhere)).find? ["a", "hidden", "T"] = some globType := rfl
  refine ⟨?_, ?_, ?_, ?_⟩
  · intro q hq hne
    have hmodule : ¬ (ofSources (globSources .everywhere)).OnlyPrivatelyImported ([] ++ ["a"]) :=
      not_onlyPrivatelyImported _ rfl (Or.inl rfl)
    rcases prefix_concat_cases ["a"] hq with rfl | hq
    · exact absurd rfl hne
    · rcases prefix_concat_cases [] hq with rfl | hq
      · exact hmodule
      · obtain rfl := List.prefix_nil.mp hq
        rintro ⟨above, name, s, hnil, -⟩
        simp at hnil
  · intro hnone
    rw [hd] at hnone
    cases hnone
  · intro _
    unfold IsPrivate
    decide +kernel
  · rintro - d ⟨above, name, s, hpath, hs, -, glob, hglob, target, htarget, hfind⟩
    obtain ⟨rfl, hname⟩ := List.append_inj' (show ["a"] ++ ["T"] = above ++ [name] from hpath) rfl
    obtain rfl := (List.cons.inj hname).1
    obtain rfl := Option.some.inj hs
    obtain rfl := List.mem_singleton.mp hglob
    obtain rfl := Resolution.crate.inj htarget
    obtain rfl := Option.some.inj hfind
    unfold IsPrivate
    decide +kernel

/-- So the crate can name it, and it gets a chain, unlike a type in a module that nothing hands
out. -/
theorem nameable_globType :
    (ofSources (globSources .everywhere)).visiblePath? ["a", "hidden", "T"] = some ["a", "T"]
    ∧ (ofSources (globSources .everywhere)).Nameable ["a", "T"]
    ∧ FieldChain.ofDecl (ofSources (globSources .everywhere))
        (.fieldless ⟨["a", "hidden", "deep"]⟩ ⟨"T", false⟩ .struct [] false)
      = .error (.notReachable "crate::a::hidden::deep::T" "crate::a::hidden::deep::T")
    ∧ ∃ c, FieldChain.ofDecl (ofSources (globSources .everywhere)) globType = .ok c
      ∧ c.target = cratePath ["a", "T"] := by
  obtain ⟨hnameable, hchain⟩ := nameable_iff_sound (globSources .everywhere)
  refine ⟨rfl, (hnameable _ _ rfl).mpr sound_globType, (hchain _ rfl).1 rfl, _, rfl, ?_⟩
  obtain ⟨path, ds, hpath, htarget, -⟩ := (hchain globType rfl).2.2 _ rfl
  obtain rfl := Option.some.inj (show some ["a", "T"] = some path from hpath)
  exact htarget

end BuilderForge.Registry
