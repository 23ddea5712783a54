import BuilderForge.Anchoring
import BuilderForge.Proofs.Resolution.Supply
import Mathlib.Data.Set.Finite.Basic
import Mathlib.Data.Finset.Dedup

set_option autoImplicit false

/-! # Whether an anchored path keeps its meaning

An anchored path begins with `crate` and goes on with the visible path of the type that the written
path names, so it means the same everywhere. It names that same type if the type is emitted under
the path it is declared at. Under a re-export it may name another one: the search for re-exports
asks whether an import leads to the type, and not whether something else of the name comes first in
the module that re-exports it. `EmittedPathNames` is the exact condition under which the meaning is
kept.
-/

namespace BuilderForge

open Code (Tree Segment Path)

namespace Place

/-! ## What becomes of a path -/

/-- Anchoring arguments only adds notes. -/
theorem snd_lastArguments (anchored : List (Segment × AnchorNotes)) (n : AnchorNotes) :
    ∃ more, ((lastArguments anchored).run n).2 = n.append more := by
  unfold lastArguments
  cases anchored.getLast? with
  | none =>
      refine ⟨{}, ?_⟩
      rw [AnchorNotes.append, List.append_nil, List.append_nil]
      rfl
  | some last => exact ⟨last.2, rfl⟩

/-- The names of a new path. -/
theorem names_rebuilt (names : List String) (args : Option Tree) :
    (rebuilt names args).map (fun s => s.ident.name) = asRead names := by
  induction names with
  | nil => rfl
  | cons name more ih =>
      cases more with
      | nil => rfl
      | cons next rest =>
          rw [rebuilt, List.map_cons, ih]
          · rfl
          · simp

variable (p : Place) {segments : List Segment} {names : List String}

/-- A path into the crate becomes the visible path of what it leads to. -/
theorem anchor_of_visible {visible : List String} (hself : beginsWithSelf segments = false)
    (hpath : p.registry.resolvePath p.module ⟨false, segments⟩ = .crate names)
    (hvisible : p.registry.visiblePath? names = some visible) :
    ∃ args, (p.anchor (.path .type false segments)).type
      = .path .type false (rebuilt ("crate" :: visible) args) := by
  refine ⟨((lastArguments (p.names segments)).run {}).1, ?_⟩
  simp only [anchor, tree, path, hself, change, hpath, hvisible]
  rfl

/-- A path into the crate without a visible path is noted. -/
theorem unreachable_of_not_visible (hself : beginsWithSelf segments = false)
    (hpath : p.registry.resolvePath p.module ⟨false, segments⟩ = .crate names)
    (hvisible : p.registry.visiblePath? names = none) :
    (p.anchor (.path .type false segments)).notes.unreachable ≠ [] := by
  obtain ⟨more, hmore⟩ := snd_lastArguments (p.names segments)
    ⟨[], [ModulePath.displaySegments names]⟩
  have hnotes : (p.anchor (.path .type false segments)).notes
      = ((lastArguments (p.names segments)).run ⟨[], [ModulePath.displaySegments names]⟩).2 := by
    simp only [anchor, tree, path, hself, change, hpath, hvisible]
    rfl
  rw [hnotes, hmore]
  simp [AnchorNotes.append]

/-- Without a type that `Self` stands for, a path that begins with it keeps its names. -/
theorem anchor_of_self (hself : beginsWithSelf segments = true) (hnone : p.self = none) :
    (p.anchor (.path .type false segments)).type
      = .path .type false ((p.names segments).map (·.1)) := by
  simp only [anchor, tree, path, hself, hnone]
  rfl

/-- Anchoring the arguments of a path keeps its names. -/
theorem names_names (segments : List Segment) :
    ((p.names segments).map (·.1)).map (fun s => s.ident.name)
      = segments.map fun s => s.ident.name := by
  induction segments with
  | nil => rfl
  | cons s segments ih =>
      rw [names, List.map_cons, List.map_cons, ih, List.map_cons]
      congr 1
      obtain ⟨i, args⟩ := s
      cases args <;> simp only [arguments] <;> rfl

theorem names_of_beginsWithSelf (h : beginsWithSelf segments = true) :
    ∃ rest, segments.map (fun s => s.ident.name) = "Self" :: rest := by
  cases segments with
  | nil => cases h
  | cons s rest =>
      obtain ⟨⟨name, raw⟩, args⟩ := s
      have htext : Code.Ident.text ⟨name, raw⟩ = "Self" := by
        simpa [beginsWithSelf, Code.Ident.isWritten] using h
      cases raw with
      | false => exact ⟨rest.map fun s => s.ident.name, by rw [← htext]; rfl⟩
      | true =>
          have hchars := congrArg String.toList htext
          simp [Code.Ident.text] at hchars

end Place

namespace Registry

/-! ## What a written path names -/

/-- A path with a leading colon leads out of the crate. -/
theorem leadingColon_of_resolvePath {r : Registry} {m : ModulePath} {path : Path}
    {segments : List String} (h : r.resolvePath m path = .crate segments) :
    path.leadingColon = false := by
  cases hl : path.leadingColon with
  | false => rfl
  | true =>
      rw [resolvePath, hl, resolveIn_leading] at h
      cases h

/-- A path written with `crate` in front names the same type in every module. -/
theorem resolveDecl?_crate (r : Registry) (m : ModulePath) {role : Code.PathRole}
    {segments : List Segment} {rest : List String}
    (hnames : segments.map (fun s => s.ident.name) = "crate" :: rest) :
    r.resolveDecl? m (.path role false segments) = r.find? rest := by
  have hpath : r.resolvePath m ⟨false, segments⟩ = .crate rest := r.resolvePath_crate m rfl hnames
  rw [resolveDecl?, hpath]
  rfl

/-- In a module without a scope, `Self` names no type. -/
theorem resolveDecl?_self_of_unscoped (r : Registry) {m : ModulePath} (hm : r.scope? m = none)
    {role : Code.PathRole} {segments : List Segment} {rest : List String}
    (hnames : segments.map (fun s => s.ident.name) = "Self" :: rest) :
    r.resolveDecl? m (.path role false segments) = none := by
  have hkeyword : isPathKeyword "Self" = false := by decide
  have hpath : (r.resolvePath m ⟨false, segments⟩).crate? = none := by
    rw [resolvePath, show Path.names ⟨false, segments⟩ = "Self" :: rest from hnames,
      resolveIn_unscoped hkeyword hm, crate?_resolveUnscoped]
  rw [resolveDecl?, hpath]
  rfl

/-- Some module has no scope. -/
theorem exists_unscoped (r : Registry) : ∃ m, r.scope? m = none := by
  have hinj : Function.Injective fun n => (⟨List.replicate n ""⟩ : ModulePath) := by
    intro a b hab
    have hlen := congrArg (fun m : ModulePath => m.segments.length) hab
    simpa using hlen
  -- there are infinitely many modules, and only finitely many scopes
  obtain ⟨m, ⟨n, rfl⟩, hnew⟩ := (Set.infinite_range_of_injective hinj).exists_notMem_finset
    (r.scopes.map (·.1)).toFinset
  refine ⟨⟨List.replicate n ""⟩, List.lookup_eq_none_iff.mpr ?_⟩
  intro e he
  rw [bne_iff_ne]
  intro heq
  exact hnew (List.mem_toFinset.mpr (List.mem_map.mpr ⟨e, he, heq.symm⟩))

/-! ## The exact condition -/

/-- In every module, the type `t` names `d`. -/
def NamesEverywhere (r : Registry) (t : Tree) (d : Declaration) : Prop :=
  ∀ m, r.resolveDecl? m t = some d

/-- A type is emitted under its declared path, whose names can be written as they are, or under a
path that nothing shadows it on. -/
def EmittedPathNames (r : Registry) (d : Declaration) : Prop :=
  ∃ emitted, r.visiblePath? d.segments = some emitted
    ∧ (emitted = d.segments ∧ asRead emitted = emitted
      ∨ ∃ above name, asRead emitted = above ++ [name] ∧ r.Unshadowed d above name)

section OfSources

variable {sources : SourceSet} {d : Declaration}

theorem find?_asRead_iff (hd : (ofSources sources).get? d.pathString = some d)
    {emitted : List String}
    (hvisible : (ofSources sources).visiblePath? d.segments = some emitted) :
    (ofSources sources).find? (asRead emitted) = some d
      ↔ (ofSources sources).EmittedPathNames d := by
  constructor
  · intro h
    rcases List.eq_nil_or_concat' (asRead emitted) with hnil | ⟨above, name, hconcat⟩
    · exfalso
      have hempty : emitted = [] := List.map_eq_nil_iff.mp hnil
      rcases canonical_or_isReexport_of_visiblePath? _ hvisible with
        ⟨hcanonical, -⟩ | ⟨e, -, -, name, hconcat, -⟩
      · rw [canonical_of_find? (find?_segments hd), hempty] at hcanonical
        simp [Declaration.segments] at hcanonical
      · simp [hempty] at hconcat
    · refine ⟨emitted, hvisible, Or.inr ⟨above, name, hconcat, ?_⟩⟩
      rw [← find?_concat_iff, ← hconcat]
      exact h
  · rintro ⟨emitted', hvisible', hnames⟩
    obtain rfl := Option.some.inj (hvisible.symm.trans hvisible')
    rcases hnames with ⟨hdeclared, hread⟩ | ⟨above, name, hconcat, hunshadowed⟩
    · rw [hread, hdeclared]
      exact find?_segments hd
    · rw [hconcat]
      exact (find?_concat_iff _ _ _ _).mpr hunshadowed

/-- The visible path of a type, written out, names that type everywhere under the condition. -/
theorem resolveDecl?_visible_iff (hd : (ofSources sources).get? d.pathString = some d)
    {emitted : List String} (hvisible : (ofSources sources).visiblePath? d.segments = some emitted)
    {segments : List Segment}
    (hnames : segments.map (fun s => s.ident.name) = "crate" :: asRead emitted) :
    (ofSources sources).NamesEverywhere (.path .type false segments) d
      ↔ (ofSources sources).EmittedPathNames d := by
  rw [← find?_asRead_iff hd hvisible]
  constructor
  · intro h
    rw [← resolveDecl?_crate _ ModulePath.root hnames]
    exact h ModulePath.root
  · intro h m
    rw [resolveDecl?_crate _ m hnames]
    exact h

/-- Anchoring keeps the meaning of a path exactly if the type it names is emitted under a path that
names it, unless the path begins with `Self`. The same goes for the path that the generator reaches
a type by. -/
theorem namesEverywhere_anchor_iff (sources : SourceSet) (d : Declaration) :
    (∀ m leading segments,
      (ofSources sources).resolveDecl? m (.path .type leading segments) = some d →
      ((Place.mk (ofSources sources) m none).anchor
        (.path .type leading segments)).notes.unreachable = [] →
      ((ofSources sources).NamesEverywhere ((Place.mk (ofSources sources) m none).anchor
          (.path .type leading segments)).type d
        ↔ Place.beginsWithSelf segments = false ∧ (ofSources sources).EmittedPathNames d))
    ∧ ∀ path, (ofSources sources).get? d.pathString = some d →
      (ofSources sources).reachablePath? d = some path →
      ((ofSources sources).NamesEverywhere (path.toTree .type) d
        ↔ (ofSources sources).EmittedPathNames d) := by
  constructor
  · intro m leading segments hnamed hreached
    obtain ⟨names, hpath, hfind⟩ := Option.bind_eq_some_iff.mp hnamed
    rw [Resolution.crate?_eq_some_iff] at hpath
    obtain rfl := leadingColon_of_resolvePath hpath
    have hd := get?_of_findWithin hfind
    by_cases hself : Place.beginsWithSelf segments = true
    · -- the path is left as it is, and means nothing where there is no scope
      obtain ⟨rest, hnames⟩ := Place.names_of_beginsWithSelf hself
      obtain ⟨m', hm'⟩ := exists_unscoped (ofSources sources)
      rw [Place.anchor_of_self _ hself rfl]
      constructor
      · intro h
        have hnothing := h m'
        rw [resolveDecl?_self_of_unscoped _ hm' ((Place.names_names _ segments).trans hnames)]
          at hnothing
        cases hnothing
      · rintro ⟨hfalse, -⟩
        rw [hself] at hfalse
        cases hfalse
    · rw [Bool.not_eq_true] at hself
      cases hvisible : (ofSources sources).visiblePath? names with
      | none =>
          exact absurd hreached (Place.unreachable_of_not_visible
            (Place.mk (ofSources sources) m none) hself hpath hvisible)
      | some emitted =>
          obtain ⟨args, htype⟩ := Place.anchor_of_visible
            (Place.mk (ofSources sources) m none) hself hpath hvisible
          rw [visiblePath?_of_find? hfind] at hvisible
          have hnames : (Place.rebuilt ("crate" :: emitted) args).map (fun s => s.ident.name)
              = "crate" :: asRead emitted := by
            rw [Place.names_rebuilt, asRead, List.map_cons, identFor_crate, asRead]
          rw [htype, resolveDecl?_visible_iff hd hvisible hnames]
          exact (and_iff_right hself).symm
  · intro path hd hpath
    obtain ⟨emitted, hvisible, rfl⟩ := Option.map_eq_some_iff.mp hpath
    have hnames : (cratePath emitted).segments.map (fun s => s.ident.name)
        = "crate" :: asRead emitted := names_cratePath emitted
    exact resolveDecl?_visible_iff hd hvisible hnames

end OfSources

/-! ## A shadowed re-export

The module `a` exports a glob of its private module `hidden`, which has a type `T`. If `a` has a `T`
of its own, that one comes first, and the glob does not supply the hidden one. -/

/-- The crate, with more items in the module `a`. -/
def hiddenSources (more : List Code.Item) : SourceSet where
  files := [
    ⟨"src/lib.rs", .root, [], [.outlined .everywhere "a"]⟩,
    ⟨"src/a.rs", ⟨["a"]⟩, [], [
      .outlined .inherited "hidden",
      .outlined .everywhere "out",
      .exportedGlobOf "hidden"] ++ more⟩,
    ⟨"src/a/hidden.rs", ⟨["a", "hidden"]⟩, [], [.unitStruct .everywhere "T"]⟩,
    ⟨"src/a/out.rs", ⟨["a", "out"]⟩, [], [
      .use [] .everywhere false
        (.path ⟨"super", false⟩ (.path ⟨"hidden", false⟩ (.name ⟨"T", false⟩)))]⟩]

/-- The type that the path `hidden::T` names in `a`. -/
def hiddenType : Declaration :=
  (Declaration.ofStruct ⟨["a", "hidden"]⟩ ⟨"T", false⟩ [] false .unit).1

def hiddenPath : List Segment := [.ofIdent ⟨"hidden", false⟩, .ofIdent ⟨"T", false⟩]

/-- With a `T` of its own, the type that `a` emits for `hidden::T` names that one in `a` itself, and
nothing is said about it. -/
theorem anchor_shadowed :
    ¬ ∀ (sources : SourceSet) (m m' : ModulePath) (segments : List Segment) (d : Declaration),
      ((ofSources sources).scope? m').isSome = true →
      (ofSources sources).resolveDecl? m (.path .type false segments) = some d →
      ((Place.mk (ofSources sources) m none).anchor
        (.path .type false segments)).notes.unreachable = [] →
      (ofSources sources).resolveDecl? m' ((Place.mk (ofSources sources) m none).anchor
        (.path .type false segments)).type = some d := by
  intro keeps
  have hsame := keeps (hiddenSources [.unitStruct .everywhere "T"]) ⟨["a"]⟩ ⟨["a"]⟩ hiddenPath
    hiddenType rfl rfl rfl
  have hother : (ofSources (hiddenSources [.unitStruct .everywhere "T"])).resolveDecl? ⟨["a"]⟩
      ((Place.mk (ofSources (hiddenSources [.unitStruct .everywhere "T"])) ⟨["a"]⟩ none).anchor
        (.path .type false hiddenPath)).type
      = some (Declaration.ofStruct ⟨["a"]⟩ ⟨"T", false⟩ [] false .unit).1 := by
    rfl
  have hmodule := congrArg (Option.map Declaration.module) (hsame.symm.trans hother)
  revert hmodule
  decide +kernel

/-- Without one, the glob supplies the hidden type, and the emitted path names it. -/
theorem emittedPathNames_hiddenType :
    (ofSources (hiddenSources [])).resolveDecl? ⟨["a"]⟩ (.path .type false hiddenPath)
      = some hiddenType
    ∧ (ofSources (hiddenSources [])).reachablePath? hiddenType = some (cratePath ["a", "T"])
    ∧ (ofSources (hiddenSources [])).EmittedPathNames hiddenType
    ∧ (ofSources (hiddenSources [])).NamesEverywhere ((cratePath ["a", "T"]).toTree .type)
        hiddenType := by
  obtain ⟨hwritten, hreached⟩ := namesEverywhere_anchor_iff (hiddenSources []) hiddenType
  have hemitted := ((hwritten ⟨["a"]⟩ false hiddenPath rfl rfl).mp fun m => rfl).2
  exact ⟨rfl, rfl, hemitted, (hreached (cratePath ["a", "T"]) rfl rfl).mpr hemitted⟩

end Registry

end BuilderForge
