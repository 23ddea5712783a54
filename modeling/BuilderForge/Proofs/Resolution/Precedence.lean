import BuilderForge.Proofs.Registry.Keys
import BuilderForge.Proofs.Resolution.Leading
import BuilderForge.Proofs.Resolution.Supply

set_option autoImplicit false

/-! # What comes first in a look-up

In a module, an item comes before an import of its name, and both come before the globs. The look-up
of a path asks the registered types first, and an item that is no type, such as the alias of a type
or a trait, is not among them; so the look-up goes on to the imports and the globs. It goes on to
the globs as well where an import leads out of the crate. Nothing else goes wrong: the order is kept
exactly if nothing stands behind such a name (`looksUpInOrder_iff`).
-/

namespace BuilderForge

namespace Registry

variable (r : Registry)

/-! ## Behind the types of a module -/

/-- What a path leads to in a module that has no type of its last name: what the import of the name
leads to if it leads into the crate, and else what the globs supply. -/
def behind? (fuel : Nat) (above : List String) (name : String) : Option Declaration :=
  match r.importTarget? above name with
  | some target => r.findWithin fuel target
  | none => r.globbed? fuel above name

theorem findWithin_of_get?_none {above : List String} {name : String}
    (h : r.get? (ModulePath.displaySegments (above ++ [name])) = none) (fuel : Nat) :
    r.findWithin (fuel + 1) (above ++ [name]) = r.behind? fuel above name := by
  rw [findWithin_concat, h]
  rfl

theorem findWithin_of_get?_some {segments : List String} {d : Declaration}
    (h : r.get? (ModulePath.displaySegments segments) = some d) (fuel : Nat) :
    r.findWithin fuel segments = some d := by
  rw [findWithin.eq_def, h]

section InScope

variable {r} {m : ModulePath} {s : Scope} (hs : r.scope? m = some s)

include hs

theorem importTarget?_of_import {name : String} {path : ImportPath}
    (himport : s.import? name = some path) :
    r.importTarget? m.segments name = (r.resolveImport m path).crate? := by
  rw [importTarget?, show r.scope? ⟨m.segments⟩ = some s from hs, Option.bind_some, himport]
  rfl

theorem importTarget?_of_not_import {name : String} (himport : s.import? name = none) :
    r.importTarget? m.segments name = none := by
  rw [importTarget?, show r.scope? ⟨m.segments⟩ = some s from hs, Option.bind_some, himport]
  rfl

end InScope

theorem behind?_of_target {fuel : Nat} {above : List String} {name : String} {target : List String}
    (h : r.importTarget? above name = some target) :
    r.behind? fuel above name = r.findWithin fuel target := by
  rw [behind?, h]

theorem behind?_of_no_target {fuel : Nat} {above : List String} {name : String}
    (h : r.importTarget? above name = none) :
    r.behind? fuel above name = r.globbed? fuel above name := by
  rw [behind?, h]

theorem behind?_eq_none_iff {m : ModulePath} {s : Scope} (hs : r.scope? m = some s) {name : String}
    {fuel : Nat} : r.behind? fuel m.segments name = none ↔
    (∀ target, r.importTarget? m.segments name = some target → ¬ r.Supplied fuel target)
      ∧ (r.importTarget? m.segments name = none → ¬ r.GlobSupplies fuel m s name) := by
  cases htarget : r.importTarget? m.segments name with
  | some target =>
      rw [behind?_of_target r htarget, findWithin_eq_none_iff]
      simp
  | none =>
      rw [behind?_of_no_target r htarget, globbed?_eq_none_iff hs]
      simp

/-! ## The order and its exact condition -/

/-- In a module, a path that follows at most `fuel` re-exports behind it is looked up in order. -/
structure LooksUpInOrder (fuel : Nat) (m : ModulePath) (s : Scope) (name : String) : Prop where
  /-- A name of an item leads to the type declared under it, or nowhere. -/
  ofItem : s.hasLocal name = true → ∀ d,
    r.findWithin (fuel + 1) (m.segments ++ [name]) = some d → d.segments = m.segments ++ [name]
  /-- Any other name of an import leads to what the import leads to, and nowhere if the import leads
  out of the crate. -/
  ofImport : s.hasLocal name = false → ∀ path, s.import? name = some path →
    r.findWithin (fuel + 1) (m.segments ++ [name])
      = (r.resolveImport m path).crate?.bind (r.findWithin fuel)
  /-- Any other name leads to what the first glob leads to from which there is a way to a type. -/
  ofGlobs : s.declares name = false → ∀ d,
    r.findWithin (fuel + 1) (m.segments ++ [name]) = some d ↔ r.GlobLeads d fuel m s name

/-- There is no way to a type behind a name that a module has already and declares no type of. -/
structure NothingBehind (fuel : Nat) (m : ModulePath) (s : Scope) (name : String) : Prop where
  /-- There is none from an import of the name of an item. -/
  imported : s.hasLocal name = true →
    r.get? (ModulePath.displaySegments (m.segments ++ [name])) = none →
    ∀ target, r.importTarget? m.segments name = some target → ¬ r.Supplied fuel target
  /-- There is none from a glob, where no import of the name leads into the crate. -/
  globbed : s.declares name = true →
    r.get? (ModulePath.displaySegments (m.segments ++ [name])) = none →
    r.importTarget? m.segments name = none → ¬ r.GlobSupplies fuel m s name

section OfSources

variable {sources : SourceSet} {m : ModulePath} {s : Scope} {name : String} {fuel : Nat}

/-- A type that a path leads to and that is declared at that path is kept under its text. -/
theorem get?_ne_none_of_segments {segments : List String} {d : Declaration}
    (h : (ofSources sources).findWithin fuel segments = some d) (hd : d.segments = segments) :
    (ofSources sources).get? (ModulePath.displaySegments segments) ≠ none := by
  have hget : (ofSources sources).get? d.pathString = some d := get?_of_findWithin h
  rw [Declaration.pathString_eq_displaySegments, hd] at hget
  rw [hget]
  exact Option.some_ne_none d

variable (hplain : sources.IsPlain) (hs : (ofSources sources).scope? m = some s)
  (hname : IsPlain name)

include hplain hs hname

/-- A name leads to the type declared under it or nowhere exactly if nothing stands behind it. -/
theorem forall_segments_eq_iff :
    (∀ d, (ofSources sources).findWithin (fuel + 1) (m.segments ++ [name]) = some d →
        d.segments = m.segments ++ [name])
      ↔ ((ofSources sources).get? (ModulePath.displaySegments (m.segments ++ [name])) = none →
        (ofSources sources).behind? fuel m.segments name = none) := by
  constructor
  · intro h hget
    rw [← findWithin_of_get?_none _ hget]
    cases hfind : (ofSources sources).findWithin (fuel + 1) (m.segments ++ [name]) with
    | none => rfl
    | some d => exact absurd hget (get?_ne_none_of_segments hfind (h d hfind))
  · intro h d hfind
    cases hget : (ofSources sources).get? (ModulePath.displaySegments (m.segments ++ [name])) with
    | some e =>
        have he : (ofSources sources).findWithin (fuel + 1) (m.segments ++ [name]) = some e :=
          findWithin_of_get?_some _ hget _
        obtain rfl : e = d := Option.some.inj (he.symm.trans hfind)
        exact segments_of_get?_concat hplain hs hname hget
    | none =>
        rw [findWithin_of_get?_none _ hget, h hget] at hfind
        cases hfind

/-- The order is kept exactly if nothing stands behind a name that the module has. -/
theorem looksUpInOrder_iff_nothingBehind :
    (ofSources sources).LooksUpInOrder fuel m s name
      ↔ (ofSources sources).NothingBehind fuel m s name := by
  constructor
  · intro h
    have hitem (hlocal : s.hasLocal name = true)
        (hget : (ofSources sources).get? (ModulePath.displaySegments (m.segments ++ [name])) = none) :=
      (behind?_eq_none_iff _ hs).mp
        ((forall_segments_eq_iff hplain hs hname).mp (h.ofItem hlocal) hget)
    refine ⟨fun hlocal hget => (hitem hlocal hget).1, fun hdeclares hget htarget => ?_⟩
    cases hlocal : s.hasLocal name with
    | true => exact (hitem hlocal hget).2 htarget
    | false =>
        rw [Scope.declares, hlocal, Bool.false_or, Option.isSome_iff_exists] at hdeclares
        obtain ⟨path, hpath⟩ := hdeclares
        have hout : ((ofSources sources).resolveImport m path).crate? = none := by
          rw [← importTarget?_of_import hs hpath, htarget]
        rw [← globbed?_eq_none_iff hs]
        calc (ofSources sources).globbed? fuel m.segments name
            = (ofSources sources).behind? fuel m.segments name :=
              (behind?_of_no_target _ htarget).symm
          _ = (ofSources sources).findWithin (fuel + 1) (m.segments ++ [name]) :=
              (findWithin_of_get?_none _ hget fuel).symm
          _ = none := by rw [h.ofImport hlocal path hpath, hout, Option.bind_none]
  · intro h
    refine ⟨fun hlocal => ?_, fun hlocal path hpath => ?_, fun hdeclares d => ?_⟩
    · exact (forall_segments_eq_iff hplain hs hname).mpr fun hget => (behind?_eq_none_iff _ hs).mpr
        ⟨h.imported hlocal hget, h.globbed (Scope.declares_of_hasLocal hlocal) hget⟩
    · have hget := get?_eq_none_of_not_local hplain hs hname hlocal
      rw [findWithin_of_get?_none _ hget, ← importTarget?_of_import hs hpath]
      cases htarget : (ofSources sources).importTarget? m.segments name with
      | some target => exact behind?_of_target _ htarget
      | none =>
          rw [behind?_of_no_target _ htarget, Option.bind_none, globbed?_eq_none_iff hs]
          exact h.globbed (Scope.declares_of_import hpath) hget htarget
    · -- a name that the module does not have is no type of it either
      obtain ⟨hlocal, himport⟩ := (s.declares_eq_false_iff name).mp hdeclares
      rw [findWithin_of_get?_none _ (get?_eq_none_of_not_local hplain hs hname hlocal),
        behind?_of_no_target _ (importTarget?_of_not_import hs himport), globbed?_eq_some_iff hs]

/-- **Items and imports come before globs, as far as nothing stands behind them.** The look-up of a
name in a module keeps the order at every depth exactly if there is no way to a type from an import
or a glob behind the name of an item that is no type, nor from a glob behind an import that leads out
of the crate. The path of an item is its own canonical path under the same condition. -/
theorem looksUpInOrder_iff :
    (∀ fuel, (ofSources sources).LooksUpInOrder fuel m s name
        ↔ (ofSources sources).NothingBehind fuel m s name)
      ∧ (s.hasLocal name = true →
        ((ofSources sources).canonical (m.segments ++ [name]) = m.segments ++ [name]
          ↔ (ofSources sources).NothingBehind (reexportDepth - 1) m s name)) := by
  refine ⟨fun fuel => looksUpInOrder_iff_nothingBehind hplain hs hname, fun hlocal => ?_⟩
  have hcanonical : (ofSources sources).canonical (m.segments ++ [name]) = m.segments ++ [name]
      ↔ ∀ d,
        (ofSources sources).findWithin (reexportDepth - 1 + 1) (m.segments ++ [name]) = some d →
        d.segments = m.segments ++ [name] := by
    rw [canonical, find?, show reexportDepth - 1 + 1 = reexportDepth from rfl]
    cases hfind : (ofSources sources).findWithin reexportDepth (m.segments ++ [name]) with
    | none => simp
    | some d => simp
  rw [hcanonical, ← looksUpInOrder_iff_nothingBehind hplain hs hname]
  constructor
  · intro h
    refine ⟨fun _ => h, fun hfalse => ?_, fun hfree => ?_⟩
    · rw [hlocal] at hfalse
      cases hfalse
    · rw [Scope.declares_of_hasLocal hlocal] at hfree
      cases hfree
  · exact fun h => h.ofItem hlocal

end OfSources

/-! ## A color of two modules

The module `shop` imports `Color` from `paint` and has a glob of `stock`, which has a `Color` too.
-/

/-- The crate, with more items in the module `shop`. -/
def shopSources (more : List Code.Item) : SourceSet where
  files := [
    ⟨"src/lib.rs", .root, [], ["paint", "shop", "stock"].map (.outlined .everywhere)⟩,
    ⟨"src/paint.rs", ⟨["paint"]⟩, [], [.unitStruct .everywhere "Color"]⟩,
    ⟨"src/shop.rs", ⟨["shop"]⟩, [], .globOf "stock" :: more⟩,
    ⟨"src/stock.rs", ⟨["stock"]⟩, [], [.unitStruct .everywhere "Color"]⟩]

/-- The type of `paint`. -/
def paintColor : Declaration :=
  (Declaration.ofStruct ⟨["paint"]⟩ ⟨"Color", false⟩ [] false .unit).1

/-- The import comes before the glob. -/
theorem looksUpInOrder_importedColor :
    ∃ s, (ofSources (shopSources [.importOf ["crate", "paint"] "Color"])).scope? ⟨["shop"]⟩ = some s
      ∧ (ofSources (shopSources [.importOf ["crate", "paint"] "Color"])).LooksUpInOrder
        (reexportDepth - 1) ⟨["shop"]⟩ s "Color"
      ∧ (ofSources (shopSources [.importOf ["crate", "paint"] "Color"])).find? ["shop", "Color"]
        = some paintColor := by
  have hplain : (shopSources [.importOf ["crate", "paint"] "Color"]).IsPlain :=
    ⟨by decide +kernel, by decide +kernel⟩
  have hname : IsPlain "Color" := by decide +kernel
  have hscope : ∃ s, (ofSources (shopSources [.importOf ["crate", "paint"] "Color"])).scope?
      ⟨["shop"]⟩ = some s ∧ s.hasLocal "Color" = false := ⟨_, rfl, rfl⟩
  obtain ⟨s, hs, hlocal⟩ := hscope
  refine ⟨s, hs, ((looksUpInOrder_iff hplain hs hname).1 _).mpr ⟨fun hitem => ?_, ?_⟩, rfl⟩
  · rw [hlocal] at hitem
    cases hitem
  · -- the import leads into the crate
    intro _ _ htarget
    cases htarget

/-- The name of an alias leads to the type that the glob supplies. -/
theorem not_looksUpInOrder_alias :
    ¬ ∀ (sources : SourceSet) (m : ModulePath) (s : Scope) (name : String),
      sources.IsPlain → IsPlain name → (ofSources sources).scope? m = some s →
      (ofSources sources).LooksUpInOrder (reexportDepth - 1) m s name := by
  intro h
  have hplain : (shopSources [.typeless .everywhere "Color"]).IsPlain :=
    ⟨by decide +kernel, by decide +kernel⟩
  have horder := h (shopSources [.typeless .everywhere "Color"]) ⟨["shop"]⟩ _ "Color" hplain
    (by decide +kernel) rfl
  have hstock : (ofSources (shopSources [.typeless .everywhere "Color"])).findWithin
      (reexportDepth - 1 + 1) ["shop", "Color"]
      = some (Declaration.ofStruct ⟨["stock"]⟩ ⟨"Color", false⟩ [] false .unit).1 := rfl
  have hsegments := horder.ofItem rfl _ hstock
  revert hsegments
  decide +kernel

end Registry

end BuilderForge
