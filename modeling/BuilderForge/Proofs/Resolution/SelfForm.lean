import BuilderForge.Proofs.Resolution.Precedence
import BuilderForge.Proofs.Resolution.Supply

set_option autoImplicit false

/-! # A bare name and its form with `self`

A name should mean one thing, written bare or behind `self::`. Two searches look for it: a bare name
is resolved first, by which an import out of the crate is final and a glob counts only if its module
has the name itself, while the form with `self` is looked up, through globs of globs and past
imports that lead out of the crate. For an item of the module there is nothing to search. For other
names `FoundAlike` says which ways along imports and globs have to agree, and that is all
(`resolveDecl?_bare_eq_self_iff`). Types that are found directly leave them no choice
(`FoundDirectly`).
-/

namespace BuilderForge

open Code (Segment)

namespace Registry

variable (r : Registry)

/-! ## What the two searches find -/

/-- The type that an import of a module leads to, if at most `fuel - 1` imports are followed. -/
def importedType? (fuel : Nat) (m : ModulePath) (path : ImportPath) : Option Declaration :=
  (r.resolveIn fuel m path.leadingColon path.segments .import).crate?.bind r.find?

/-- The type that a bare name means in a module, if at most `fuel - 1` imports are followed. -/
def meant? (fuel : Nat) (m : ModulePath) (name : String) : Option Declaration :=
  (r.resolveIn fuel m false [name] .type).crate?.bind r.find?

theorem resolveDecl?_bare (m : ModulePath) {name : String} {role : Code.PathRole}
    {bare : List Segment} (hbare : bare.map (fun x => x.ident.name) = [name]) :
    r.resolveDecl? m (.path role false bare) = r.meant? (importDepth + 1) m name := by
  have hnames : Code.Path.names ⟨false, bare⟩ = [name] := hbare
  rw [resolveDecl?, resolvePath, hnames]
  rfl

theorem resolveDecl?_self (m : ModulePath) {name : String} {role : Code.PathRole}
    {self : List Segment} (hself : self.map (fun x => x.ident.name) = ["self", name]) :
    r.resolveDecl? m (.path role false self) = r.find? (m.segments ++ [name]) := by
  have hnames : Code.Path.names ⟨false, self⟩ = ["self", name] := hself
  rw [resolveDecl?, resolvePath, hnames]
  rfl

section InScope

variable {r} {m : ModulePath} {s : Scope} {name : String} {fuel : Nat}
variable (hname : isPathKeyword name = false) (hs : r.scope? m = some s)

include hname hs

theorem meant?_of_local (hlocal : s.hasLocal name = true) :
    r.meant? (fuel + 1) m name = r.find? (m.segments ++ [name]) := by
  rw [meant?, resolveIn_local hname hs hlocal]
  rfl

theorem meant?_of_import (hlocal : s.hasLocal name = false) {path : ImportPath}
    (himport : s.import? name = some path) :
    r.meant? (fuel + 1) m name = r.importedType? fuel m path := by
  rw [meant?, resolveIn_import hname hs hlocal himport, Resolution.append_nil]
  rfl

theorem meant?_of_supplier (hdeclares : s.declares name = false) {target : List String}
    (hsupplier : r.supplier? fuel m name = some target) :
    r.meant? (fuel + 1) m name = r.meant? fuel ⟨target⟩ name := by
  rw [meant?, resolveIn_supplied hname hs hdeclares hsupplier, meant?]

theorem meant?_of_no_supplier (hdeclares : s.declares name = false)
    (hsupplier : r.supplier? fuel m name = none) : r.meant? (fuel + 1) m name = none := by
  rw [meant?, resolveIn_unsupplied hname hs hdeclares hsupplier, crate?_resolveUnscoped,
    Option.bind_none]

end InScope

/-! ## The exact condition -/

/-- A name that a module has leads to the type `d`: from there if it is an item, and else from where
its import points to if at most `fuel - 1` imports are followed. -/
inductive LeadsFrom (d : Declaration) (fuel : Nat) (m : ModulePath) (s : Scope) (name : String) :
    Prop where
  | item (hlocal : s.hasLocal name = true) (h : r.Leads d reexportDepth (m.segments ++ [name]))
  | imported (hlocal : s.hasLocal name = false) (path : ImportPath)
      (himport : s.import? name = some path) (target : List String)
      (htarget : r.resolveIn fuel m path.leadingColon path.segments .import = .crate target)
      (h : r.Leads d reexportDepth target)

/-- The ways from a bare name and from its form with `self` lead to one type, or none. -/
structure FoundAlike (m : ModulePath) (s : Scope) (name : String) : Prop where
  /-- An import that leads into the crate leads to the same type with one import less and one
  re-export more that may be followed. -/
  ofImport : s.hasLocal name = false → ∀ target, r.importTarget? m.segments name = some target →
    ∀ d, r.LeadsFrom d importDepth m s name ↔ r.Leads d (reexportDepth - 1) target
  /-- The name of an import that leads out of the crate leads to what the globs lead to. -/
  ofOutside : s.hasLocal name = false → (s.import? name).isSome = true →
    r.importTarget? m.segments name = none →
    ∀ d, r.LeadsFrom d importDepth m s name ↔ r.GlobLeads d (reexportDepth - 1) m s name
  /-- If no glob leads to a module that has the name itself, there is no way from one to a type. -/
  ofNone : s.declares name = false → (∀ g ∈ s.globs, r.gives? importDepth m name g = none) →
    ¬ r.GlobSupplies (reexportDepth - 1) m s name
  /-- Otherwise the globs lead to what the name leads to from the first module that has it. -/
  ofSupplier : s.declares name = false → ∀ before g after target, s.globs = before ++ g :: after →
    (∀ x ∈ before, r.gives? importDepth m name x = none) →
    r.gives? importDepth m name g = some target → ∀ t, r.scope? ⟨target⟩ = some t →
    ∀ d, r.LeadsFrom d (importDepth - 1) ⟨target⟩ t name
      ↔ r.GlobLeads d (reexportDepth - 1) m s name

section InScope

variable {r} {m : ModulePath} {s : Scope} {name : String} {fuel : Nat} {d : Declaration}
variable (hs : r.scope? m = some s)

include hs

theorem declares_of_importTarget? {target : List String}
    (h : r.importTarget? m.segments name = some target) : s.declares name = true := by
  cases himport : s.import? name with
  | some path => exact Scope.declares_of_import himport
  | none =>
      rw [importTarget?_of_not_import hs himport] at h
      cases h

/-- What a name of the module means is what it leads to from there. -/
theorem meant?_eq_some_iff (hname : isPathKeyword name = false) (hdeclares : s.declares name = true) :
    r.meant? (fuel + 1) m name = some d ↔ r.LeadsFrom d fuel m s name := by
  cases hlocal : s.hasLocal name with
  | true =>
      rw [meant?_of_local hname hs hlocal, find?_eq_some_iff]
      constructor
      · exact .item hlocal
      · intro h
        cases h with
        | item _ h => exact h
        | imported hfalse =>
            rw [hlocal] at hfalse
            cases hfalse
  | false =>
      rw [Scope.declares, hlocal, Bool.false_or, Option.isSome_iff_exists] at hdeclares
      obtain ⟨path, hpath⟩ := hdeclares
      rw [meant?_of_import hname hs hlocal hpath, importedType?, Option.bind_eq_some_iff]
      simp only [Resolution.crate?_eq_some_iff, find?_eq_some_iff]
      constructor
      · rintro ⟨target, htarget, h⟩
        exact .imported hlocal path hpath target htarget h
      · intro h
        cases h with
        | item htrue =>
            rw [hlocal] at htrue
            cases htrue
        | imported _ path' hpath' target htarget h =>
            obtain rfl := Option.some.inj (hpath.symm.trans hpath')
            exact ⟨target, htarget, h⟩

end InScope

/-! ## Types that are found directly -/

/-- A path leads to a type through this many imports, one after the other. -/
inductive LeadsTo (d : Declaration) : Nat → List String → Prop where
  | here {segments : List String}
      (htype : r.get? (ModulePath.displaySegments segments) = some d) : LeadsTo d 0 segments
  | through {n : Nat} {above target : List String} {name : String}
      (hget : r.get? (ModulePath.displaySegments (above ++ [name])) = none)
      (himport : r.importTarget? above name = some target) (h : LeadsTo d n target) :
      LeadsTo d (n + 1) (above ++ [name])

/-- The first glob of a module that supplies anything under a name leads to this module, also if one
more import is followed. -/
def FirstGlob (m : ModulePath) (s : Scope) (name : String) (target : List String) : Prop :=
  ∃ before glob after, s.globs = before ++ glob :: after
    ∧ (∀ g ∈ before, r.gives? importDepth m name g = none
      ∧ ∀ found, r.resolveImport m g = .crate found →
        r.findWithin (reexportDepth - 1) (found ++ [name]) = none)
    ∧ r.resolveIn importDepth m glob.leadingColon glob.segments .import = .crate target
    ∧ r.resolveImport m glob = .crate target

/-- A type stands where the first thing that supplies its name points to, or imports lead on to it
from there. -/
inductive FoundDirectly (m : ModulePath) (s : Scope) (name : String) (d : Declaration) : Prop where
  /-- It is an item of the module. -/
  | item (hlocal : s.hasLocal name = true)
      (htype : r.get? (ModulePath.displaySegments (m.segments ++ [name])) = some d)
  /-- An import of the module leads to it. -/
  | imported (hlocal : s.hasLocal name = false) (path : ImportPath)
      (himport : s.import? name = some path) (target : List String)
      (hshort : r.resolveIn importDepth m path.leadingColon path.segments .import = .crate target)
      (hlong : r.resolveImport m path = .crate target) (n : Nat) (hn : n < reexportDepth)
      (hleads : r.LeadsTo d n target)
  /-- It is an item of the module of the first glob that supplies anything under the name. -/
  | globbed (hdeclares : s.declares name = false) (target : List String)
      (hfirst : r.FirstGlob m s name target) (t : Scope) (hscope : r.scope? ⟨target⟩ = some t)
      (hitem : t.hasLocal name = true)
      (htype : r.get? (ModulePath.displaySegments (target ++ [name])) = some d)
  /-- An import of that module leads to it. -/
  | reexported (hdeclares : s.declares name = false) (above : List String)
      (hfirst : r.FirstGlob m s name above) (t : Scope) (hscope : r.scope? ⟨above⟩ = some t)
      (hitem : t.hasLocal name = false) (path : ImportPath) (himport : t.import? name = some path)
      (target : List String)
      (hshort : r.resolveIn (importDepth - 1) ⟨above⟩ path.leadingColon path.segments .import
        = .crate target)
      (hlong : r.resolveImport ⟨above⟩ path = .crate target) (n : Nat) (hn : n + 1 < reexportDepth)
      (hleads : r.LeadsTo d n target)

variable {r} {d : Declaration}

/-- Imports that lead to a type lead to it at every depth that follows them all. -/
theorem LeadsTo.findWithin {n : Nat} {segments : List String} (h : r.LeadsTo d n segments)
    {fuel : Nat} (hn : n ≤ fuel) : r.findWithin fuel segments = some d := by
  induction h generalizing fuel with
  | here htype => exact findWithin_of_get?_some r htype fuel
  | through hget himport _ ih =>
      obtain ⟨fuel, rfl⟩ : ∃ k, fuel = k + 1 := ⟨fuel - 1, by omega⟩
      rw [findWithin_of_get?_none r hget, behind?_of_target r himport]
      exact ih (by omega)

section FirstGlob

variable {m : ModulePath} {s : Scope} {name : String} {target : List String}
  (hs : r.scope? m = some s) (hfirst : r.FirstGlob m s name target)

include hs hfirst

/-- The globs supply what the module of the first of them leads to. -/
theorem FirstGlob.globbed?_eq (hd : r.findWithin (reexportDepth - 1) (target ++ [name]) = some d) :
    r.globbed? (reexportDepth - 1) m.segments name = some d := by
  obtain ⟨before, glob, after, hglobs, hbefore, -, hlong⟩ := hfirst
  have hnone : ∀ g ∈ before, ∀ found, r.resolveImport m g = .crate found →
      ¬ r.Supplied (reexportDepth - 1) (found ++ [name]) := fun g hg found hfound =>
    (findWithin_eq_none_iff _ _).mp ((hbefore g hg).2 found hfound)
  rw [globbed?_eq_some_iff hs]
  exact ⟨before, glob, after, target, hglobs, hnone, hlong, (findWithin_eq_some_iff _ _).mp hd⟩

/-- A module that has the name supplies it, if the first glob leads there. -/
theorem FirstGlob.supplier?_eq {t : Scope} (ht : r.scope? ⟨target⟩ = some t)
    (hname : t.declares name = true) : r.supplier? importDepth m name = some target := by
  obtain ⟨before, glob, after, hglobs, hbefore, hshort, -⟩ := hfirst
  have hgives : r.gives? importDepth m name glob = some target :=
    gives?_eq_some_iff.mpr ⟨hshort, t, ht, hname⟩
  rw [supplier?_of_scope hs, hglobs, List.findSome?_append,
    List.findSome?_eq_none_iff.mpr fun g hg => (hbefore g hg).1, Option.none_or,
    List.findSome?_cons, hgives]

end FirstGlob

section OfSources

variable {sources : SourceSet} {m : ModulePath} {s : Scope} {name : String}
variable (hplain : sources.IsPlain) (hs : (ofSources sources).scope? m = some s)
  (hname : IsPlain name) (hkeyword : isPathKeyword name = false)

include hplain hs hname

/-- A name that is no item of a module is looked up behind the types of the module. -/
theorem find?_of_not_local (hlocal : s.hasLocal name = false) :
    (ofSources sources).find? (m.segments ++ [name])
      = (ofSources sources).behind? (reexportDepth - 1) m.segments name :=
  findWithin_of_get?_none _ (get?_eq_none_of_not_local hplain hs hname hlocal) (reexportDepth - 1)

/-- A name that the module does not have is looked up in its globs. -/
theorem find?_of_free (hdeclares : s.declares name = false) :
    (ofSources sources).find? (m.segments ++ [name])
      = (ofSources sources).globbed? (reexportDepth - 1) m.segments name := by
  obtain ⟨hlocal, himport⟩ := (s.declares_eq_false_iff name).mp hdeclares
  rw [find?_of_not_local hplain hs hname hlocal]
  exact behind?_of_no_target _ (importTarget?_of_not_import hs himport)

include hkeyword

/-! ### One form against the other -/

theorem meant?_eq_find?_iff_of_target (hlocal : s.hasLocal name = false) {target : List String}
    (htarget : (ofSources sources).importTarget? m.segments name = some target) :
    (ofSources sources).meant? (importDepth + 1) m name
        = (ofSources sources).find? (m.segments ++ [name])
      ↔ ∀ d, (ofSources sources).LeadsFrom d importDepth m s name
        ↔ (ofSources sources).Leads d (reexportDepth - 1) target := by
  rw [find?_of_not_local hplain hs hname hlocal, behind?_of_target _ htarget, Option.ext_iff]
  refine forall_congr' fun d => ?_
  rw [meant?_eq_some_iff hs hkeyword (declares_of_importTarget? hs htarget),
    findWithin_eq_some_iff]

theorem meant?_eq_find?_iff_of_outside (hlocal : s.hasLocal name = false)
    (himport : (s.import? name).isSome = true)
    (htarget : (ofSources sources).importTarget? m.segments name = none) :
    (ofSources sources).meant? (importDepth + 1) m name
        = (ofSources sources).find? (m.segments ++ [name])
      ↔ ∀ d, (ofSources sources).LeadsFrom d importDepth m s name
        ↔ (ofSources sources).GlobLeads d (reexportDepth - 1) m s name := by
  obtain ⟨path, hpath⟩ := Option.isSome_iff_exists.mp himport
  rw [find?_of_not_local hplain hs hname hlocal, behind?_of_no_target _ htarget, Option.ext_iff]
  refine forall_congr' fun d => ?_
  rw [meant?_eq_some_iff hs hkeyword (Scope.declares_of_import hpath), globbed?_eq_some_iff hs]

theorem meant?_eq_find?_iff_of_no_supplier (hdeclares : s.declares name = false)
    (hsupplier : (ofSources sources).supplier? importDepth m name = none) :
    (ofSources sources).meant? (importDepth + 1) m name
        = (ofSources sources).find? (m.segments ++ [name])
      ↔ ¬ (ofSources sources).GlobSupplies (reexportDepth - 1) m s name := by
  rw [meant?_of_no_supplier hkeyword hs hdeclares hsupplier, find?_of_free hplain hs hname hdeclares,
    eq_comm, globbed?_eq_none_iff hs]

theorem meant?_eq_find?_iff_of_supplier (hdeclares : s.declares name = false)
    {target : List String} (hsupplier : (ofSources sources).supplier? importDepth m name = some target)
    {t : Scope} (ht : (ofSources sources).scope? ⟨target⟩ = some t) :
    (ofSources sources).meant? (importDepth + 1) m name
        = (ofSources sources).find? (m.segments ++ [name])
      ↔ ∀ d, (ofSources sources).LeadsFrom d (importDepth - 1) ⟨target⟩ t name
        ↔ (ofSources sources).GlobLeads d (reexportDepth - 1) m s name := by
  have hhas : t.declares name = true := by
    obtain ⟨t', ht', hhas⟩ := declares_of_supplier? hsupplier
    rwa [Option.some.inj (ht.symm.trans ht')]
  rw [meant?_of_supplier hkeyword hs hdeclares hsupplier, find?_of_free hplain hs hname hdeclares,
    Option.ext_iff]
  refine forall_congr' fun d => ?_
  have hmeant : (ofSources sources).meant? importDepth ⟨target⟩ name = some d
      ↔ (ofSources sources).LeadsFrom d (importDepth - 1) ⟨target⟩ t name :=
    meant?_eq_some_iff ht hkeyword hhas
  rw [hmeant, globbed?_eq_some_iff hs]

/-- A bare name means what its form with `self` leads to exactly if the ways of the two agree. -/
theorem meant?_eq_find?_iff :
    (ofSources sources).meant? (importDepth + 1) m name
        = (ofSources sources).find? (m.segments ++ [name])
      ↔ (ofSources sources).FoundAlike m s name := by
  constructor
  · intro h
    refine ⟨fun hlocal target htarget => ?_, fun hlocal himport htarget => ?_,
      fun hdeclares hnone => ?_, fun hdeclares before g after target hglobs hbefore hg t ht => ?_⟩
    · exact (meant?_eq_find?_iff_of_target hplain hs hname hkeyword hlocal htarget).mp h
    · exact (meant?_eq_find?_iff_of_outside hplain hs hname hkeyword hlocal himport htarget).mp h
    · have hsupplier := (supplier?_of_scope hs).trans (List.findSome?_eq_none_iff.mpr hnone)
      exact (meant?_eq_find?_iff_of_no_supplier hplain hs hname hkeyword hdeclares hsupplier).mp h
    · have hsupplier := (supplier?_of_scope hs).trans
        (List.findSome?_eq_some_iff.mpr ⟨before, g, after, hglobs, hg, hbefore⟩)
      exact (meant?_eq_find?_iff_of_supplier hplain hs hname hkeyword hdeclares hsupplier ht).mp h
  · intro h
    cases hlocal : s.hasLocal name with
    | true => exact meant?_of_local hkeyword hs hlocal
    | false =>
        cases himport : (s.import? name).isSome with
        | true =>
            cases htarget : (ofSources sources).importTarget? m.segments name with
            | some target =>
                exact (meant?_eq_find?_iff_of_target hplain hs hname hkeyword hlocal htarget).mpr
                  (h.ofImport hlocal target htarget)
            | none =>
                exact (meant?_eq_find?_iff_of_outside hplain hs hname hkeyword hlocal himport
                  htarget).mpr (h.ofOutside hlocal himport htarget)
        | false =>
            have hdeclares : s.declares name = false := by rw [Scope.declares, hlocal, himport]; rfl
            cases hsupplier : (ofSources sources).supplier? importDepth m name with
            | none =>
                refine (meant?_eq_find?_iff_of_no_supplier hplain hs hname hkeyword hdeclares
                  hsupplier).mpr (h.ofNone hdeclares ?_)
                rwa [supplier?_of_scope hs, List.findSome?_eq_none_iff] at hsupplier
            | some target =>
                obtain ⟨t, ht, -⟩ := declares_of_supplier? hsupplier
                refine (meant?_eq_find?_iff_of_supplier hplain hs hname hkeyword hdeclares hsupplier
                  ht).mpr ?_
                rw [supplier?_of_scope hs] at hsupplier
                obtain ⟨before, g, after, hglobs, hg, hbefore⟩ :=
                  List.findSome?_eq_some_iff.mp hsupplier
                exact h.ofSupplier hdeclares before g after target hglobs hbefore hg t ht

/-- A type that is found directly is what the bare name means. -/
theorem meant?_of_foundDirectly {d : Declaration}
    (h : (ofSources sources).FoundDirectly m s name d) :
    (ofSources sources).meant? (importDepth + 1) m name = some d
      ∧ (ofSources sources).find? (m.segments ++ [name]) = some d := by
  cases h with
  | item hlocal htype =>
      have hfind : (ofSources sources).find? (m.segments ++ [name]) = some d :=
        findWithin_of_get?_some _ htype _
      rw [meant?_of_local hkeyword hs hlocal]
      exact ⟨hfind, hfind⟩
  | imported hlocal path himport target hshort hlong n hn hleads =>
      have htarget : (ofSources sources).importTarget? m.segments name = some target := by
        rw [importTarget?_of_import hs himport, hlong]
        rfl
      rw [meant?_of_import hkeyword hs hlocal himport, importedType?, hshort,
        find?_of_not_local hplain hs hname hlocal, behind?_of_target _ htarget]
      exact ⟨hleads.findWithin (by omega), hleads.findWithin (by omega)⟩
  | globbed hdeclares target hfirst t hscope hitem htype =>
      have hsupplier := hfirst.supplier?_eq hs hscope (Scope.declares_of_hasLocal hitem)
      have hleads : (ofSources sources).LeadsTo d 0 (target ++ [name]) := .here htype
      have hmeant : (ofSources sources).meant? importDepth ⟨target⟩ name
          = (ofSources sources).find? (target ++ [name]) := meant?_of_local hkeyword hscope hitem
      rw [meant?_of_supplier hkeyword hs hdeclares hsupplier, hmeant,
        find?_of_free hplain hs hname hdeclares]
      exact ⟨hleads.findWithin (Nat.zero_le _),
        hfirst.globbed?_eq hs (hleads.findWithin (Nat.zero_le _))⟩
  | reexported hdeclares above hfirst t hscope hitem path himport target hshort hlong n hn hleads =>
      have hsupplier := hfirst.supplier?_eq hs hscope (Scope.declares_of_import himport)
      have htarget : (ofSources sources).importTarget? above name = some target := by
        rw [importTarget?_of_import (m := ⟨above⟩) hscope himport, hlong]
        rfl
      -- behind `self`, the import of the module is one more that is followed
      have habove : (ofSources sources).LeadsTo d (n + 1) (above ++ [name]) :=
        .through (get?_eq_none_of_not_local hplain hscope hname hitem) htarget hleads
      have hmeant : (ofSources sources).meant? importDepth ⟨above⟩ name
          = (ofSources sources).find? target := by
        rw [show importDepth = importDepth - 1 + 1 from rfl,
          meant?_of_import hkeyword hscope hitem himport, importedType?, hshort]
        rfl
      rw [meant?_of_supplier hkeyword hs hdeclares hsupplier, hmeant,
        find?_of_free hplain hs hname hdeclares]
      exact ⟨hleads.findWithin (by omega), hfirst.globbed?_eq hs (habove.findWithin (by omega))⟩

/-- **A bare name and its form with `self` mean one type exactly if the two searches find alike**,
and a type that is found directly is what both of them mean. -/
theorem resolveDecl?_bare_eq_self_iff {role role' : Code.PathRole} {bare self : List Segment}
    (hbare : bare.map (fun x => x.ident.name) = [name])
    (hself : self.map (fun x => x.ident.name) = ["self", name]) :
    ((ofSources sources).resolveDecl? m (.path role false bare)
          = (ofSources sources).resolveDecl? m (.path role' false self)
        ↔ (ofSources sources).FoundAlike m s name)
      ∧ ∀ d, (ofSources sources).FoundDirectly m s name d →
        (ofSources sources).resolveDecl? m (.path role false bare) = some d
          ∧ (ofSources sources).resolveDecl? m (.path role' false self) = some d := by
  rw [resolveDecl?_bare _ m hbare, resolveDecl?_self _ m hself]
  exact ⟨meant?_eq_find?_iff hplain hs hname hkeyword,
    fun d h => meant?_of_foundDirectly hplain hs hname hkeyword h⟩

end OfSources

/-! ## Globs of globs

The module `shop` has a glob of `stock`. What `stock` has itself is found either way, and what it
has by a glob of its own is found behind `self` only. -/

/-- The crate, with these items in the module `stock`. -/
def stockSources (items : List Code.Item) : SourceSet where
  files := [
    ⟨"src/lib.rs", .root, [], ["paint", "shop", "stock"].map (.outlined .everywhere)⟩,
    ⟨"src/paint.rs", ⟨["paint"]⟩, [], [.unitStruct .everywhere "Color"]⟩,
    ⟨"src/shop.rs", ⟨["shop"]⟩, [], [.globOf "stock"]⟩,
    ⟨"src/stock.rs", ⟨["stock"]⟩, [], items⟩]

def bareColor : Code.Tree := .path .type false [.ofIdent ⟨"Color", false⟩]

/-- The path `self::Color`. -/
def selfColor : Code.Tree :=
  .path .type false [.ofIdent ⟨"self", false⟩, .ofIdent ⟨"Color", false⟩]

/-- The type of `stock` is found directly. -/
theorem foundAlike_stockColor :
    ∃ s d, (ofSources (stockSources [.unitStruct .everywhere "Color"])).scope? ⟨["shop"]⟩ = some s
      ∧ d.segments = ["stock", "Color"]
      ∧ (ofSources (stockSources [.unitStruct .everywhere "Color"])).FoundAlike ⟨["shop"]⟩ s "Color"
      ∧ (ofSources (stockSources [.unitStruct .everywhere "Color"])).resolveDecl? ⟨["shop"]⟩
        bareColor = some d
      ∧ (ofSources (stockSources [.unitStruct .everywhere "Color"])).resolveDecl? ⟨["shop"]⟩
        selfColor = some d := by
  have hplain : (stockSources [.unitStruct .everywhere "Color"]).IsPlain :=
    ⟨by decide +kernel, by decide +kernel⟩
  have hname : IsPlain "Color" := by decide +kernel
  have hkeyword : isPathKeyword "Color" = false := by decide +kernel
  have hfirst : (ofSources (stockSources [.unitStruct .everywhere "Color"])).FirstGlob ⟨["shop"]⟩
      { globs := [⟨false, ["crate", "stock"]⟩] } "Color" ["stock"] :=
    ⟨[], ⟨false, ["crate", "stock"]⟩, [], rfl, by simp, rfl, rfl⟩
  obtain ⟨hiff, hdirect⟩ := @resolveDecl?_bare_eq_self_iff _ ⟨["shop"]⟩ _ "Color" hplain rfl hname
    hkeyword .type .type [.ofIdent ⟨"Color", false⟩]
    [.ofIdent ⟨"self", false⟩, .ofIdent ⟨"Color", false⟩] rfl rfl
  have hfound := hdirect (Declaration.ofStruct ⟨["stock"]⟩ ⟨"Color", false⟩ [] false .unit).1
    (.globbed rfl ["stock"] hfirst _ rfl rfl rfl)
  exact ⟨_, _, rfl, rfl, hiff.mp (hfound.1.trans hfound.2.symm), hfound⟩

/-- The type of `paint` is found behind `self` only. -/
theorem not_foundAlike_paintColor :
    ¬ ∀ (sources : SourceSet) (m : ModulePath), sources.IsPlain →
      ((ofSources sources).scope? m).isSome = true →
      (ofSources sources).resolveDecl? m bareColor
        = (ofSources sources).resolveDecl? m selfColor := by
  intro h
  have hplain : (stockSources [.globOf "paint"]).IsPlain := ⟨by decide +kernel, by decide +kernel⟩
  have hsame := h (stockSources [.globOf "paint"]) ⟨["shop"]⟩ hplain rfl
  have hbare : (ofSources (stockSources [.globOf "paint"])).resolveDecl? ⟨["shop"]⟩ bareColor
      = none := rfl
  have hself : (ofSources (stockSources [.globOf "paint"])).resolveDecl? ⟨["shop"]⟩ selfColor
      = some paintColor := rfl
  rw [hbare, hself] at hsame
  cases hsame

end Registry

end BuilderForge
