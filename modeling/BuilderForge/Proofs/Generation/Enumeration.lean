import BuilderForge.Proofs.Anchoring.Alike
import BuilderForge.Proofs.Generation.Accounts
import BuilderForge.Proofs.Resolution.Ties

set_option autoImplicit false

/-! # Runs that enumerate exports in different orders

The order in which the exports of modules are enumerated matters for one thing only, which is the
path that a type is named by. If two runs name every item by the same path (`NamesAlike`), they
anchor the types of fields alike, so that they plan the same builders (`Enumerates.planBuilder_eq`)
and find the same for all types. Every enumeration names items alike exactly if no shortest re-export
of a hidden item stands in a module that exports the item under two names
(`namesAlike_iff_namesOnce`). If there are two names, plans may differ (`planBuilder_circleRegistry`).
-/

namespace BuilderForge

namespace Registry

/-- Every item is named by the same path in both crates, if there is one. -/
def NamesAlike (r r' : Registry) : Prop := ∀ path, r'.visiblePath? path = r.visiblePath? path

variable {r r' : Registry}

theorem Enumerates.looksUpAlike (h : r.Enumerates r') : r.LooksUpAlike r' :=
  h.reorders.looksUpAlike h.map_globs

theorem Enumerates.leadsAlike (h : r.Enumerates r') : r.LeadsAlike r' :=
  h.reorders.leadsAlike h.map_globs

/-! ## Plans -/

theorem place_eq (r : Registry) (d : Declaration) :
    FieldChain.place r d = ⟨r, d.module, (FieldChain.place r d).self⟩ := rfl

section Plans

variable (h : r.Enumerates r') (hnames : r.NamesAlike r')
include h hnames

theorem Enumerates.changesAlike (m : ModulePath) (self : Option SelfPath) :
    Place.ChangesAlike ⟨r, m, self⟩ ⟨r', m, self⟩ := by
  refine ⟨rfl, fun leading segments => ?_⟩
  have hpath := h.looksUpAlike.resolvePath_eq m ⟨leading, segments⟩
  unfold Place.change
  dsimp only
  rw [hpath]
  cases r.resolvePath m ⟨leading, segments⟩ with
  | crate names => simp only [hnames names]
  | external | builtin | unresolved => rfl

/-- The types of fields are anchored at places that are alike. -/
theorem Enumerates.changesAlike_place (d : Declaration) :
    (FieldChain.place r d).ChangesAlike (FieldChain.place r' d) := by
  have hbare := (h.changesAlike hnames d.module none).all_eq.2.2.1
  have hself : (FieldChain.place r' d).self = (FieldChain.place r d).self := by
    unfold FieldChain.place Place.withSelf
    simp only [hbare]
  rw [place_eq r' d, place_eq r d, hself]
  exact h.changesAlike hnames d.module _

theorem Enumerates.extend_eq (typeName : String) (fuel : Nat) :
    ∀ (c : FieldChain) (d : Declaration),
      FieldChain.extend r' typeName fuel c d = FieldChain.extend r typeName fuel c d := by
  induction fuel with
  | zero => exact fun _ _ => rfl
  | succ fuel ih =>
      intro c d
      have hfield : FieldChain.addField (FieldChain.place r' d) typeName d
          = FieldChain.addField (FieldChain.place r d) typeName d := by
        funext c f
        simp only [FieldChain.addField, (h.changesAlike_place hnames d).anchor_eq]
      have hparent : ∀ link, FieldChain.ancestor r' d link = FieldChain.ancestor r d link := by
        intro link
        simp only [FieldChain.ancestor, h.looksUpAlike.resolveDecl?_eq]
      rw [FieldChain.place, FieldChain.place] at hfield
      simp only [FieldChain.extend, hfield, hparent, ih]

theorem Enumerates.ofDecl_eq (d : Declaration) : FieldChain.ofDecl r' d = FieldChain.ofDecl r d := by
  have htarget : r'.reachablePath? d = r.reachablePath? d := by
    rw [reachablePath?, reachablePath?, hnames]
  simp only [FieldChain.ofDecl, htarget, h.types, h.extend_eq hnames]

theorem Enumerates.planBuilder_eq (policy : ShadowPolicy) (exposure : Exposure) (d : Declaration) :
    planBuilder r' policy exposure d = planBuilder r policy exposure d := by
  simp only [planBuilder, h.ofDecl_eq hnames]

end Plans

end Registry

section Findings

variable {r r' : Registry} {policy : ShadowPolicy} {exposure : Exposure} {t : ModuleTree}
  (h : r.Enumerates r') (hnames : r.NamesAlike r')
include h hnames

theorem Finds.of_namesAlike {d : Declaration} {f : Finding} (hf : Finds r policy exposure t d f) :
    Finds r' policy exposure t d f := by
  have hplans := h.planBuilder_eq hnames policy exposure d
  cases hf with
  | misused hkind => exact .misused hkind
  | unplanned hkind hplan => exact .unplanned hkind (hplans.trans hplan)
  | collides hkind hplan hinsert => exact .collides hkind (hplans.trans hplan) hinsert
  | built hkind hplan hinsert hcode => exact .built hkind (hplans.trans hplan) hinsert hcode

/-- A run finds the same in another order of exports that names items alike. -/
theorem FindsAll.of_namesAlike {found : List (Declaration × Finding)}
    (hfound : FindsAll r policy exposure t found) : FindsAll r' policy exposure t found := by
  induction hfound with
  | nil => exact .nil
  | cons hf _ ih => exact .cons (hf.of_namesAlike h hnames) ih

end Findings

/-! ## One name for each item -/

namespace Registry

variable {r r' : Registry}

theorem enumerates_exportFirst {m : ModulePath} {s : Scope} {name : String}
    (hnodup : (r.scopes.map (·.1)).Nodup) (hmem : (m, s) ∈ r.scopes) (hname : name ∈ s.exports) :
    r.Enumerates (r.exportFirst m name) := by
  refine ⟨rfl, rfl, rfl, ?_⟩
  rw [exportFirst, List.forall₂_map_right_iff, List.forall₂_same]
  intro e he
  split
  · next hmodule =>
      obtain rfl := eq_of_mem_scopes hnodup hmem he hmodule
      exact ⟨rfl, List.perm_cons_erase hname, rfl⟩
  · exact ⟨rfl, .refl _⟩

theorem visiblePath?_eq (r : Registry) (path : List String) : r.visiblePath? path
    = if r.isPathVisible (r.canonical path) then some (r.canonical path)
      else r.reexportOf? (r.canonical path) := rfl

theorem Enumerates.visiblePath?_eq (h : r.Enumerates r') (path : List String) :
    r'.visiblePath? path = if r.isPathVisible (r.canonical path) then some (r.canonical path)
      else r'.reexportOf? (r.canonical path) := by
  rw [Registry.visiblePath?_eq, h.leadsAlike.canonical_eq, h.reorders.isPathVisible_eq]

/-- An item that is hidden where it is declared has one name in the module of its shortest
re-export. -/
def NamesOnce (r : Registry) : Prop :=
  ∀ path, r.isPathVisible (r.canonical path) = false → r.canonical path ≠ [] →
    r.OneName (r.canonical path)

/-- **All enumerations name items alike exactly if each has one name.** -/
theorem namesAlike_iff_namesOnce (hnodup : (r.scopes.map (·.1)).Nodup) :
    (∀ r', r.Enumerates r' → r.NamesAlike r') ↔ r.NamesOnce := by
  constructor
  · intro hall path hhidden htarget
    refine oneName_of_reexportOf?_eq hnodup htarget fun m s name hmem hname => ?_
    have h := enumerates_exportFirst hnodup hmem hname
    have hsame := hall _ h path
    rw [h.visiblePath?_eq, r.visiblePath?_eq, hhidden, if_neg Bool.false_ne_true,
      if_neg Bool.false_ne_true] at hsame
    exact hsame
  · intro hone r' h path
    rw [h.visiblePath?_eq, r.visiblePath?_eq]
    cases hvisible : r.isPathVisible (r.canonical path) with
    | true => rw [if_pos rfl, if_pos rfl]
    | false =>
        rw [if_neg Bool.false_ne_true, if_neg Bool.false_ne_true]
        by_cases htarget : r.canonical path = []
        · rw [htarget, reexportOf?, reexportOf?, List.isEmpty_nil, if_pos rfl, if_pos rfl]
        · exact reexportOf?_eq_of_oneName htarget h.reorders h.leadsAlike (hone path hvisible htarget)

/-- The places in the crate that the exported imports of a module lead to. -/
def exportedTargets (r : Registry) (m : ModulePath) (s : Scope) : List (List String) :=
  s.exportedImports.filterMap fun x => (r.resolveImport m x.2).crate?.map r.canonical

theorem eq_of_nodup_filterMap {α β : Type} {f : α → Option β} {l : List α}
    (h : (l.filterMap f).Nodup) {a a' : α} (ha : a ∈ l) (ha' : a' ∈ l) {b : β} (hb : f a = some b)
    (hb' : f a' = some b) : a = a' := by
  have : Std.Symm fun a a' => ∀ b, f a = some b → ∀ b', f a' = some b' → b ≠ b' :=
    ⟨fun _ _ hne b hb b' hb' => (hne b' hb' b hb).symm⟩
  by_contra hne
  exact (List.pairwise_filterMap.mp h).forall ha ha' hne b hb b hb' rfl

/-- Each item has one name if no module exports imports of one item twice. -/
theorem namesOnce_of_nodup (h : ∀ e ∈ r.scopes, (r.exportedTargets e.1 e.2).Nodup) :
    r.NamesOnce := by
  rintro path - - best - s hmem x y ⟨hx, p, found, himport, hleads, hcanonical⟩
    ⟨hy, q, found', himport', hleads', hcanonical'⟩
  have hexported : ∀ {name imported}, name ∈ s.exports → s.import? name = some imported →
      (name, imported) ∈ s.exportedImports := by
    intro name imported hname himport
    exact List.mem_filterMap.mpr ⟨name, hname, by rw [himport, Option.map_some]⟩
  refine congrArg Prod.fst (eq_of_nodup_filterMap (h _ hmem) (hexported hx himport)
    (hexported hy himport') (b := r.canonical path) ?_ ?_)
  · rw [hleads, Resolution.crate?, Option.map_some, hcanonical]
  · rw [hleads', Resolution.crate?, Option.map_some, hcanonical']

end Registry

/-! ## Types of a private module

The module `a` exports two structs of its private module `h`, or one of them twice. That one asks for
a builder, as does an enum of `a`. -/

/-- The crate with `Circle` exported as `Disc` and this type as `Figure`. -/
def renamingSources (type : String) : SourceSet where
  files := [
    ⟨"src/lib.rs", .root, [], [.outlined .everywhere "a"]⟩,
    ⟨"src/a.rs", ⟨["a"]⟩, [],
      [.outlined .inherited "h", exportAs "Circle" "Disc", exportAs type "Figure",
        .enum [BuilderSpec.attributeOn "derive" "TestBuilder"] .everywhere ⟨"Shape", false⟩
          Code.Span.nowhere Code.Generics.none []]⟩,
    ⟨"src/a/h.rs", ⟨["a", "h"]⟩, [],
      [BuilderSpec.structOf "TestBuilder" "Circle" [], .unitStruct .everywhere "Square"]⟩]
where
  exportAs (type name : String) : Code.Item :=
    .use [] .everywhere false (.path ⟨"self", false⟩ (.path ⟨"h", false⟩
      (.rename ⟨type, false⟩ ⟨name, false⟩)))

/-- Its registry with `Figure` in front of the other exports of `a`. -/
def renamingRegistry (type : String) : Registry :=
  (Registry.ofSources (renamingSources type)).exportFirst ⟨["a"]⟩ "Figure"

theorem enumerates_renamingRegistry {type : String}
    (h : ((Registry.ofSources (renamingSources type)).scope? ⟨["a"]⟩).any
      (fun s => "Figure" ∈ s.exports) = true) :
    (Registry.ofSources (renamingSources type)).Enumerates (renamingRegistry type) := by
  obtain ⟨s, hs, hname⟩ := (Option.any_eq_true _ _).mp h
  exact Registry.enumerates_exportFirst (Registry.nodup_scopes_ofSources _)
    ((Registry.scope?_eq_some_iff _ _ s).mp hs) (of_decide_eq_true hname)

theorem enumerates_squareRegistry :
    (Registry.ofSources (renamingSources "Square")).Enumerates (renamingRegistry "Square") :=
  enumerates_renamingRegistry (by decide +kernel)

/-- If two types are exported, the order of their names does not matter. -/
theorem namesAlike_squareRegistry :
    (Registry.ofSources (renamingSources "Square")).NamesAlike (renamingRegistry "Square") := by
  have hone : (Registry.ofSources (renamingSources "Square")).NamesOnce :=
    Registry.namesOnce_of_nodup (by decide +kernel)
  exact (Registry.namesAlike_iff_namesOnce (Registry.nodup_scopes_ofSources _)).mpr hone _
    enumerates_squareRegistry

/-- The struct gets a builder, and there is one error about the enum. -/
theorem exists_run_squareSources : ∃ g, generate {} (renamingSources "Square") = .ok g
    ∧ g.builders.map BuilderSummary.typeName = ["crate::a::h::Circle"]
    ∧ g.errors = [.markerMisuse "Shape"] := by
  have hrun : (generate {} (renamingSources "Square")).toOption.map
      (fun g => (g.builders.map BuilderSummary.typeName, g.errors))
      = some (["crate::a::h::Circle"], [.markerMisuse "Shape"]) := by
    decide +kernel
  obtain ⟨g, hg, heq⟩ := exists_eq_ok hrun
  exact ⟨g, hg, Prod.mk.inj heq⟩

/-- If one type is exported twice, its builder depends on the order of the names. -/
theorem planBuilder_circleRegistry :
    (Registry.ofSources (renamingSources "Circle")).Enumerates (renamingRegistry "Circle")
    ∧ ∃ d ∈ (Registry.ofSources (renamingSources "Circle")).annotated,
      planBuilder (renamingRegistry "Circle") .reject .everyone d
        ≠ planBuilder (Registry.ofSources (renamingSources "Circle")) .reject .everyone d := by
  let target (r : Registry) (d : Declaration) : Option (List String) :=
    (planBuilder r .reject .everyone d).toOption.map
      fun b => b.spec.target.segments.map fun s => s.ident.name
  have hdiffer : (Registry.ofSources (renamingSources "Circle")).annotated.any (fun d =>
      target (Registry.ofSources (renamingSources "Circle")) d = some ["crate", "a", "Disc"]
        ∧ target (renamingRegistry "Circle") d = some ["crate", "a", "Figure"]) = true := by
    decide +kernel
  obtain ⟨d, hd, heq⟩ := List.any_eq_true.mp hdiffer
  obtain ⟨hdisc, hfigure⟩ := of_decide_eq_true heq
  refine ⟨enumerates_renamingRegistry (by decide +kernel), d, hd, fun hsame => ?_⟩
  simp only [target] at hdisc hfigure
  rw [hsame, hdisc] at hfigure
  revert hfigure
  decide

end BuilderForge
