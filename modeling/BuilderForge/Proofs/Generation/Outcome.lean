import BuilderForge.Generation
import BuilderForge.Proofs.FieldChain.Lineage
import BuilderForge.Proofs.ModuleTree.Files
import BuilderForge.Proofs.Registry.Enumeration
import Mathlib.Algebra.GroupWithZero.Nat

set_option autoImplicit false

/-! # What becomes of the types of a run

A run goes through the annotated types. What it finds for a selected one is that the type is refused
with one error, or that a builder is added (`Finding`). Of all that a run has done so far, the
finding depends on the tree alone (`Finds`), and what a run leads to is what it has found, noted down
one after the other, however the exports of modules are enumerated (`generateFrom_eq_ok_iff`).
-/

namespace BuilderForge

open Code.Tokens
open ModuleTree (Entry)

/-- What a run finds for a selected type. -/
inductive Finding where
  | refused (error : Diagnostic)
  | built (b : PlannedBuilder) (code : String)

namespace Finding

/-- What there is to be said. -/
def remarks : Finding → List Diagnostic
  | .refused e => [e]
  | .built b code => Progress.remarks b code

/-- The builder, if there is one. -/
def built? : Finding → Option PlannedBuilder
  | .refused _ => none
  | .built b _ => some b

/-- Adds the builder to the tree, if there is one. -/
def addTo : Finding → ModuleTree → ModuleTree
  | .refused _, t => t
  | .built b _, t => t.push (Progress.rendered b.spec) b.spec.space.segments

/-- Counts the type and its builder. -/
def count (f : Finding) (s : Statistics) : Statistics :=
  let s := { s with annotatedTypes := s.annotatedTypes + 1 }
  match f with
  | .refused _ => s
  | .built b _ => s.countBuilder b.spec

end Finding

namespace PlannedBuilder

/-- What there is to be told about the builder. -/
def summary (b : PlannedBuilder) : BuilderSummary := .ofSpec b.spec b.chain.chain

/-- The builder as an entry of the tree. -/
def entry (b : PlannedBuilder) : Entry := ⟨b.spec.space.segments, Progress.rendered b.spec⟩

end PlannedBuilder

/-- Whether a type is no struct, so that it is refused whatever is in it. -/
def Declaration.isMisused (d : Declaration) : Bool := d.kind = .enum || d.kind = .union

/-- The module of a builder as code. -/
def BuilderSpec.moduleCode (s : BuilderSpec) : Code.Tokens :=
  word "mod" ++ ident s.module ++ braces s.code

section Finding

variable (r : Registry) (policy : ShadowPolicy) (exposure : Exposure)

/-- What a run finds for a selected type when it has the tree `t`. -/
inductive Finds (t : ModuleTree) (d : Declaration) : Finding → Prop
  | misused (hkind : d.isMisused = true) : Finds t d (.refused (.markerMisuse d.ident.name))
  | unplanned {failure : BuilderFailure} (hkind : d.isMisused = false)
      (hplan : planBuilder r policy exposure d = .error failure) :
      Finds t d (.refused (.generationFailed d.pathString failure.message))
  | collides {b : PlannedBuilder} {failure : BuilderFailure} (hkind : d.isMisused = false)
      (hplan : planBuilder r policy exposure d = .ok b)
      (hinsert : t.insert b.spec.space (Progress.rendered b.spec) = .error failure) :
      Finds t d (.refused (.generationFailed d.pathString failure.message))
  | built {b : PlannedBuilder} {t' : ModuleTree} {code : String} (hkind : d.isMisused = false)
      (hplan : planBuilder r policy exposure d = .ok b)
      (hinsert : t.insert b.spec.space (Progress.rendered b.spec) = .ok t')
      (hcode : ModuleTree.formatted b.spec.moduleCode = .ok code) : Finds t d (.built b code)

/-- What a run finds for types one after the other, from the tree `t` on. -/
inductive FindsAll : ModuleTree → List (Declaration × Finding) → Prop
  | nil {t : ModuleTree} : FindsAll t []
  | cons {t : ModuleTree} {d : Declaration} {f : Finding} {found : List (Declaration × Finding)}
      (h : Finds r policy exposure t d f) (rest : FindsAll (f.addTo t) found) :
      FindsAll t ((d, f) :: found)

end Finding

/-- The tree with a builder that it accepts. -/
theorem ModuleTree.eq_push_of_insert {t t' : ModuleTree} {space : ModulePath} {b : RenderedBuilder}
    (h : t.insert space b = .ok t') : t' = t.push b space.segments := by
  unfold insert at h
  split at h
  · cases h
  · exact (Except.ok.inj h).symm

/-- The builders that were found. -/
def builtOf (found : List (Declaration × Finding)) : List PlannedBuilder :=
  found.filterMap fun x => x.2.built?

theorem builtOf_cons (x : Declaration × Finding) (found : List (Declaration × Finding)) :
    builtOf (x :: found) = x.2.built?.toList ++ builtOf found := by
  rw [builtOf, List.filterMap_cons]
  cases x.2.built? <;> rfl

namespace Progress

/-- Notes down what was found for a type. -/
def record (p : Progress) (f : Finding) : Progress :=
  { tree := f.addTo p.tree
    builders := p.builders ++ f.built?.toList.map PlannedBuilder.summary
    statistics := f.count p.statistics
    diagnostics := p.diagnostics ++ f.remarks }

/-- Notes down what was found for types. -/
def recordAll (p : Progress) (found : List (Declaration × Finding)) : Progress :=
  found.foldl (fun p x => p.record x.2) p

variable {c : Config} {r : Registry}

theorem addType_of_not_selected {d : Declaration} (p : Progress)
    (h : c.selects d.pathString = false) : p.addType c r d = .ok p := by
  simp [addType, h]
  rfl

theorem record_refused (p : Progress) (e : Diagnostic) : p.record (.refused e) =
    { p with
      statistics := { p.statistics with annotatedTypes := p.statistics.annotatedTypes + 1 }
      diagnostics := p.diagnostics ++ [e] } := by
  simp [record, Finding.addTo, Finding.built?, Finding.count, Finding.remarks]

section Selected

variable {d : Declaration} (p : Progress) (h : c.selects d.pathString = true)
include h

theorem addType_misused (hkind : d.isMisused = true) :
    p.addType c r d = .ok (p.record (.refused (.markerMisuse d.ident.name))) := by
  rw [Declaration.isMisused] at hkind
  rw [record_refused]
  simp only [addType, h, Bool.not_true, Bool.false_eq_true, if_false, hkind, if_true]
  rfl

theorem addType_unplanned (hkind : d.isMisused = false) {failure : BuilderFailure}
    (hplan : planBuilder r c.shadowPolicy c.exposure d = .error failure) :
    p.addType c r d
      = .ok (p.record (.refused (.generationFailed d.pathString failure.message))) := by
  rw [Declaration.isMisused] at hkind
  rw [record_refused]
  simp only [addType, h, Bool.not_true, Bool.false_eq_true, if_false, hkind, hplan, bind,
    Except.bind]
  rfl

theorem addType_collides (hkind : d.isMisused = false) {b : PlannedBuilder}
    {failure : BuilderFailure} (hplan : planBuilder r c.shadowPolicy c.exposure d = .ok b)
    (hinsert : p.tree.insert b.spec.space (rendered b.spec) = .error failure) :
    p.addType c r d
      = .ok (p.record (.refused (.generationFailed d.pathString failure.message))) := by
  rw [Declaration.isMisused] at hkind
  rw [record_refused]
  simp only [addType, h, Bool.not_true, Bool.false_eq_true, if_false, hkind, hplan, bind,
    Except.bind, hinsert]
  rfl

theorem addType_planned (hkind : d.isMisused = false) {b : PlannedBuilder} {t' : ModuleTree}
    (hplan : planBuilder r c.shadowPolicy c.exposure d = .ok b)
    (hinsert : p.tree.insert b.spec.space (rendered b.spec) = .ok t') :
    p.addType c r d
      = (ModuleTree.formatted b.spec.moduleCode).map fun code => p.record (.built b code) := by
  obtain rfl := ModuleTree.eq_push_of_insert hinsert
  rw [Declaration.isMisused] at hkind
  simp only [addType, h, Bool.not_true, Bool.false_eq_true, if_false, hkind, hplan, bind,
    Except.bind, hinsert, pure, Except.pure]
  rw [← BuilderSpec.moduleCode]
  cases ModuleTree.formatted b.spec.moduleCode <;> rfl

/-- A selected type is found out about, and that is noted down. -/
theorem addType_eq_ok_iff {p' : Progress} : p.addType c r d = .ok p' ↔
      ∃ f, Finds r c.shadowPolicy c.exposure p.tree d f ∧ p' = p.record f := by
  constructor
  · intro hadd
    -- the ways to be done with a type, in the order in which they are tried
    cases hkind : d.isMisused with
    | true =>
        rw [addType_misused p h hkind] at hadd
        exact ⟨_, .misused hkind, (Except.ok.inj hadd).symm⟩
    | false =>
        cases hplan : planBuilder r c.shadowPolicy c.exposure d with
        | error failure =>
            rw [addType_unplanned p h hkind hplan] at hadd
            exact ⟨_, .unplanned hkind hplan, (Except.ok.inj hadd).symm⟩
        | ok b =>
            cases hinsert : p.tree.insert b.spec.space (rendered b.spec) with
            | error failure =>
                rw [addType_collides p h hkind hplan hinsert] at hadd
                exact ⟨_, .collides hkind hplan hinsert, (Except.ok.inj hadd).symm⟩
            | ok t' =>
                rw [addType_planned p h hkind hplan hinsert] at hadd
                cases hcode : ModuleTree.formatted b.spec.moduleCode with
                | error e =>
                    rw [hcode] at hadd
                    cases hadd
                | ok code =>
                    rw [hcode] at hadd
                    exact ⟨_, .built hkind hplan hinsert hcode, (Except.ok.inj hadd).symm⟩
  · rintro ⟨f, hf, rfl⟩
    cases hf with
    | misused hkind => exact addType_misused p h hkind
    | unplanned hkind hplan => exact addType_unplanned p h hkind hplan
    | collides hkind hplan hinsert => exact addType_collides p h hkind hplan hinsert
    | built hkind hplan hinsert hcode =>
        rw [addType_planned p h hkind hplan hinsert, hcode]
        rfl

end Selected

/-- A run through types notes down what it finds for the selected ones. -/
theorem foldlM_addType_eq_ok_iff (ds : List Declaration) {p p' : Progress} :
    ds.foldlM (addType c r) p = .ok p' ↔
      ∃ found, FindsAll r c.shadowPolicy c.exposure p.tree found
        ∧ found.map Prod.fst = ds.filter (fun d => c.selects d.pathString)
        ∧ p' = p.recordAll found := by
  induction ds generalizing p with
  | nil =>
      rw [List.foldlM_nil, pure_eq_ok_iff]
      constructor
      · rintro rfl
        exact ⟨[], .nil, rfl, rfl⟩
      · rintro ⟨found, -, hnil, rfl⟩
        rw [List.filter_nil, List.map_eq_nil_iff] at hnil
        rw [hnil]
        rfl
  | cons d ds ih =>
      rw [List.foldlM_cons, bind_eq_ok_iff]
      rw [List.filter_cons]
      cases h : c.selects d.pathString with
      | false =>
          simp only [addType_of_not_selected p h, Except.ok.injEq, exists_eq_left', ih,
            Bool.false_eq_true, if_false]
      | true =>
          simp only [addType_eq_ok_iff p h, ih, if_true]
          constructor
          · rintro ⟨_, ⟨f, hf, rfl⟩, found, hfound, hmap, rfl⟩
            exact ⟨(d, f) :: found, .cons hf hfound, by rw [List.map_cons, hmap], rfl⟩
          · rintro ⟨found, hfound, hmap, rfl⟩
            cases hfound with
            | nil => cases hmap
            | @cons _ e f found hf hrest =>
                rw [List.map_cons] at hmap
                obtain ⟨rfl, htail⟩ := List.cons.inj hmap
                exact ⟨_, ⟨f, hf, rfl⟩, found, hrest, htail, rfl⟩

/-! ## What was noted down -/

variable (p : Progress) (found : List (Declaration × Finding))

theorem recordAll_builders :
    (p.recordAll found).builders = p.builders ++ (builtOf found).map PlannedBuilder.summary := by
  induction found generalizing p with
  | nil => simp [recordAll, builtOf]
  | cons x found ih =>
      rw [recordAll, List.foldl_cons, ← recordAll, ih, builtOf_cons, List.map_append]
      simp [record]

theorem recordAll_diagnostics :
    (p.recordAll found).diagnostics = p.diagnostics ++ found.flatMap fun x => x.2.remarks := by
  induction found generalizing p with
  | nil => simp [recordAll]
  | cons x found ih =>
      rw [recordAll, List.foldl_cons, ← recordAll, ih, List.flatMap_cons]
      simp [record]

/-- The numbers of a run. -/
theorem recordAll_statistics : (p.recordAll found).statistics =
    { p.statistics with
      annotatedTypes := p.statistics.annotatedTypes + found.length
      buildersGenerated := p.statistics.buildersGenerated + (builtOf found).length
      settersGenerated := p.statistics.settersGenerated
        + ((builtOf found).map fun b => b.spec.setters.length).sum
      shadowedFieldsSkipped := p.statistics.shadowedFieldsSkipped
        + ((builtOf found).map fun b => b.spec.skipped.length).sum } := by
  induction found generalizing p with
  | nil => simp [recordAll, builtOf]
  | cons x found ih =>
      rw [recordAll, List.foldl_cons, ← recordAll, ih, builtOf_cons]
      obtain ⟨d, f⟩ := x
      cases f with
      | refused e =>
          simp [record, Finding.count, Finding.built?, Nat.add_assoc, Nat.add_comm 1]
      | built b code =>
          simp [record, Finding.count, Finding.built?, Statistics.countBuilder, Nat.add_assoc,
            Nat.add_comm 1]

end Progress

/-! ## The tree of a run -/

/-- The tree with all builders that were found. -/
def treeOf (found : List (Declaration × Finding)) : ModuleTree :=
  found.foldl (fun t x => x.2.addTo t) ModuleTree.empty

theorem recordAll_tree (p : Progress) (found : List (Declaration × Finding)) :
    (p.recordAll found).tree = found.foldl (fun t x => x.2.addTo t) p.tree := by
  induction found generalizing p with
  | nil => rfl
  | cons x found ih =>
      rw [Progress.recordAll, List.foldl_cons, ← Progress.recordAll, ih]
      rfl

/-- The entries of the tree are the builders that were found. -/
theorem entries_foldl_addTo (t : ModuleTree) (found : List (Declaration × Finding)) :
    (found.foldl (fun t x => x.2.addTo t) t).entries.Perm
      ((builtOf found).map PlannedBuilder.entry ++ t.entries) := by
  induction found generalizing t with
  | nil => exact List.Perm.refl _
  | cons x found ih =>
      obtain ⟨d, f⟩ := x
      rw [List.foldl_cons, builtOf_cons]
      cases f with
      | refused e => exact ih t
      | built b code =>
          refine (ih _).trans ?_
          refine ((ModuleTree.entries_push _ _ _).append_left _).trans ?_
          exact List.perm_middle

/-- The entries of the tree of a run are the builders that it found. -/
theorem perm_entries_treeOf (found : List (Declaration × Finding)) :
    (treeOf found).entries.Perm ((builtOf found).map PlannedBuilder.entry) := by
  have hperm := entries_foldl_addTo ModuleTree.empty found
  rwa [ModuleTree.entries_empty, List.append_nil] at hperm

theorem mem_entries_treeOf {found : List (Declaration × Finding)} {e : Entry} :
    e ∈ (treeOf found).entries ↔ ∃ b ∈ builtOf found, b.entry = e := by
  rw [(perm_entries_treeOf found).mem_iff, List.mem_map]

section Findings

variable {r : Registry} {policy : ShadowPolicy} {exposure : Exposure}

theorem Finds.grown {t : ModuleTree} {d : Declaration} {f : Finding}
    (h : Finds r policy exposure t d f) (ht : t.Grown) : (f.addTo t).Grown := by
  cases h with
  | misused | unplanned | collides => exact ht
  | built _ _ hinsert _ =>
      obtain rfl := ModuleTree.eq_push_of_insert hinsert
      exact ht.insert hinsert

theorem FindsAll.grown {t : ModuleTree} {found : List (Declaration × Finding)}
    (h : FindsAll r policy exposure t found) (ht : t.Grown) :
    (found.foldl (fun t x => x.2.addTo t) t).Grown := by
  induction h with
  | nil => exact ht
  | cons h _ ih => exact ih (h.grown ht)

end Findings

/-! ## Plans -/

namespace BuilderSpec

theorem addField_length {policy : ShadowPolicy} {f : ChainField}
    {acc acc' : List Setter × List ChainField} (h : addField policy acc f = .ok acc') :
    acc'.1.length + acc'.2.length = acc.1.length + acc.2.length + 1 := by
  unfold addField at h
  dsimp only at h
  split at h
  · cases h
  · split at h
    · obtain rfl := Except.ok.inj h
      simp only [List.length_append, List.length_singleton]
      omega
    · cases h
    · obtain rfl := Except.ok.inj h
      simp only [List.length_append, List.length_singleton]
      omega

/-- Every field of a chain gets a setter or is skipped. -/
theorem foldlM_addField_length {policy : ShadowPolicy} (fs : List ChainField)
    {acc acc' : List Setter × List ChainField} (h : fs.foldlM (addField policy) acc = .ok acc') :
    acc'.1.length + acc'.2.length = acc.1.length + acc.2.length + fs.length := by
  induction fs generalizing acc with
  | nil =>
      obtain rfl := Except.ok.inj h
      rfl
  | cons f fs ih =>
      rw [List.foldlM_cons] at h
      obtain ⟨acc₁, hadd, hrest⟩ := bind_eq_ok h
      rw [ih hrest, addField_length hadd, List.length_cons]
      omega

end BuilderSpec

theorem FieldChain.length_levelFields (r : Registry) (depth : Nat) (ds : List Declaration) :
    (levelFields r depth ds).length = (ds.map fun d => d.fields.length).sum := by
  induction ds generalizing depth with
  | nil => rfl
  | cons d ds ih => rw [levelFields, List.length_append, List.length_map, ih, List.map_cons,
      List.sum_cons]

/-- The builder is a plan for the type. -/
structure PlannedBuilder.IsPlanOf (r : Registry) (d : Declaration) (b : PlannedBuilder) : Prop where
  targetName : b.spec.targetName = d.pathString
  space : b.spec.space = d.module
  module : b.spec.module = builderModuleIdent d.ident
  wrapper : b.spec.wrapper = wrapperIdent d.ident
  /-- There is a setter or a skipped field for every field along the parents of the type. -/
  fields : ∃ ds, FieldChain.Lineage r d ds
    ∧ b.spec.setters.length + b.spec.skipped.length = (ds.map fun d => d.fields.length).sum

theorem isPlanOf_of_planBuilder {r : Registry} {policy : ShadowPolicy} {exposure : Exposure}
    {d : Declaration} {b : PlannedBuilder} (h : planBuilder r policy exposure d = .ok b) :
    b.IsPlanOf r d := by
  unfold planBuilder at h
  split at h
  · cases h
  · obtain ⟨chain, hchain, h⟩ := bind_eq_ok h
    obtain ⟨spec, hspec, h⟩ := bind_eq_ok h
    obtain rfl := Except.ok.inj h
    obtain ⟨⟨setters, skipped⟩, hpartition, hspec⟩ := bind_eq_ok hspec
    obtain rfl := Except.ok.inj hspec
    obtain ⟨ds, path, -, -, hg⟩ := FieldChain.gathers_of_ofDecl r hchain
    refine ⟨rfl, rfl, rfl, rfl, ds, hg.lineage, ?_⟩
    have hlength := BuilderSpec.foldlM_addField_length chain.fields hpartition
    rw [hg.fields, List.length_append, FieldChain.length_levelFields] at hlength
    simpa using hlength

section Findings

variable {r : Registry} {policy : ShadowPolicy} {exposure : Exposure}

theorem Finds.isPlanOf {t : ModuleTree} {d : Declaration} {b : PlannedBuilder} {code : String}
    (h : Finds r policy exposure t d (.built b code)) : b.IsPlanOf r d := by
  cases h with
  | built _ hplan _ _ => exact isPlanOf_of_planBuilder hplan

/-- A type is refused with an error that names it. -/
theorem Finds.error {t : ModuleTree} {d : Declaration} {e : Diagnostic}
    (h : Finds r policy exposure t d (.refused e)) : e = .markerMisuse d.ident.name
      ∨ ∃ failure : BuilderFailure, e = .generationFailed d.pathString failure.message := by
  cases h with
  | misused => exact Or.inl rfl
  | unplanned | collides => exact Or.inr ⟨_, rfl⟩

theorem FindsAll.exists_finds {t : ModuleTree} {found : List (Declaration × Finding)}
    (h : FindsAll r policy exposure t found) :
    ∀ x ∈ found, ∃ t, Finds r policy exposure t x.1 x.2 := by
  induction h with
  | nil => simp
  | cons h _ ih => exact List.forall_mem_cons.mpr ⟨⟨_, h⟩, ih⟩

end Findings

/-! ## A run as a whole -/

/-- The files of a tree in the layout of the settings. -/
def layOut (c : Config) (t : ModuleTree) : Except RenderFailure (List GeneratedFile) :=
  match c.layout with
  | .tree => t.renderTree c.exposure
  | .singleFile => (t.renderSingleFile c.exposure).map fun f => [f]

theorem layOut_congr {c c' : Config} (hlayout : c'.layout = c.layout)
    (hexposure : c'.exposure = c.exposure) (t : ModuleTree) : layOut c' t = layOut c t := by
  rw [layOut, layOut, hlayout, hexposure]

/-- Where a run starts. -/
def Progress.start (sources : SourceSet) : Progress :=
  { tree := ModuleTree.empty
    builders := []
    statistics :=
      { filesScanned := sources.files.length
        typesRegistered := (Registry.ofSources sources).types.length }
    diagnostics := sources.diagnostics ++ (Registry.ofSources sources).diagnostics }

/-- What a run leads to that has found this and has these files. -/
def Generated.ofFound (sources : SourceSet) (found : List (Declaration × Finding))
    (files : List GeneratedFile) : Generated :=
  let p := (Progress.start sources).recordAll found
  ⟨files, p.builders, { p.statistics with filesEmitted := files.length }, p.diagnostics⟩

section OfFound

variable (sources : SourceSet) (found : List (Declaration × Finding)) (files : List GeneratedFile)

theorem Generated.ofFound_builders :
    (ofFound sources found files).builders = (builtOf found).map PlannedBuilder.summary := by
  rw [ofFound, Progress.recordAll_builders, Progress.start, List.nil_append]

theorem Generated.ofFound_diagnostics : (ofFound sources found files).diagnostics
    = sources.diagnostics ++ (Registry.ofSources sources).diagnostics
      ++ found.flatMap fun x => x.2.remarks := by
  rw [ofFound, Progress.recordAll_diagnostics, Progress.start]

theorem Generated.ofFound_statistics : (ofFound sources found files).statistics =
    { filesScanned := sources.files.length
      typesRegistered := (Registry.ofSources sources).types.length
      annotatedTypes := found.length
      buildersGenerated := (builtOf found).length
      settersGenerated := ((builtOf found).map fun b => b.spec.setters.length).sum
      shadowedFieldsSkipped := ((builtOf found).map fun b => b.spec.skipped.length).sum
      filesEmitted := files.length } := by
  rw [ofFound, Progress.recordAll_statistics, Progress.start]
  simp only [Nat.zero_add]

end OfFound

/-- The types that the settings select of those that a builder is asked for. -/
def selectedTypes (c : Config) (sources : SourceSet) : List Declaration :=
  (Registry.ofSources sources).annotated.filter fun d => c.selects d.pathString

section Run

variable {sources : SourceSet} {r : Registry} (hr : (Registry.ofSources sources).Enumerates r)
include hr

theorem generateFrom_eq (c : Config) :
    generateFrom c r sources = (Registry.ofSources sources).annotated.foldlM
        (Progress.addType c r) (Progress.start sources) >>= fun p =>
      layOut c p.tree >>= fun files => .ok
        ⟨files, p.builders, { p.statistics with filesEmitted := files.length }, p.diagnostics⟩ := by
  have hannotated : r.annotated = (Registry.ofSources sources).annotated := by
    rw [Registry.annotated, hr.types, Registry.annotated]
  unfold generateFrom layOut Progress.start
  rw [hannotated, hr.types, hr.diagnostics]
  cases c.layout <;> rfl

/-- A run finds something for each selected type, writes the tree, and answers what it noted down. -/
theorem generateFrom_eq_ok_iff {c : Config} {g : Generated} :
    generateFrom c r sources = .ok g ↔ ∃ found files,
      FindsAll r c.shadowPolicy c.exposure ModuleTree.empty found
        ∧ found.map Prod.fst = selectedTypes c sources
        ∧ layOut c (treeOf found) = .ok files ∧ g = .ofFound sources found files := by
  rw [generateFrom_eq hr, bind_eq_ok_iff]
  simp only [Progress.foldlM_addType_eq_ok_iff, bind_eq_ok_iff, Except.ok.injEq]
  constructor
  · rintro ⟨_, ⟨found, hfound, hmap, rfl⟩, files, hfiles, rfl⟩
    rw [recordAll_tree] at hfiles
    exact ⟨found, files, hfound, hmap, hfiles, rfl⟩
  · rintro ⟨found, files, hfound, hmap, hfiles, rfl⟩
    refine ⟨_, ⟨found, hfound, hmap, rfl⟩, files, ?_, rfl⟩
    rw [recordAll_tree]
    exact hfiles

end Run

/-- A run that enumerates exports as they are declared. -/
theorem generate_eq_ok_iff {c : Config} {sources : SourceSet} {g : Generated} :
    generate c sources = .ok g ↔ ∃ found files,
      FindsAll (Registry.ofSources sources) c.shadowPolicy c.exposure ModuleTree.empty found
        ∧ found.map Prod.fst = selectedTypes c sources
        ∧ layOut c (treeOf found) = .ok files ∧ g = .ofFound sources found files :=
  generateFrom_eq_ok_iff (.refl _)

end BuilderForge
