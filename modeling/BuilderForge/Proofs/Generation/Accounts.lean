import BuilderForge.Proofs.Builder.Setters
import BuilderForge.Proofs.Generation.Outcome
import BuilderForge.Proofs.Registry.Building
import Mathlib.Logic.Basic

set_option autoImplicit false

/-! # The accounts of a run

A run that ends well has one outcome for every selected type: a builder, with one summary, one note
and, in the layout of a tree, one file; or one error and nothing else. Its numbers are those of the
outcomes (`generate_accounts`).
-/

namespace BuilderForge

/-- A builder came of the type: it has one summary, one note behind warnings about names in the types
of its fields, and in the layout of a tree one file. There is no error about it. -/
structure IsBuilt (layout : Layout) (g : Generated) (d : Declaration) (remarks : List Diagnostic) :
    Prop where
  summary : g.builders.countP (fun s => s.typeName = d.pathString) = 1
  note : ∃ warnings code, remarks = warnings ++ [.generatedBuilder d.pathString code]
    ∧ ∀ w ∈ warnings, ∃ field name, w = .unresolvedTypeName d.pathString field name
  file : layout = .tree → g.files.countP (fun f => f.owner = some d.pathString) = 1

/-- No builder came of the type: all there is is one error. -/
structure IsRefused (g : Generated) (d : Declaration) (remarks : List Diagnostic) : Prop where
  no_summary : ∀ s ∈ g.builders, s.typeName ≠ d.pathString
  error : remarks = [.markerMisuse d.ident.name]
    ∨ ∃ failure : BuilderFailure, remarks = [.generationFailed d.pathString failure.message]
  no_file : ∀ f ∈ g.files, f.owner ≠ some d.pathString

/-- What a run said besides what reading the sources led to: remarks about the selected types, one
after the other. Each of these has exactly one of two outcomes. -/
structure Outcomes (c : Config) (sources : SourceSet) (g : Generated)
    (remarks : List (Declaration × List Diagnostic)) : Prop where
  types : remarks.map Prod.fst = selectedTypes c sources
  diagnostics : g.diagnostics = sources.diagnostics ++ (Registry.ofSources sources).diagnostics
    ++ remarks.flatMap Prod.snd
  outcome : ∀ x ∈ remarks, Xor (IsBuilt c.layout g x.1 x.2) (IsRefused g x.1 x.2)

/-- The outcomes of a run and its numbers. -/
structure Accounts (c : Config) (sources : SourceSet) (g : Generated) : Prop where
  /-- The selected types have different paths. -/
  nodup : ((selectedTypes c sources).map Declaration.pathString).Nodup
  outcomes : ∃ remarks, Outcomes c sources g remarks
    ∧ g.statistics.annotatedTypes = g.statistics.buildersGenerated
      + (remarks.flatMap Prod.snd).countP Diagnostic.isError
  annotated : g.statistics.annotatedTypes = (selectedTypes c sources).length
  generated : g.statistics.buildersGenerated = g.builders.length
  owned : c.layout = .tree → g.files.countP (fun f => f.owner.isSome) = g.builders.length
  /-- Setters and skipped fields are the fields of the structs above the types with builders. -/
  fields : ∃ lineages : List (List Declaration),
    List.Forall₂ (fun (s : BuilderSummary) ds => ∃ d ∈ selectedTypes c sources,
      s.typeName = d.pathString ∧ FieldChain.Lineage (Registry.ofSources sources) d ds)
      g.builders lineages
    ∧ g.statistics.settersGenerated + g.statistics.shadowedFieldsSkipped
      = (lineages.map fun ds => (ds.map fun d => d.fields.length).sum).sum

/-! ## Files with owners -/

/-- In the layout of a tree the owners of files are those of the builders in the tree; else no file
has an owner. -/
theorem owners_layOut {c : Config} {t : ModuleTree} {files : List GeneratedFile} (ht : t.Tidy)
    (h : layOut c t = .ok files) : files.filterMap GeneratedFile.owner
      = if c.layout = .tree then t.entries.map fun e => e.builder.owner else [] := by
  unfold layOut at h
  cases hlayout : c.layout with
  | tree =>
      rw [hlayout] at h
      exact ModuleTree.owners_renderTree ht h
  | singleFile =>
      rw [hlayout] at h
      cases hfile : t.renderSingleFile c.exposure with
      | error e =>
          rw [hfile] at h
          cases h
      | ok f =>
          rw [hfile] at h
          obtain rfl := Except.ok.inj h
          obtain ⟨ts, -, code, -, rfl⟩ := ModuleTree.renderSingleFile_eq_ok_iff.mp hfile
          rfl

/-! ## What was found -/

section Found

variable {r : Registry} {policy : ShadowPolicy} {exposure : Exposure}
  {found : List (Declaration × Finding)}
  (hfound : FindsAll r policy exposure ModuleTree.empty found)
include hfound

/-- A summary is about the type that it was found for. -/
theorem FindsAll.typeNames : (builtOf found).map (fun b => b.summary.typeName)
    = (found.filter fun x => x.2.built?.isSome).map fun x => x.1.pathString := by
  have hfinds := hfound.exists_finds
  clear hfound
  induction found with
  | nil => rfl
  | cons x found ih =>
      obtain ⟨d, f⟩ := x
      rw [List.forall_mem_cons] at hfinds
      rw [builtOf_cons, List.map_append, ih hfinds.2, List.filter_cons]
      cases f with
      | refused e => rfl
      | built b code =>
          obtain ⟨t, ht⟩ := hfinds.1
          simp [Finding.built?, PlannedBuilder.summary, BuilderSummary.ofSpec,
            ht.isPlanOf.targetName]

variable (hnodup : (found.map fun x => x.1.pathString).Nodup)
include hnodup

/-- No two summaries are about one type. -/
theorem FindsAll.nodup_typeNames :
    ((builtOf found).map fun b => b.summary.typeName).Nodup := by
  rw [hfound.typeNames]
  exact hnodup.sublist (List.filter_sublist.map _)

/-- There is a summary about a type if and only if it was found to get a builder. -/
theorem FindsAll.mem_typeNames_iff {x : Declaration × Finding} (hx : x ∈ found) :
    x.1.pathString ∈ (builtOf found).map (fun b => b.summary.typeName)
      ↔ x.2.built?.isSome = true := by
  rw [hfound.typeNames, List.mem_map]
  constructor
  · rintro ⟨y, hy, hpath⟩
    rw [List.mem_filter] at hy
    rw [← List.inj_on_of_nodup_map hnodup hy.1 hx hpath]
    exact hy.2
  · intro hbuilt
    exact ⟨x, List.mem_filter.mpr ⟨hx, hbuilt⟩, rfl⟩

end Found

/-- The errors that were found are those of types without builders. -/
theorem length_eq_built_add_errors {r : Registry} {policy : ShadowPolicy} {exposure : Exposure}
    {found : List (Declaration × Finding)}
    (hfinds : ∀ x ∈ found, ∃ t, Finds r policy exposure t x.1 x.2) :
    found.length = (builtOf found).length
      + (found.flatMap fun x => x.2.remarks).countP Diagnostic.isError := by
  induction found with
  | nil => rfl
  | cons x found ih =>
      obtain ⟨d, f⟩ := x
      rw [List.forall_mem_cons] at hfinds
      rw [List.length_cons, ih hfinds.2, builtOf_cons, List.length_append, List.flatMap_cons,
        List.countP_append]
      cases f with
      | refused e =>
          obtain ⟨t, ht⟩ := hfinds.1
          have herror : e.isError = true := by
            rcases ht.error with he | ⟨failure, he⟩ <;> exact he ▸ rfl
          simp only [Finding.built?, Finding.remarks, Option.toList, List.length_nil,
            List.countP_cons, List.countP_nil, herror, if_true]
          omega
      | built b code =>
          have hnone : (Progress.remarks b code).countP Diagnostic.isError = 0 := by
            simp [Progress.remarks, Diagnostic.isError, Diagnostic.level, List.countP_map,
              List.countP_eq_zero]
          simp only [Finding.built?, Finding.remarks, Option.toList, List.length_singleton, hnone]
          omega

/-- The fields of the structs above the types with builders are set or skipped. -/
theorem FindsAll.exists_lineages {r : Registry} {policy : ShadowPolicy} {exposure : Exposure}
    {found : List (Declaration × Finding)}
    (hfinds : ∀ x ∈ found, ∃ t, Finds r policy exposure t x.1 x.2) :
    ∃ lineages : List (List Declaration),
      List.Forall₂ (fun (b : PlannedBuilder) ds => ∃ d ∈ found.map Prod.fst,
        b.summary.typeName = d.pathString ∧ FieldChain.Lineage r d ds) (builtOf found) lineages
      ∧ ((builtOf found).map fun b => b.spec.setters.length).sum
          + ((builtOf found).map fun b => b.spec.skipped.length).sum
        = (lineages.map fun ds => (ds.map fun d => d.fields.length).sum).sum := by
  induction found with
  | nil => exact ⟨[], .nil, rfl⟩
  | cons x found ih =>
      obtain ⟨d, f⟩ := x
      rw [List.forall_mem_cons] at hfinds
      obtain ⟨lineages, hlineages, hsum⟩ := ih hfinds.2
      have hlineages : List.Forall₂ (fun (b : PlannedBuilder) ds =>
          ∃ e ∈ d :: found.map Prod.fst, b.summary.typeName = e.pathString
            ∧ FieldChain.Lineage r e ds) (builtOf found) lineages :=
        hlineages.imp fun b ds ⟨e, he, h⟩ => ⟨e, List.mem_cons_of_mem d he, h⟩
      rw [builtOf_cons]
      cases f with
      | refused e => exact ⟨lineages, hlineages, hsum⟩
      | built b code =>
          obtain ⟨t, ht⟩ := hfinds.1
          have hplan := ht.isPlanOf
          obtain ⟨ds, hds, hlength⟩ := hplan.fields
          refine ⟨ds :: lineages,
            .cons ⟨d, List.mem_cons_self, hplan.targetName, hds⟩ hlineages, ?_⟩
          simp only [Finding.built?, Option.toList, List.singleton_append, List.map_cons,
            List.sum_cons, ← hlength, ← hsum]
          omega

/-! ## The accounts -/

section Accounts

variable {c : Config} {sources : SourceSet} {r : Registry} {found : List (Declaration × Finding)}
  {files : List GeneratedFile}
  (hfound : FindsAll r c.shadowPolicy c.exposure ModuleTree.empty found)
  (hnodup : (found.map fun x => x.1.pathString).Nodup)
  (hfiles : layOut c (treeOf found) = .ok files)
include hfound hfiles

/-- In the layout of a tree the files with owners are those of the summaries. -/
theorem perm_owners (hlayout : c.layout = .tree) : (files.filterMap GeneratedFile.owner).Perm
    ((builtOf found).map fun b => b.summary.typeName) := by
  have hgrown := hfound.grown .empty
  rw [owners_layOut hgrown.tidy hfiles, if_pos hlayout]
  have hentries := (perm_entries_treeOf found).map fun e => e.builder.owner
  rwa [List.map_map] at hentries

theorem owner_eq_none (hlayout : c.layout ≠ .tree) : ∀ f ∈ files, f.owner = none := by
  have hgrown := hfound.grown .empty
  have hnone := owners_layOut hgrown.tidy hfiles
  rw [if_neg hlayout] at hnone
  exact List.filterMap_eq_nil_iff.mp hnone

/-- The owner of a file has a summary. -/
theorem mem_typeNames_of_owner {file : GeneratedFile} (hfile : file ∈ files) {owner : String}
    (howner : file.owner = some owner) :
    owner ∈ (builtOf found).map fun b => b.summary.typeName := by
  by_cases hlayout : c.layout = .tree
  · rw [← (perm_owners hfound hfiles hlayout).mem_iff]
    exact List.mem_filterMap.mpr ⟨file, hfile, howner⟩
  · rw [owner_eq_none hfound hfiles hlayout file hfile] at howner
    cases howner

include hnodup

/-- The outcome of a type is the one that was found. -/
theorem outcome_of_mem {x : Declaration × Finding} (hx : x ∈ found) :
    Xor (IsBuilt c.layout (.ofFound sources found files) x.1 x.2.remarks)
      (IsRefused (.ofFound sources found files) x.1 x.2.remarks) := by
  have hiff := hfound.mem_typeNames_iff hnodup hx
  have hnames := hfound.nodup_typeNames hnodup
  obtain ⟨t, ht⟩ := hfound.exists_finds x hx
  obtain ⟨d, f⟩ := x
  cases f with
  | refused e =>
      have hnone : d.pathString ∉ (builtOf found).map fun b => b.summary.typeName :=
        fun hmem => Bool.false_ne_true (hiff.mp hmem)
      have hsummary : ∀ s ∈ (Generated.ofFound sources found files).builders,
          s.typeName ≠ d.pathString := by
        rw [Generated.ofFound_builders, List.forall_mem_map]
        exact fun b hb heq => hnone (heq ▸ List.mem_map_of_mem hb)
      -- that there is no summary of the type excludes the other outcome
      refine Or.inr ⟨⟨hsummary, ?_, ?_⟩, fun hbuilt => ?_⟩
      · rcases ht.error with he | ⟨failure, he⟩
        · exact Or.inl (he ▸ rfl)
        · exact Or.inr ⟨failure, he ▸ rfl⟩
      · intro file hfile howner
        exact hnone (mem_typeNames_of_owner hfound hfiles hfile howner)
      · have hcount := List.countP_pos_iff.mp (hbuilt.summary ▸ Nat.one_pos)
        obtain ⟨s, hs, heq⟩ := hcount
        exact hsummary s hs (of_decide_eq_true heq)
  | built b code =>
      have hsome : d.pathString ∈ (builtOf found).map fun b => b.summary.typeName := hiff.mpr rfl
      have hcount := List.count_eq_one_of_mem hnames hsome
      have hsummary : (Generated.ofFound sources found files).builders.countP
          (fun s => s.typeName = d.pathString) = 1 := by
        rw [Generated.ofFound_builders, List.countP_map, ← hcount, List.count, List.countP_map]
        exact List.countP_congr fun b _ => by simp
      refine Or.inl ⟨⟨hsummary, ?_, ?_⟩, fun hrefused => ?_⟩
      · have htarget := ht.isPlanOf.targetName
        refine ⟨_, code, by rw [Finding.remarks, Progress.remarks, htarget], ?_⟩
        rw [List.forall_mem_map]
        exact fun x _ => ⟨x.1, x.2, rfl⟩
      · -- the files are as many as the summaries, by the owners
        intro hlayout
        rw [← hcount, ← (perm_owners hfound hfiles hlayout).count_eq, List.count,
          List.countP_filterMap]
        exact List.countP_congr fun f _ => by cases f.owner <;> simp
      · obtain ⟨s, hs, heq⟩ := List.countP_pos_iff.mp (hsummary ▸ Nat.one_pos)
        exact hrefused.no_summary s hs (of_decide_eq_true heq)

end Accounts

/-- The types that a run found something for have different paths. -/
theorem nodup_paths {c : Config} {sources : SourceSet} {found : List (Declaration × Finding)}
    (hmap : found.map Prod.fst = selectedTypes c sources) :
    (found.map fun x => x.1.pathString).Nodup := by
  have hpaths : (found.map Prod.fst).map Declaration.pathString
      = found.map fun x => x.1.pathString := List.map_map
  rw [← hpaths, hmap]
  exact (Registry.nodup_annotated sources).sublist (List.filter_sublist.map _)

/-- The outcomes are what was found. -/
theorem outcomes_ofFound {c : Config} {sources : SourceSet} {r : Registry}
    {found : List (Declaration × Finding)} {files : List GeneratedFile}
    (hfound : FindsAll r c.shadowPolicy c.exposure ModuleTree.empty found)
    (hmap : found.map Prod.fst = selectedTypes c sources)
    (hfiles : layOut c (treeOf found) = .ok files) :
    Outcomes c sources (.ofFound sources found files)
      (found.map fun x => (x.1, x.2.remarks)) := by
  refine ⟨?_, ?_, ?_⟩
  · rw [List.map_map]
    exact hmap
  · rw [Generated.ofFound_diagnostics, List.flatMap_map]
  · rw [List.forall_mem_map]
    exact fun x hx => outcome_of_mem hfound (nodup_paths hmap) hfiles hx

/-- A run that ends well accounts for all selected types. -/
theorem generate_accounts {c : Config} {sources : SourceSet} {g : Generated}
    (h : generate c sources = .ok g) : Accounts c sources g := by
  obtain ⟨found, files, hfound, hmap, hfiles, rfl⟩ := generate_eq_ok_iff.mp h
  have hlength : found.length = (selectedTypes c sources).length := by
    rw [← hmap, List.length_map]
  have hcount := length_eq_built_add_errors hfound.exists_finds
  obtain ⟨lineages, hlineages, hsum⟩ := FindsAll.exists_lineages hfound.exists_finds
  refine ⟨?_, ?_, ?_, ?_, ?_, ?_⟩
  · exact (Registry.nodup_annotated sources).sublist (List.filter_sublist.map _)
  · refine ⟨_, outcomes_ofFound hfound hmap hfiles, ?_⟩
    rw [Generated.ofFound_statistics, List.flatMap_map]
    exact hcount
  · rw [Generated.ofFound_statistics]
    exact hlength
  · rw [Generated.ofFound_statistics, Generated.ofFound_builders, List.length_map]
  · intro hlayout
    rw [Generated.ofFound_builders, List.length_map]
    have howners := (perm_owners hfound hfiles hlayout).length_eq
    rw [List.length_filterMap_eq_countP, List.length_map] at howners
    exact howners
  · refine ⟨lineages, ?_, ?_⟩
    · rw [Generated.ofFound_builders, List.forall₂_map_left_iff, ← hmap]
      exact hlineages
    · rw [Generated.ofFound_statistics]
      exact hsum

/-- A struct without fields and an enum that ask for builders. -/
def pointAndShape : SourceSet where
  files := [⟨"src/lib.rs", .root, [],
    [BuilderSpec.structOf "TestBuilder" "Point" [],
      .enum [BuilderSpec.attributeOn "derive" "TestBuilder"] .everywhere ⟨"Shape", false⟩
        Code.Span.nowhere Code.Generics.none []]⟩]

theorem exists_eq_ok {ε α β : Type} {x : Except ε α} {f : α → β} {b : β}
    (h : x.toOption.map f = some b) : ∃ a, x = .ok a ∧ f a = b := by
  cases x with
  | error e => cases h
  | ok a => exact ⟨a, rfl, Option.some.inj h⟩

/-- The struct gets a builder, and there is one error about the enum. -/
theorem exists_run_pointAndShape : ∃ g, generate {} pointAndShape = .ok g
    ∧ g.builders.map BuilderSummary.typeName = ["crate::Point"]
    ∧ g.errors = [.markerMisuse "Shape"] := by
  have hrun : (generate {} pointAndShape).toOption.map
      (fun g => (g.builders.map BuilderSummary.typeName, g.errors))
      = some (["crate::Point"], [.markerMisuse "Shape"]) := by
    decide +kernel
  obtain ⟨g, hg, heq⟩ := exists_eq_ok hrun
  exact ⟨g, hg, Prod.mk.inj heq⟩

/-- The accounts of a run with one type of either outcome. -/
theorem accounts_pointAndShape : ∃ g, generate {} pointAndShape = .ok g
    ∧ g.builders.length = 1 ∧ g.errors.length = 1 ∧ Accounts {} pointAndShape g := by
  obtain ⟨g, hg, hbuilders, herrors⟩ := exists_run_pointAndShape
  refine ⟨g, hg, ?_, ?_, generate_accounts hg⟩
  · rw [← List.length_map (f := BuilderSummary.typeName), hbuilders, List.length_singleton]
  · rw [herrors, List.length_singleton]

end BuilderForge
