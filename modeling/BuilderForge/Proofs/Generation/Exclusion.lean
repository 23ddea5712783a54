import BuilderForge.Proofs.Config.Selection
import BuilderForge.Proofs.Generation.Accounts
import BuilderForge.Proofs.Generation.Enumeration

set_option autoImplicit false

/-! # Runs without a type that is refused

A type that gets no builder leaves nothing behind but its error: a run that is told to exclude it by
its full path ends with the same files and builders (`generate_excluding`), unless the path means
another type as well. The two runs may enumerate exports in different orders, as long as they name
items alike.
-/

namespace BuilderForge

/-! ## Leaving out what was refused -/

attribute [ext] Generated

section Filter

variable {found : List (Declaration × Finding)} {p : Declaration × Finding → Bool}
  (hp : ∀ x ∈ found, x.2.built?.isSome = true → p x = true)
include hp

/-- What was found for other types does not depend on those that were refused. -/
theorem FindsAll.filter {r : Registry} {policy : ShadowPolicy} {exposure : Exposure}
    {t : ModuleTree} (h : FindsAll r policy exposure t found) :
    FindsAll r policy exposure t (found.filter p) := by
  induction h with
  | nil => exact .nil
  | @cons t d f found hf hrest ih =>
      rw [List.forall_mem_cons] at hp
      rw [List.filter_cons]
      split
      · exact .cons hf (ih hp.2)
      · next hout =>
          cases f with
          | refused e => exact ih hp.2
          | built b code => exact absurd (hp.1 rfl) hout

theorem treeOf_filter : treeOf (found.filter p) = treeOf found := by
  rw [treeOf, treeOf]
  generalize ModuleTree.empty = t
  induction found generalizing t with
  | nil => rfl
  | cons x found ih =>
      rw [List.forall_mem_cons] at hp
      rw [List.filter_cons, List.foldl_cons]
      split
      · exact ih hp.2 _
      · next hout =>
          obtain ⟨d, f⟩ := x
          cases f with
          | refused e => exact ih hp.2 t
          | built b code => exact absurd (hp.1 rfl) hout

theorem builtOf_filter : builtOf (found.filter p) = builtOf found := by
  rw [builtOf, builtOf, List.filterMap_filter]
  refine List.filterMap_congr fun x hx => ?_
  split
  · rfl
  · next hout =>
      rw [eq_comm, ← Option.not_isSome_iff_eq_none]
      exact fun hbuilt => hout (hp x hx hbuilt)

end Filter

/-- A type is left out alone. -/
theorem length_filter_path_ne {found : List (Declaration × Finding)}
    (hpaths : (found.map fun y => y.1.pathString).Nodup) {d : Declaration} {f : Finding}
    (hx : (d, f) ∈ found) :
    found.length = (found.filter fun y => y.1.pathString != d.pathString).length + 1 := by
  have hone : found.countP (fun y => y.1.pathString == d.pathString) = 1 := by
    have hcount := List.count_eq_one_of_mem hpaths
      (List.mem_map_of_mem (f := fun y => y.1.pathString) hx)
    rwa [List.count, List.countP_map] at hcount
  rw [found.length_eq_countP_add_countP fun y => y.1.pathString == d.pathString, hone,
    Nat.add_comm, ← List.countP_eq_length_filter]
  simp only [bne, Bool.not_eq_true, Bool.decide_eq_false]

/-- A type without a summary was refused. -/
theorem FindsAll.exists_refused {r : Registry} {policy : ShadowPolicy} {exposure : Exposure}
    {found : List (Declaration × Finding)}
    (hfound : FindsAll r policy exposure ModuleTree.empty found)
    (hpaths : (found.map fun y => y.1.pathString).Nodup) {d : Declaration}
    (hd : d ∈ found.map Prod.fst)
    (hnone : ∀ s ∈ (builtOf found).map PlannedBuilder.summary, s.typeName ≠ d.pathString) :
    ∃ error, (d, .refused error) ∈ found := by
  obtain ⟨⟨d, f⟩, hx, rfl⟩ := List.mem_map.mp hd
  cases f with
  | refused error => exact ⟨error, hx⟩
  | built b code =>
      obtain ⟨b', hb', heq⟩ := List.mem_map.mp ((hfound.mem_typeNames_iff hpaths hx).mpr rfl)
      exact absurd heq (hnone _ (List.mem_map_of_mem hb'))

theorem selectedTypes_excluding (c : Config) (sources : SourceSet) (entry : String) :
    selectedTypes { c with exclude := c.exclude ++ [entry] } sources
      = (selectedTypes c sources).filter fun d => !Config.names entry d.pathString := by
  rw [selectedTypes, selectedTypes, List.filter_filter]
  refine List.filter_congr fun d _ => ?_
  rw [Config.selects_excluding, Bool.and_comm]

section TwoRuns

variable {sources : SourceSet} {r r' : Registry}
  (hr : (Registry.ofSources sources).Enumerates r) (hr' : (Registry.ofSources sources).Enumerates r')
include hr hr'

/-- A run that is told to exclude a type that gets no builder ends as one that is not, except that
the error about it is missing and the type is not counted. -/
theorem generate_excluding (hnames : r.NamesAlike r') {c : Config} {g : Generated}
    (h : generateFrom c r sources = .ok g) {d : Declaration} (hd : d ∈ selectedTypes c sources)
    (hnone : ∀ s ∈ g.builders, s.typeName ≠ d.pathString) (hident : nameError? d.ident = none)
    (hcrate : ∀ e ∈ selectedTypes c sources, e.pathString ≠ "crate::" ++ d.pathString) :
    ∃ remarks error n, Outcomes c sources g remarks ∧ (d, [error]) ∈ remarks
      ∧ g.statistics.annotatedTypes = n + 1
      ∧ generateFrom { c with exclude := c.exclude ++ [d.pathString] } r' sources = .ok
        { g with
          statistics := { g.statistics with annotatedTypes := n }
          diagnostics := sources.diagnostics ++ (Registry.ofSources sources).diagnostics
            ++ (remarks.filter fun x => x.1.pathString != d.pathString).flatMap Prod.snd } := by
  obtain ⟨found, files, hfound, hmap, hfiles, rfl⟩ := (generateFrom_eq_ok_iff hr).mp h
  have hpaths := nodup_paths hmap
  rw [Generated.ofFound_builders] at hnone
  obtain ⟨error, hx⟩ := hfound.exists_refused hpaths (hmap ▸ hd) hnone
  -- only the refused type has its path, so that no builder is left out
  have hp : ∀ y ∈ found, y.2.built?.isSome = true → (y.1.pathString != d.pathString) = true := by
    intro y hy hbuilt
    rw [bne_iff_ne]
    intro heq
    rw [List.inj_on_of_nodup_map hpaths hy hx heq] at hbuilt
    cases hbuilt
  have hselected : (found.filter fun y => y.1.pathString != d.pathString).map Prod.fst
      = selectedTypes { c with exclude := c.exclude ++ [d.pathString] } sources := by
    have hcomp : (fun y : Declaration × Finding => y.1.pathString != d.pathString)
        = (fun e : Declaration => e.pathString != d.pathString) ∘ Prod.fst := rfl
    rw [hcomp, ← List.filter_map, hmap, selectedTypes_excluding]
    refine List.filter_congr fun e he => ?_
    rw [bne, Config.names_pathString hident (hcrate e he)]
  refine ⟨_, error, (found.filter fun y => y.1.pathString != d.pathString).length,
    outcomes_ofFound hfound hmap hfiles, List.mem_map.mpr ⟨_, hx, rfl⟩, ?_, ?_⟩
  · have hlength := length_filter_path_ne hpaths hx
    simp only [Generated.ofFound_statistics]
    exact hlength
  · have hfound' := (hfound.filter hp).of_namesAlike (hr.symm.trans hr') hnames
    refine (generateFrom_eq_ok_iff hr').mpr ⟨_, files, hfound', hselected, ?_, ?_⟩
    · have hlayout : layOut { c with exclude := c.exclude ++ [d.pathString] } (treeOf found)
          = layOut c (treeOf found) :=
        layOut_congr rfl rfl _
      rw [treeOf_filter hp, hlayout]
      exact hfiles
    · refine Generated.ext rfl ?_ ?_ ?_
      · simp only [Generated.ofFound_builders, builtOf_filter hp]
      · simp only [Generated.ofFound_statistics, builtOf_filter hp]
      · simp only [Generated.ofFound_diagnostics, List.filter_map, List.flatMap_map]
        rfl

end TwoRuns

/-- A run without the enum of `renamingSources` that enumerates exports in another order. -/
theorem excluding_shape : ∃ g, ∃ d ∈ selectedTypes {} (renamingSources "Square"),
    generate {} (renamingSources "Square") = .ok g
      ∧ (∀ s ∈ g.builders, s.typeName ≠ d.pathString) ∧ nameError? d.ident = none
      ∧ (∀ e ∈ selectedTypes {} (renamingSources "Square"),
        e.pathString ≠ "crate::" ++ d.pathString)
      ∧ ∃ g', generateFrom { exclude := [d.pathString] } (renamingRegistry "Square")
          (renamingSources "Square") = .ok g'
        ∧ g'.files = g.files ∧ g'.builders = g.builders ∧ g.statistics.annotatedTypes
          = g'.statistics.annotatedTypes + 1 := by
  obtain ⟨g, hg, hbuilders, -⟩ := exists_run_squareSources
  have htypes : (selectedTypes {} (renamingSources "Square")).map (fun d => (d.pathString, d.ident))
      = [("crate::a::Shape", ⟨"Shape", false⟩), ("crate::a::h::Circle", ⟨"Circle", false⟩)] := by
    decide +kernel
  have hmem : ("crate::a::Shape", (⟨"Shape", false⟩ : Code.Ident))
      ∈ (selectedTypes {} (renamingSources "Square")).map fun d => (d.pathString, d.ident) := by
    rw [htypes]
    decide
  obtain ⟨d, hd, heq⟩ := List.mem_map.mp hmem
  obtain ⟨hpath, hident⟩ := Prod.mk.inj heq
  have hname : nameError? d.ident = none := by
    rw [hident]
    decide +kernel
  have hnone : ∀ s ∈ g.builders, s.typeName ≠ d.pathString := by
    intro s hs
    have hs := List.mem_map_of_mem (f := BuilderSummary.typeName) hs
    rw [hbuilders, List.mem_singleton] at hs
    rw [hs, hpath]
    decide
  have hcrate : ∀ e ∈ selectedTypes {} (renamingSources "Square"),
      e.pathString ≠ "crate::" ++ d.pathString := by
    intro e he
    have he := List.mem_map_of_mem (f := fun d : Declaration => (d.pathString, d.ident)) he
    rw [htypes, List.mem_pair, Prod.mk.injEq, Prod.mk.injEq] at he
    rcases he with ⟨he, -⟩ | ⟨he, -⟩ <;> rw [he, hpath] <;> decide
  obtain ⟨remarks, error, n, -, -, hcount, hrun⟩ := generate_excluding (.refl _)
    enumerates_squareRegistry namesAlike_squareRegistry hg hd hnone hname hcrate
  exact ⟨g, d, hd, hg, hnone, hname, hcrate, _, hrun, rfl, rfl, hcount⟩

end BuilderForge
