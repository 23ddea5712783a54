import BuilderForge.Proofs.Derive.Agreement
import BuilderForge.Proofs.Generation.Accounts
import BuilderForge.Proofs.Registry.Contents
import BuilderForge.Proofs.Scan.Skipping

set_option autoImplicit false

/-! # The module of the builders and a run

The module that holds the builders is not scanned, so that what was generated before is not taken for
a part of the crate. For a module with files of its own the scan sees to that. The registry knows
nothing of it and goes into every module that stands with its body in the file of the root. So a run
leaves the module alone if and only if no type is declared in such a body
(`leavesAlone_iff_inlineTypes`).
-/

namespace BuilderForge

open Code (Ident Item)

/-! ## Bodies of a module -/

/-- A module of this name, declared with its body. -/
def Code.Item.isModuleNamed (name : String) : Item → Bool
  | .module _ _ _ i content => i.name == name && content.isSome
  | _ => false

namespace SourceSet

/-- The modules of a name that stand with their bodies in the file of the root, and the modules
inside of them. -/
def inlineBodies (name : String) (s : SourceSet) : List (ModulePath × List Item) :=
  (s.files.filter fun f => f.module.isRoot).flatMap fun f =>
    (f.code.items.filter (·.isModuleNamed name)).flatMap (Item.bodies .root)

end SourceSet

namespace Registry

/-! ## Remarks on fields -/

/-- A mark that cannot be read is no error. -/
theorem isError_of_mem_ofStruct {m : ModulePath} {i : Ident} {attrs : List Code.Attribute}
    {generic : Bool} {fields : Code.Fields} {e : Diagnostic}
    (he : e ∈ (Declaration.ofStruct m i attrs generic fields).2) : e.isError = false := by
  rw [Declaration.ofStruct_eq] at he
  obtain ⟨f, -, he⟩ := List.mem_flatMap.mp he
  unfold Code.Field.remarks at he
  split at he
  · rw [List.mem_singleton.mp he]
    rfl
  · cases he

theorem diagnostics_noteVisibility (r : Registry) (m : ModulePath) (i : Ident)
    (vis : Code.Visibility) : (r.noteVisibility m i vis).diagnostics = r.diagnostics := by
  simp only [noteVisibility]
  split <;> rfl

theorem diagnostics_insert (r : Registry) (d : Declaration) :
    (r.insert d).diagnostics = r.diagnostics := by
  unfold insert
  split <;> rfl

theorem isError_addItem {m : ModulePath} {acc : Registry × Scope}
    (h : ∀ e ∈ acc.1.diagnostics, e.isError = false) (i : Item) :
    ∀ e ∈ (addItem m acc i).1.diagnostics, e.isError = false := by
  intro e he
  cases i with
  | struct attrs vis i span g fields =>
      simp only [addItem, diagnostics_insert, diagnostics_noteVisibility] at he
      rcases List.mem_append.mp he with he | he
      · exact h e he
      · exact isError_of_mem_ofStruct he
  | enum | union =>
      simp only [addItem, diagnostics_insert, diagnostics_noteVisibility] at he
      exact h e he
  | named | module =>
      simp only [addItem, diagnostics_noteVisibility] at he
      exact h e he
  | use | externCrate | other => exact h e he

/-- The registry reports no errors. -/
theorem isError_of_mem_ofSources (sources : SourceSet) :
    ∀ e ∈ (ofSources sources).diagnostics, e.isError = false := by
  refine ofSources_induction (P := fun r => ∀ e ∈ r.diagnostics, e.isError = false) sources
    (by simp) ?_
  intro r body _ ih
  have hscope : ∀ (r : Registry) (s : Scope), (r.addScope body.1 s).diagnostics = r.diagnostics := by
    intro r s
    unfold addScope
    split <;> rfl
  rw [addBody, addItems, hscope]
  exact List.foldlRecOn (motive := fun acc : Registry × Scope =>
    ∀ e ∈ acc.1.diagnostics, e.isError = false) body.2 (addItem body.1) (b := (r, {})) ih
    fun acc hacc i _ => isError_addItem hacc i

end Registry

/-! ## Bodies inside of the module -/

namespace ModulePath

/-- Whether a module lies inside of one at the top is told by the first name on the way to it. -/
theorem isInside_congr {name : String} {m m' : ModulePath} {rest : List String} (hm : m ≠ root)
    (h : m'.segments = m.segments ++ rest) : m'.IsInside name ↔ m.IsInside name := by
  obtain ⟨segments⟩ := m
  cases segments with
  | nil => exact absurd rfl hm
  | cons s segments => simp [IsInside, h]

end ModulePath

namespace Code.Item

theorem eq_of_isModuleNamed {name other : String} {i : Item} (h : i.isModuleNamed name = true)
    (h' : i.isModuleNamed other = true) : name = other := by
  cases i with
  | module attrs vis isUnsafe i content =>
      simp only [isModuleNamed, Bool.and_eq_true, beq_iff_eq] at h h'
      exact h.1.symm.trans h'.1
  | _ => cases h

mutual

/-- The bodies inside of an item are those of a module and of modules inside of it. -/
theorem segments_of_mem_bodies (m : ModulePath) : ∀ i : Item, ∀ body ∈ i.bodies m,
    ∃ name rest, i.isModuleNamed name = true ∧ body.1.segments = m.segments ++ name :: rest
  | .module attrs vis isUnsafe i (some items), body, h => by
      rw [bodies, List.mem_cons] at h
      rcases h with rfl | h
      · exact ⟨i.name, [], by simp [isModuleNamed], rfl⟩
      · obtain ⟨rest, hrest⟩ := segments_of_mem_bodiesAll (m.child i.name) items body h
        refine ⟨i.name, rest, by simp [isModuleNamed], ?_⟩
        rw [hrest, ModulePath.child, List.append_assoc, List.singleton_append]
  | .module _ _ _ _ none, _, h => by cases h
  | .struct .., _, h => by cases h
  | .enum .., _, h => by cases h
  | .union .., _, h => by cases h
  | .named .., _, h => by cases h
  | .use .., _, h => by cases h
  | .externCrate .., _, h => by cases h
  | .other _, _, h => by cases h

theorem segments_of_mem_bodiesAll (m : ModulePath) : ∀ is : List Item, ∀ body ∈ bodiesAll m is,
    ∃ rest, body.1.segments = m.segments ++ rest
  | [], _, h => by cases h
  | i :: is, body, h => by
      rw [bodiesAll, List.mem_append] at h
      rcases h with h | h
      · obtain ⟨name, rest, -, hrest⟩ := segments_of_mem_bodies m i body h
        exact ⟨name :: rest, hrest⟩
      · exact segments_of_mem_bodiesAll m is body h

end

theorem bodiesAll_eq_flatMap (m : ModulePath) (is : List Item) :
    bodiesAll m is = is.flatMap (bodies m) := by
  induction is with
  | nil => rfl
  | cons i is ih => rw [bodiesAll, ih, List.flatMap_cons]

/-- At the top, the bodies inside of a module are those of the item of its name. -/
theorem isInside_of_mem_bodies_iff {name : String} {i : Item} {body : ModulePath × List Item}
    (h : body ∈ i.bodies .root) : body.1.IsInside name ↔ i.isModuleNamed name = true := by
  obtain ⟨other, rest, hother, hsegments⟩ := segments_of_mem_bodies .root i body h
  have hinside : body.1.IsInside name ↔ other = name := by
    simp [ModulePath.IsInside, hsegments, ModulePath.root]
  rw [hinside]
  constructor
  · rintro rfl
    exact hother
  · exact fun hname => eq_of_isModuleNamed hother hname

end Code.Item

namespace SourceSet

variable {name : String} {s : SourceSet}

/-- In sources without files of the module, its bodies stand inline in the file of the root. -/
theorem mem_inlineBodies_iff (hs : ∀ f ∈ s.files, ¬ f.module.IsInside name)
    {body : ModulePath × List Item} :
    body ∈ s.inlineBodies name ↔ body ∈ s.bodies ∧ body.1.IsInside name := by
  have hfile : ∀ f ∈ s.files,
      (body ∈ (f.module, f.code.items) :: Item.bodiesAll f.module f.code.items
          ∧ body.1.IsInside name)
        ↔ f.module.isRoot = true
          ∧ ∃ i ∈ f.code.items, i.isModuleNamed name = true ∧ body ∈ i.bodies .root := by
    intro f hf
    rw [List.mem_cons, Item.bodiesAll_eq_flatMap, List.mem_flatMap]
    constructor
    · rintro ⟨rfl | ⟨i, hi, hbody⟩, hinside⟩
      · exact absurd hinside (hs f hf)
      · obtain ⟨other, rest, -, hsegments⟩ := Item.segments_of_mem_bodies _ i body hbody
        have hroot : f.module = .root := by
          by_contra hne
          exact hs f hf ((ModulePath.isInside_congr hne hsegments).mp hinside)
        rw [hroot] at hbody ⊢
        exact ⟨rfl, i, hi, (Item.isInside_of_mem_bodies_iff hbody).mp hinside, hbody⟩
    · rintro ⟨hroot, i, hi, hname, hbody⟩
      rw [ModulePath.eq_root_of_isRoot hroot]
      exact ⟨Or.inr ⟨i, hi, hbody⟩, (Item.isInside_of_mem_bodies_iff hbody).mpr hname⟩
  simp only [inlineBodies, bodies, List.mem_flatMap, List.mem_filter]
  constructor
  · rintro ⟨f, ⟨hf, hroot⟩, i, ⟨hi, hname⟩, hbody⟩
    obtain ⟨hmem, hinside⟩ := (hfile f hf).mpr ⟨hroot, i, hi, hname, hbody⟩
    exact ⟨⟨f, hf, hmem⟩, hinside⟩
  · rintro ⟨⟨f, hf, hmem⟩, hinside⟩
    obtain ⟨hroot, i, hi, hname, hbody⟩ := (hfile f hf).mp ⟨hmem, hinside⟩
    exact ⟨f, ⟨hf, hroot⟩, i, ⟨hi, hname⟩, hbody⟩

/-- The types that are declared inside of the module by inline bodies. -/
def inlineTypes (name : String) (s : SourceSet) : List Declaration :=
  declarationsOf (s.inlineBodies name)

/-- These are all that are declared inside of the module. -/
theorem mem_inlineTypes_iff (hs : ∀ f ∈ s.files, ¬ f.module.IsInside name) {d : Declaration} :
    d ∈ s.inlineTypes name ↔ d ∈ s.declared ∧ d.module.IsInside name := by
  simp only [inlineTypes, declared, mem_declarationsOf_iff, mem_inlineBodies_iff hs]
  constructor
  · rintro ⟨body, ⟨hbody, hinside⟩, i, hi, hd⟩
    rw [Item.module_of_declaration? hd]
    exact ⟨⟨body, hbody, i, hi, hd⟩, hinside⟩
  · rintro ⟨⟨body, hbody, i, hi, hd⟩, hinside⟩
    rw [Item.module_of_declaration? hd] at hinside
    exact ⟨body, ⟨hbody, hinside⟩, i, hi, hd⟩

end SourceSet

/-! ## Runs -/

/-- A scan of a crate and a run with these settings have nothing to do with the module of the
builders. -/
structure LeavesAlone (disk : Disk) (root : String) (c : Config) (sources : SourceSet) : Prop where
  /-- What is declared in the module is not registered. -/
  unregistered : ∀ d ∈ sources.declared, d.module.IsInside c.rootModule →
    (Registry.ofSources sources).get? d.pathString = none
  /-- No registered type is one of the module. -/
  types : ∀ e ∈ (Registry.ofSources sources).types, ¬ e.2.module.IsInside c.rootModule
  /-- Every builder is that of a type elsewhere. -/
  builders : ∀ g, generate c sources = .ok g → ∀ b ∈ g.builders, ∃ d ∈ selectedTypes c sources,
    ¬ d.module.IsInside c.rootModule ∧ b.typeName = d.pathString
  /-- Every error is about a type elsewhere, or about a file of a module elsewhere. -/
  errors : ∀ g, generate c sources = .ok g → ∀ e ∈ g.errors,
    (∃ d ∈ selectedTypes c sources, ¬ d.module.IsInside c.rootModule
        ∧ (e = .markerMisuse d.ident.name
          ∨ ∃ failure : BuilderFailure, e = .generationFailed d.pathString failure.message))
      ∨ ∃ f, Scan.Reaches disk ⟨root, c.rootModule⟩ f ∧ ¬ f.module.IsInside c.rootModule
        ∧ Scan.IsRemarkOn disk f e

/-- What is said about a type as an error is that it was refused. -/
theorem Finds.error_of_mem_remarks {r : Registry} {policy : ShadowPolicy} {exposure : Exposure}
    {t : ModuleTree} {d : Declaration} {f : Finding} {e : Diagnostic}
    (h : Finds r policy exposure t d f) (he : e ∈ f.remarks) (herror : e.isError = true) :
    e = .markerMisuse d.ident.name
      ∨ ∃ failure : BuilderFailure, e = .generationFailed d.pathString failure.message := by
  cases f with
  | refused e' =>
      rw [List.mem_singleton.mp he]
      exact h.error
  | built b code =>
      rcases List.mem_append.mp he with he | he
      · obtain ⟨_, -, rfl⟩ := List.mem_map.mp he
        cases herror
      · rw [List.mem_singleton.mp he] at herror
        cases herror

section Runs

variable {c : Config} {sources : SourceSet} {g : Generated}

/-- The selected types are registered. -/
theorem exists_mem_types_of_selected {d : Declaration} (hd : d ∈ selectedTypes c sources) :
    ∃ e ∈ (Registry.ofSources sources).types, e.2 = d := by
  have hannotated := (List.mem_filter.mp hd).1
  exact List.mem_map.mp (List.mem_filter.mp hannotated).1

/-- A builder is that of a selected type. -/
theorem exists_selected_of_mem_builders (hrun : generate c sources = .ok g) {b : BuilderSummary}
    (hb : b ∈ g.builders) : ∃ d ∈ selectedTypes c sources, b.typeName = d.pathString := by
  obtain ⟨found, files, hfound, hmap, -, rfl⟩ := generate_eq_ok_iff.mp hrun
  rw [Generated.ofFound_builders] at hb
  have hname : b.typeName ∈ (builtOf found).map fun b => b.summary.typeName := by
    obtain ⟨planned, hplanned, rfl⟩ := List.mem_map.mp hb
    exact List.mem_map_of_mem hplanned
  rw [hfound.typeNames] at hname
  obtain ⟨x, hx, hpath⟩ := List.mem_map.mp hname
  refine ⟨x.1, ?_, hpath.symm⟩
  rw [← hmap]
  exact List.mem_map_of_mem (List.mem_filter.mp hx).1

/-- An error is that of a selected type or one that the sources came with. -/
theorem error_of_mem_errors (hrun : generate c sources = .ok g) {e : Diagnostic}
    (he : e ∈ g.errors) :
    (∃ d ∈ selectedTypes c sources, e = .markerMisuse d.ident.name
        ∨ ∃ failure : BuilderFailure, e = .generationFailed d.pathString failure.message)
      ∨ e ∈ sources.diagnostics := by
  obtain ⟨found, files, hfound, hmap, -, rfl⟩ := generate_eq_ok_iff.mp hrun
  obtain ⟨hmem, herror⟩ := List.mem_filter.mp he
  rw [Generated.ofFound_diagnostics, List.mem_append, List.mem_append] at hmem
  rcases hmem with (hmem | hmem) | hmem
  · exact Or.inr hmem
  · rw [Registry.isError_of_mem_ofSources sources e hmem] at herror
    cases herror
  · obtain ⟨x, hx, hremark⟩ := List.mem_flatMap.mp hmem
    obtain ⟨t, ht⟩ := hfound.exists_finds x hx
    refine Or.inl ⟨x.1, ?_, ht.error_of_mem_remarks hremark herror⟩
    rw [← hmap]
    exact List.mem_map_of_mem hx

/-- What is declared somewhere is registered under its path. -/
theorem get?_ne_none_of_mem_declared {d : Declaration} (hd : d ∈ sources.declared) :
    (Registry.ofSources sources).get? d.pathString ≠ none := by
  have hsome := (Registry.isSome_get?_ofSources_iff sources d.pathString).mpr ⟨d, hd, rfl⟩
  exact Option.isSome_iff_ne_none.mp hsome

variable {disk : Disk} {root : String}

/-- If nothing is declared in the module, nothing comes of it. -/
theorem leavesAlone_of_declared (hreached : Scan.IsReached disk ⟨root, c.rootModule⟩ sources)
    (hnone : ∀ d ∈ sources.declared, ¬ d.module.IsInside c.rootModule) :
    LeavesAlone disk root c sources := by
  have htypes : ∀ e ∈ (Registry.ofSources sources).types, ¬ e.2.module.IsInside c.rootModule := by
    intro e he
    obtain ⟨-, body, hbody, -, i, hi, hd⟩ := Registry.mem_types_ofSources he
    exact hnone e.2 (mem_declarationsOf_iff.mpr ⟨body, hbody, i, hi, hd⟩)
  have hselected : ∀ d ∈ selectedTypes c sources, ¬ d.module.IsInside c.rootModule := by
    intro d hd
    obtain ⟨e, he, rfl⟩ := exists_mem_types_of_selected hd
    exact htypes e he
  refine ⟨fun d hd hinside => absurd hinside (hnone d hd), htypes, ?_, ?_⟩
  · intro g hrun b hb
    obtain ⟨d, hd, hname⟩ := exists_selected_of_mem_builders hrun hb
    exact ⟨d, hd, hselected d hd, hname⟩
  · intro g hrun e he
    rcases error_of_mem_errors hrun he with ⟨d, hd, herror⟩ | hsource
    · exact Or.inl ⟨d, hd, hselected d hd, herror⟩
    · obtain ⟨f, hf, hremark⟩ := hreached.remarks e hsource
      exact Or.inr ⟨f, hf, hf.not_isInside, hremark⟩

/-- **The module of the builders is left alone as far as its bodies are not inline.** A crate is
scanned and a run is made of its sources. The scan never comes to a file of the module, whatever is
declared where, and all sources and all remarks on them are of files it has come to. The types that
are declared in the module are those of its inline bodies, and the run leaves the module alone
exactly if there are none. -/
theorem leavesAlone_iff_inlineTypes
    (hscan : scan? disk ⟨root, c.rootModule⟩ = some (.ok sources)) :
    (∀ f, Scan.Reaches disk ⟨root, c.rootModule⟩ f → ¬ f.module.IsInside c.rootModule)
      ∧ Scan.IsReached disk ⟨root, c.rootModule⟩ sources
      ∧ (∀ d, d ∈ sources.inlineTypes c.rootModule
        ↔ d ∈ sources.declared ∧ d.module.IsInside c.rootModule)
      ∧ (LeavesAlone disk root c sources ↔ sources.inlineTypes c.rootModule = []) := by
  have hreached := Scan.isReached_of_scan? hscan
  have hinline (d : Declaration) :=
    SourceSet.mem_inlineTypes_iff (d := d) hreached.not_isInside
  refine ⟨fun f hf => hf.not_isInside, hreached, hinline, ?_⟩
  rw [List.eq_nil_iff_forall_not_mem]
  constructor
  · intro h d hd
    obtain ⟨hdeclared, hinside⟩ := (hinline d).mp hd
    exact get?_ne_none_of_mem_declared hdeclared (h.unregistered d hdeclared hinside)
  · intro hnone
    exact leavesAlone_of_declared hreached fun d hd hinside =>
      hnone d ((hinline d).mpr ⟨hd, hinside⟩)

end Runs

theorem eq_some_ok_of_bind {ε α : Type} {x : Option (Except ε α)} {a : α}
    (h : x.bind Except.toOption = some a) : x = some (.ok a) := by
  obtain ⟨y, rfl, hy⟩ := Option.bind_eq_some_iff.mp h
  cases y with
  | error e => cases hy
  | ok b => rw [Option.some.inj hy]

/-- A crate with these files beside each other. -/
def diskOf (files : List (String × String)) : Disk :=
  ⟨.directory [("src", .directory (files.map fun f => (f.1, .file (.text f.2))))], [], .usual⟩

/-- The module of the builders has a file of its own, with a struct that asks for a builder. -/
def outlinedDisk : Disk := diskOf
  [("lib.rs", "mod testbuilder; struct Point;"),
    ("testbuilder.rs", "#[derive(Default, TestBuilder)] pub struct X;")]

/-- It is left alone. -/
theorem leavesAlone_outlined : ∃ sources,
    scan? outlinedDisk ⟨"src", ({} : Config).rootModule⟩ = some (.ok sources)
      ∧ sources.files.length = 1 ∧ LeavesAlone outlinedDisk "src" {} sources := by
  have hrun : ((scan? outlinedDisk ⟨"src", ({} : Config).rootModule⟩).bind Except.toOption).map
      (fun s => (s.files.length, (s.inlineTypes defaultRootModule).length)) = some (1, 0) := by
    decide +kernel
  obtain ⟨sources, hscan, hlengths⟩ := Option.map_eq_some_iff.mp hrun
  obtain ⟨hfiles, hinline⟩ := Prod.mk.inj hlengths
  have hscan := eq_some_ok_of_bind hscan
  exact ⟨sources, hscan, hfiles,
    (leavesAlone_iff_inlineTypes hscan).2.2.2.mpr (List.length_eq_zero_iff.mp hinline)⟩

/-- The module of the builders stands inline in the file of the root. -/
def inlineDisk : Disk := diskOf
  [("lib.rs", "pub mod testbuilder { #[derive(Default, TestBuilder)] pub struct X; }")]

/-- The struct in it is registered and selected for a builder. -/
theorem not_leavesAlone_inline : ∃ sources,
    scan? inlineDisk ⟨"src", ({} : Config).rootModule⟩ = some (.ok sources)
      ∧ (selectedTypes {} sources).map Declaration.pathString = ["crate::testbuilder::X"]
      ∧ ¬ LeavesAlone inlineDisk "src" {} sources := by
  have hrun : ((scan? inlineDisk ⟨"src", ({} : Config).rootModule⟩).bind Except.toOption).map
      (fun s => ((selectedTypes {} s).map Declaration.pathString,
        (Registry.ofSources s).types.map fun e => e.2.module))
      = some (["crate::testbuilder::X"], [⟨["testbuilder"]⟩]) := by
    decide +kernel
  obtain ⟨sources, hscan, hfound⟩ := Option.map_eq_some_iff.mp hrun
  obtain ⟨hselected, htypes⟩ := Prod.mk.inj hfound
  refine ⟨sources, eq_some_ok_of_bind hscan, hselected, fun h => ?_⟩
  have hmem : (⟨["testbuilder"]⟩ : ModulePath)
      ∈ (Registry.ofSources sources).types.map fun e => e.2.module := by
    rw [htypes]
    exact List.mem_singleton.mpr rfl
  obtain ⟨e, he, hmodule⟩ := List.mem_map.mp hmem
  apply h.types e he
  rw [hmodule]
  rfl

end BuilderForge
