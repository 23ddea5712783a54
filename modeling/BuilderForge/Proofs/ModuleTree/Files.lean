import BuilderForge.Proofs.Derive.Accepted
import BuilderForge.Proofs.ModuleTree.Entries
import Mathlib.Data.List.Forall2

set_option autoImplicit false

/-! # The two ways to write a tree

A tree is written as one file with inline modules, or as a *plan* of files: one for each module, with
the declarations of what stands in it, and one for each builder. Both are given here as plain
functions of the tree (`nested`, `plan`). Writing a tidy tree goes wrong only if the name of a
module is no identifier, or if the code of a file cannot be read; else it is what these functions
say (`inlineTokens_eq_ok_iff`, `renderTree_eq_ok_iff`).
-/

namespace BuilderForge

open Code (Tokens)
open Code.Tokens

/-! ## Steps that can fail -/

theorem mapM_eq_ok_iff {ε α β : Type} {f : α → Except ε β} (as : List α) {bs : List β} :
    as.mapM f = .ok bs ↔ List.Forall₂ (fun a b => f a = .ok b) as bs := by
  induction as generalizing bs with
  | nil =>
      rw [List.mapM_nil, pure_eq_ok_iff, List.forall₂_nil_left_iff]
  | cons a as ih =>
      simp only [List.mapM_cons, bind_eq_ok_iff, pure_eq_ok_iff, ih, List.forall₂_cons_left_iff]
      constructor
      · rintro ⟨b, hb, bs', hbs, rfl⟩
        exact ⟨b, bs', hb, hbs, rfl⟩
      · rintro ⟨b, bs', hb, hbs, rfl⟩
        exact ⟨b, hb, bs', hbs, rfl⟩

theorem exists_of_mem_forall₂ {α β : Type} {R : α → β → Prop} {as : List α} {bs : List β} {a : α}
    (h : List.Forall₂ R as bs) (ha : a ∈ as) : ∃ b ∈ bs, R a b := by
  induction h with
  | nil => cases ha
  | cons hab _ ih =>
      rcases List.mem_cons.mp ha with rfl | ha
      · exact ⟨_, List.mem_cons_self, hab⟩
      · obtain ⟨b, hb, h⟩ := ih ha
        exact ⟨b, List.mem_cons_of_mem _ hb, h⟩

namespace ModuleTree

/-! ## One file -/

/-- The declaration of a module with this body. -/
def moduleDecl (vis : Tokens) (name : String) (body : Tokens) : Tokens :=
  vis ++ word "mod" ++ ident (identFor name) ++ body

mutual

/-- A tree with its modules and builders as inline modules. -/
def nested (vis : Tokens) : ModuleTree → Tokens
  | .node bs cs => bs.flatMap (fun b => builderDecl vis b (braces b.contents)) ++ nestedForest vis cs

/-- Modules as inline modules. -/
def nestedForest (vis : Tokens) : ModuleForest → Tokens
  | .nil => []
  | .cons name t rest => moduleDecl vis name (braces (nested vis t)) ++ nestedForest vis rest

end

/-- The name of the module can be written. -/
def IsWritable (name : String) : Prop := nameError? (identFor name) = none

theorem moduleIdent_eq_ok_iff {name : String} {i : Code.Ident} :
    moduleIdent name = .ok i ↔ IsWritable name ∧ i = identFor name := by
  simp only [moduleIdent, IsWritable]
  cases h : nameError? (identFor name) with
  | none =>
      simp only [true_and, Except.ok.injEq]
      exact eq_comm
  | some e => simp

theorem isEmpty_of_entries {t : ModuleTree} (h : t.entries ≠ []) : t.isEmpty = false := by
  rw [← Bool.not_eq_true, isEmpty_iff]
  exact h

mutual

theorem inlineTokens_eq_ok_iff (vis : Tokens) {ts : Tokens} : ∀ {t : ModuleTree}, t.Tidy →
    (t.inlineTokens vis = .ok ts ↔ t.AllNames IsWritable ∧ ts = t.nested vis)
  | .node bs cs, h => by
      have hcs : TidyForest cs := h
      simp only [inlineTokens, nested, AllNames, bind_eq_ok_iff, pure_eq_ok_iff,
        inlineForest_eq_ok_iff vis hcs]
      constructor
      · rintro ⟨inner, ⟨hw, rfl⟩, rfl⟩
        exact ⟨hw, rfl⟩
      · rintro ⟨hw, rfl⟩
        exact ⟨_, ⟨hw, rfl⟩, rfl⟩

theorem inlineForest_eq_ok_iff (vis : Tokens) {ts : Tokens} : ∀ {cs : ModuleForest},
    TidyForest cs → (inlineForest vis cs = .ok ts ↔
      ((∀ name ∈ cs.names, IsWritable name) ∧ AllInnerNames IsWritable cs)
        ∧ ts = nestedForest vis cs)
  | .nil, _ => by
      simp [inlineForest, nestedForest, ModuleForest.names, AllInnerNames, pure_eq_ok_iff]
  | .cons name t rest, ⟨_, hfull, ht, hrest⟩ => by
      simp only [inlineForest, nestedForest, isEmpty_of_entries hfull, Bool.false_eq_true, if_false,
        bind_eq_ok_iff, pure_eq_ok_iff, moduleIdent_eq_ok_iff, inlineTokens_eq_ok_iff vis ht,
        inlineForest_eq_ok_iff vis hrest, ModuleForest.names, AllInnerNames, List.forall_mem_cons]
      constructor
      · rintro ⟨i, ⟨hname, rfl⟩, inner, ⟨hw, rfl⟩, more, ⟨⟨hnames, hmore⟩, rfl⟩, rfl⟩
        exact ⟨⟨⟨hname, hnames⟩, hw, hmore⟩, rfl⟩
      · rintro ⟨⟨⟨hname, hnames⟩, hw, hmore⟩, rfl⟩
        exact ⟨_, ⟨hname, rfl⟩, _, ⟨hw, rfl⟩, _, ⟨⟨hnames, hmore⟩, rfl⟩, rfl⟩

end

/-- All builders in one file. There is no code to be read where there are no builders. -/
theorem renderSingleFile_eq_ok_iff {t : ModuleTree} {exposure : Exposure} {f : GeneratedFile} :
    t.renderSingleFile exposure = .ok f ↔ ∃ ts, t.inlineTokens exposure.tokens = .ok ts
      ∧ ∃ code, (if ts.isEmpty then .ok "" else formatted ts) = .ok code
        ∧ f = ⟨singleFileName, withHeader code, none⟩ := by
  rw [renderSingleFile, bind_eq_ok_iff]
  refine exists_congr fun ts => and_congr_right fun _ => ?_
  dsimp only
  split
  · exact ⟨fun h => ⟨"", rfl, (Except.ok.inj h).symm⟩, fun ⟨_, hcode, hf⟩ => by
      rw [hf, ← Except.ok.inj hcode]
      rfl⟩
  · rw [bind_eq_ok_iff]
    exact exists_congr fun code => and_congr_right fun _ => pure_eq_ok_iff

/-! ## A file for each module and each builder -/

/-- A file before its code is formatted. Its path is given by the names of directories, and the name
of the file behind them. -/
structure PlainFile where
  path : List String
  code : Tokens
  owner : Option String

/-- How the path of names is written. -/
def joined (names : List String) : String := names.foldl inDir ""

theorem joined_concat (dir : List String) (name : String) :
    joined (dir ++ [name]) = inDir (joined dir) name := by
  simp [joined, List.foldl_append]

/-- The file with its code formatted. -/
def PlainFile.formatted (p : PlainFile) : Except RenderFailure GeneratedFile :=
  (ModuleTree.formatted p.code).map fun code => ⟨joined p.path, withHeader code, p.owner⟩

theorem formatted_eq_ok_iff {p : PlainFile} {f : GeneratedFile} : p.formatted = .ok f ↔
    ∃ code, ModuleTree.formatted p.code = .ok code
      ∧ f = ⟨joined p.path, withHeader code, p.owner⟩ := by
  unfold PlainFile.formatted
  cases ModuleTree.formatted p.code with
  | error e => simp [Except.map]
  | ok code =>
      simp only [Except.map, Except.ok.injEq, exists_eq_left']
      exact eq_comm

/-- The declarations of modules that stand in files of their own. -/
def outlined (vis : Tokens) : ModuleForest → Tokens
  | .nil => []
  | .cons name _ rest => moduleDecl vis name (op ";") ++ outlined vis rest

/-- The code of the file of a module: what stands in the module is declared. -/
def declarations (vis : Tokens) : ModuleTree → Tokens
  | .node bs cs => bs.flatMap (fun b => builderDecl vis b (op ";")) ++ outlined vis cs

/-- The file of a builder. -/
def builderFile (dir : List String) (b : RenderedBuilder) : PlainFile :=
  ⟨dir ++ [b.module.text ++ ".rs"], b.contents, some b.owner⟩

mutual

/-- The files of a module that has this directory. -/
def plainFiles (vis : Tokens) (dir : List String) : ModuleTree → List PlainFile
  | .node bs cs => ⟨dir ++ ["mod.rs"], declarations vis (.node bs cs), none⟩
      :: bs.map (builderFile dir) ++ plainForest vis dir cs

/-- The files of modules in this directory. -/
def plainForest (vis : Tokens) (dir : List String) : ModuleForest → List PlainFile
  | .nil => []
  | .cons name t rest => plainFiles vis (dir ++ [name]) t ++ plainForest vis dir rest

end

/-- The files of a tree. A tree without builders has none. -/
def plan (vis : Tokens) (t : ModuleTree) : List PlainFile :=
  if t.isEmpty then [] else t.plainFiles vis []

theorem childDecls_eq_ok_iff (vis : Tokens) {ts : Tokens} : ∀ {cs : ModuleForest},
    TidyForest cs → (childDecls vis cs = .ok ts ↔
      (∀ name ∈ cs.names, IsWritable name) ∧ ts = outlined vis cs)
  | .nil, _ => by simp [childDecls, outlined, ModuleForest.names, pure_eq_ok_iff]
  | .cons name t rest, ⟨_, hfull, _, hrest⟩ => by
      simp only [childDecls, outlined, isEmpty_of_entries hfull, Bool.false_eq_true, if_false,
        bind_eq_ok_iff, pure_eq_ok_iff, moduleIdent_eq_ok_iff, childDecls_eq_ok_iff vis hrest,
        ModuleForest.names, List.forall_mem_cons]
      constructor
      · rintro ⟨i, ⟨hname, rfl⟩, more, ⟨hnames, rfl⟩, rfl⟩
        exact ⟨⟨hname, hnames⟩, rfl⟩
      · rintro ⟨⟨hname, hnames⟩, rfl⟩
        exact ⟨_, ⟨hname, rfl⟩, _, ⟨hnames, rfl⟩, rfl⟩

/-- The files of builders are written as planned. -/
theorem mapM_builderFile (dir : List String) (bs : List RenderedBuilder) :
    (bs.mapM fun b => do
        let code ← ModuleTree.formatted b.contents
        return (⟨inDir (joined dir) (b.module.text ++ ".rs"), withHeader code, some b.owner⟩ :
          GeneratedFile))
      = (bs.map (builderFile dir)).mapM PlainFile.formatted := by
  rw [List.mapM_map]
  congr 1
  funext b
  show _ = (builderFile dir b).formatted
  simp only [PlainFile.formatted, builderFile, joined_concat]
  cases ModuleTree.formatted b.contents <;> rfl

mutual

theorem treeFiles_eq_ok_iff (vis : Tokens) {files : List GeneratedFile} :
    ∀ {t : ModuleTree} (dir : List String), t.Tidy →
      (t.treeFiles vis (joined dir) = .ok files ↔
        t.AllNames IsWritable ∧ (t.plainFiles vis dir).mapM PlainFile.formatted = .ok files)
  | .node bs cs, dir, h => by
      have hcs : TidyForest cs := h
      simp only [treeFiles, plainFiles, declarations, AllNames, mapM_builderFile,
        List.cons_append, List.mapM_cons, List.mapM_append, formatted_eq_ok_iff, bind_eq_ok_iff,
        pure_eq_ok_iff, childDecls_eq_ok_iff vis hcs,
        forestFiles_eq_ok_iff vis dir hcs, joined_concat]
      constructor
      · rintro ⟨_, ⟨hnames, rfl⟩, code, hcode, own, hown, below, ⟨hw, hbelow⟩, rfl⟩
        exact ⟨⟨hnames, hw⟩, _, ⟨code, hcode, rfl⟩, _, ⟨own, hown, below, hbelow, rfl⟩, rfl⟩
      · rintro ⟨⟨hnames, hw⟩, _, ⟨code, hcode, rfl⟩, _, ⟨own, hown, below, hbelow, rfl⟩, rfl⟩
        exact ⟨_, ⟨hnames, rfl⟩, code, hcode, own, hown, below, ⟨hw, hbelow⟩, rfl⟩

theorem forestFiles_eq_ok_iff (vis : Tokens) {files : List GeneratedFile} :
    ∀ {cs : ModuleForest} (dir : List String), TidyForest cs →
      (forestFiles vis (joined dir) cs = .ok files ↔
        AllInnerNames IsWritable cs ∧ (plainForest vis dir cs).mapM PlainFile.formatted = .ok files)
  | .nil, dir, _ => by simp [forestFiles, plainForest, AllInnerNames, pure_eq_ok_iff]
  | .cons name t rest, dir, ⟨_, hfull, ht, hrest⟩ => by
      simp only [forestFiles, plainForest, isEmpty_of_entries hfull, Bool.false_eq_true, if_false,
        AllInnerNames, List.mapM_append, bind_eq_ok_iff, pure_eq_ok_iff, ← joined_concat,
        treeFiles_eq_ok_iff vis (dir ++ [name]) ht, forestFiles_eq_ok_iff vis dir hrest]
      constructor
      · rintro ⟨own, ⟨hw, hown⟩, more, ⟨hmore, hfiles⟩, rfl⟩
        exact ⟨⟨hw, hmore⟩, own, hown, more, hfiles, rfl⟩
      · rintro ⟨⟨hw, hmore⟩, own, hown, more, hfiles, rfl⟩
        exact ⟨own, ⟨hw, hown⟩, more, ⟨hmore, hfiles⟩, rfl⟩

end

/-- A tree is written as planned, unless the name of a module is no identifier. -/
theorem renderTree_eq_ok_iff {t : ModuleTree} (ht : t.Tidy) (exposure : Exposure)
    {files : List GeneratedFile} : t.renderTree exposure = .ok files ↔
      t.AllNames IsWritable ∧ (t.plan exposure.tokens).mapM PlainFile.formatted = .ok files := by
  cases hempty : t.isEmpty with
  | true =>
      have hnone : t.AllNames IsWritable := by
        rw [allNames_iff ht, (isEmpty_iff t).mp hempty]
        simp
      simp only [renderTree, plan, hempty, if_true, List.mapM_nil, hnone, true_and]
      rfl
  | false =>
      simp only [renderTree, plan, hempty, Bool.false_eq_true, if_false]
      exact treeFiles_eq_ok_iff exposure.tokens [] ht

/-! ## Owners -/

mutual

/-- The files with owners are those of the builders. -/
theorem filter_owner_plainFiles (vis : Tokens) : ∀ (t : ModuleTree) (dir : List String),
    (t.plainFiles vis dir).filter (fun f => f.owner.isSome)
      = t.entries.map fun e => builderFile (dir ++ e.space) e.builder
  | .node bs cs, dir => by
      have hown : (bs.map (builderFile dir)).filter (fun f => f.owner.isSome)
          = (bs.map (Entry.mk [])).map fun e => builderFile (dir ++ e.space) e.builder := by
        rw [List.filter_eq_self.mpr (by simp [builderFile]), List.map_map]
        simp
      rw [plainFiles, List.cons_append, List.filter_cons_of_neg (by simp), List.filter_append, hown,
        filter_owner_plainForest vis cs dir, entries, List.map_append]

theorem filter_owner_plainForest (vis : Tokens) : ∀ (cs : ModuleForest) (dir : List String),
    (plainForest vis dir cs).filter (fun f => f.owner.isSome)
      = (forestEntries cs).map fun e => builderFile (dir ++ e.space) e.builder
  | .nil, _ => rfl
  | .cons name t rest, dir => by
      rw [plainForest, List.filter_append, filter_owner_plainFiles vis t,
        filter_owner_plainForest vis rest, forestEntries, List.map_append, List.map_map]
      simp [Entry.inside, Function.comp_def]

end

theorem filter_owner_plan (vis : Tokens) (t : ModuleTree) :
    (t.plan vis).filter (fun f => f.owner.isSome)
      = t.entries.map fun e => builderFile e.space e.builder := by
  unfold plan
  split
  · next hempty =>
      rw [(isEmpty_iff t).mp hempty]
      rfl
  · exact filter_owner_plainFiles vis t []

theorem owners_plan (vis : Tokens) (t : ModuleTree) :
    (t.plan vis).filterMap PlainFile.owner = t.entries.map fun e => e.builder.owner := by
  have hfilter : (t.plan vis).filterMap PlainFile.owner
      = ((t.plan vis).filter fun f => f.owner.isSome).filterMap PlainFile.owner := by
    rw [List.filterMap_filter]
    refine List.filterMap_congr fun f _ => ?_
    cases f.owner <;> rfl
  rw [hfilter, filter_owner_plan, List.filterMap_map, ← List.filterMap_eq_map]
  rfl

theorem forall₂_owners {ps : List PlainFile} {files : List GeneratedFile}
    (h : List.Forall₂ (fun p f => p.formatted = .ok f) ps files) :
    files.filterMap GeneratedFile.owner = ps.filterMap PlainFile.owner := by
  induction h with
  | nil => rfl
  | cons hf _ ih =>
      obtain ⟨code, -, rfl⟩ := formatted_eq_ok_iff.mp hf
      rw [List.filterMap_cons, List.filterMap_cons, ih]

/-- Of the files that are written, those with owners are those of the builders. -/
theorem owners_renderTree {t : ModuleTree} (ht : t.Tidy) {exposure : Exposure}
    {files : List GeneratedFile} (h : t.renderTree exposure = .ok files) :
    files.filterMap GeneratedFile.owner = t.entries.map fun e => e.builder.owner := by
  rw [renderTree_eq_ok_iff ht, mapM_eq_ok_iff] at h
  rw [← owners_plan exposure.tokens t]
  exact forall₂_owners h.2

end ModuleTree

end BuilderForge
