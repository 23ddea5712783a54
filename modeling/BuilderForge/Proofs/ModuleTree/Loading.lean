import BuilderForge.Proofs.ModuleTree.Files
import Mathlib.Data.List.Count

set_option autoImplicit false

/-! # Loading a tree from its files

The files of a plan are read the way a compiler reads modules: the declaration `mod x;` in the file
`D/mod.rs` stands for the module with the code of `D/x.rs` or of `D/x/mod.rs`, and there has to be
exactly one of the two. The code of builders is taken as it is.

If all modules of a tree go by the names of their directories, and every declaration has one file,
then its plan is loaded as the modules of the single file (`loaded_plan`).
-/

namespace BuilderForge

open Code (Ident Tokens TokenTree)
open Code.Tokens

namespace ModuleTree

/-! ## Declarations that leave the body to a file -/

/-- A piece of code as a loader sees it. -/
inductive Piece where
  | token (t : TokenTree)
  /-- The declaration of a module without a body. -/
  | module (x : Ident)

/-- The module that a piece declares. -/
def Piece.declared? : Piece → Option Ident
  | .token _ => none
  | .module x => some x

/-- Code in pieces: `mod x;` is one, and every other token is one of its own. -/
def pieces : Tokens → List Piece
  | .leaf (.word kw) s :: .leaf (.word x) s' :: .leaf (.punct ';' j) s'' :: ts =>
      (if kw = ⟨"mod", false⟩ then [.module x]
        else [.token (.leaf (.word kw) s), .token (.leaf (.word x) s'),
          .token (.leaf (.punct ';' j) s'')]) ++ pieces ts
  | t :: ts => .token t :: pieces ts
  | [] => []

/-- The modules that code declares without a body. -/
def declaredIn (ts : Tokens) : List Ident := (pieces ts).filterMap Piece.declared?

/-- A module that is declared in the file of a directory and has its body in another file. -/
structure Outline where
  dir : List String
  ident : Ident
  deriving DecidableEq

namespace Outline

/-- The path of the module. -/
def path (d : Outline) : List String := d.dir ++ [d.ident.name]

/-- Whether a file of this path is one for the module `x` of the directory `D`: `D/x.rs` and
`D/x/mod.rs` are. -/
def leadsTo (d : Outline) (path : List String) : Bool :=
  path = d.dir ++ [d.ident.name ++ ".rs"] ∨ path = d.path ++ ["mod.rs"]

end Outline

namespace PlainFile

/-- Whether modules that are declared in the file have their files in its directory. -/
def isIndex (f : PlainFile) : Bool := f.path.getLast? = some "mod.rs"

/-- The modules that the file declares without a body. -/
def outlines (f : PlainFile) : List Outline :=
  if f.isIndex then (declaredIn f.code).map (Outline.mk f.path.dropLast) else []

end PlainFile

/-- The modules that are declared in files and have their bodies in others. -/
def allOutlines (files : List PlainFile) : List Outline := files.flatMap PlainFile.outlines

/-! ## The loader -/

/-- Code with the bodies of modules put in. -/
def fill (body : Ident → Option Tokens) : List Piece → Option Tokens
  | [] => some []
  | .token t :: ps => do return t :: (← fill body ps)
  | .module x :: ps => do
      return word "mod" ++ ident x ++ braces (← body x) ++ (← fill body ps)

/-- The body of a module that has exactly one file. A file of a directory is loaded in turn. -/
def bodyIn (files : List PlainFile) (load : List String → Tokens → Option Tokens) (d : Outline) :
    Option Tokens :=
  match files.filter fun f => d.leadsTo f.path with
  | [f] => if f.isIndex then load d.path f.code else some f.code
  | _ => none

/-- The code of the file of a directory with all modules put in. No more modules can stand in each
other than `depth`. -/
def load (files : List PlainFile) : Nat → List String → Tokens → Option Tokens
  | 0, _, _ => none
  | depth + 1, dir, code => fill (fun x => bodyIn files (load files depth) ⟨dir, x⟩) (pieces code)

/-- The code of all files as one. Without a file at the top there is nothing to load. -/
def loaded (files : List PlainFile) : Option Tokens :=
  match files.find? fun f => f.path = ["mod.rs"] with
  | none => some []
  | some f => load files files.length [] f.code

/-! ## The pieces of declarations -/

section Pieces

variable (exposure : Exposure)

/-- What stands in front of the module of a builder. -/
def beforeBuilder : Tokens :=
  attributeOf (word "allow" ++ parens (word "dead_code")) ++ exposure.tokens

/-- What stands behind the module of a builder. -/
def behindBuilder (b : RenderedBuilder) : Tokens :=
  attributeOf (word "allow" ++ parens (word "unused_imports")) ++ exposure.tokens ++ word "use"
    ++ ident b.module ++ op "::" ++ ident b.wrapper ++ op ";"

theorem builderDecl_eq (b : RenderedBuilder) (body : Tokens) :
    builderDecl exposure.tokens b body
      = beforeBuilder exposure ++ (word "mod" ++ ident b.module ++ body)
        ++ behindBuilder exposure b := by
  simp [builderDecl, beforeBuilder, behindBuilder]

theorem pieces_builderDecl (b : RenderedBuilder) (ts : Tokens) :
    pieces (builderDecl exposure.tokens b (op ";") ++ ts)
      = (beforeBuilder exposure).map .token
        ++ .module b.module :: ((behindBuilder exposure b).map .token ++ pieces ts) := by
  cases exposure <;> rfl

theorem pieces_moduleDecl (name : String) (ts : Tokens) :
    pieces (moduleDecl exposure.tokens name (op ";") ++ ts)
      = exposure.tokens.map .token ++ .module (identFor name) :: pieces ts := by
  cases exposure <;> rfl

theorem filterMap_declared?_tokens (ts : Tokens) :
    (ts.map Piece.token).filterMap Piece.declared? = [] := by
  induction ts with
  | nil => rfl
  | cons t ts ih => exact ih

/-- The modules that stand in a module are declared in its file. -/
theorem declaredIn_declarations (bs : List RenderedBuilder) (cs : ModuleForest) :
    declaredIn (declarations exposure.tokens (.node bs cs))
      = bs.map RenderedBuilder.module ++ cs.names.map identFor := by
  have hmodules : ∀ cs : ModuleForest,
      declaredIn (outlined exposure.tokens cs) = cs.names.map identFor := by
    intro cs
    induction cs using outlined.induct with
    | case1 => rfl
    | case2 name t rest ih =>
        rw [declaredIn, outlined, pieces_moduleDecl, List.filterMap_append,
          filterMap_declared?_tokens, ModuleForest.names, List.map_cons, ← ih]
        rfl
  rw [declarations]
  induction bs with
  | nil => exact hmodules cs
  | cons b bs ih =>
      rw [List.flatMap_cons, List.append_assoc, declaredIn, pieces_builderDecl,
        List.filterMap_append, filterMap_declared?_tokens, List.filterMap_cons]
      simp only [Piece.declared?, List.filterMap_append, filterMap_declared?_tokens,
        List.nil_append, List.map_cons, List.cons_append, List.cons.injEq, true_and]
      exact ih

end Pieces

/-! ## Putting bodies in -/

theorem fill_tokens (body : Ident → Option Tokens) (ts : Tokens) (ps : List Piece) :
    fill body (ts.map .token ++ ps) = (fill body ps).map (ts ++ ·) := by
  induction ts with
  | nil => simp
  | cons t ts ih =>
      rw [List.map_cons, List.cons_append, fill, ih]
      cases fill body ps <;> rfl

theorem fill_module {body : Ident → Option Tokens} {x : Ident} {code : Tokens}
    (h : body x = some code) (ps : List Piece) :
    fill body (.module x :: ps)
      = (fill body ps).map (word "mod" ++ ident x ++ braces code ++ ·) := by
  rw [fill, h]
  cases fill body ps <;> rfl

/-- The declarations of builders become inline modules. -/
theorem fill_builders (exposure : Exposure) {body : Ident → Option Tokens} (ts : Tokens)
    (bs : List RenderedBuilder) (h : ∀ b ∈ bs, body b.module = some b.contents) :
    fill body (pieces (bs.flatMap (fun b => builderDecl exposure.tokens b (op ";")) ++ ts))
      = (fill body (pieces ts)).map
          (bs.flatMap (fun b => builderDecl exposure.tokens b (braces b.contents)) ++ ·) := by
  induction bs with
  | nil => simp
  | cons b bs ih =>
      obtain ⟨hb, hbs⟩ := List.forall_mem_cons.mp h
      rw [List.flatMap_cons, List.append_assoc, pieces_builderDecl, fill_tokens, fill_module hb,
        fill_tokens, ih hbs, List.flatMap_cons, builderDecl_eq]
      simp only [Option.map_map, Function.comp_def, List.append_assoc]

/-- The declaration of a module becomes an inline module. -/
theorem fill_moduleDecl (exposure : Exposure) {body : Ident → Option Tokens} {name : String}
    {code : Tokens} (h : body (identFor name) = some code) (ts : Tokens) :
    fill body (pieces (moduleDecl exposure.tokens name (op ";") ++ ts))
      = (fill body (pieces ts)).map (moduleDecl exposure.tokens name (braces code) ++ ·) := by
  rw [pieces_moduleDecl, fill_tokens, fill_module h]
  simp only [Option.map_map, Function.comp_def, moduleDecl, List.append_assoc]

/-! ## Loading what was planned -/

theorem filter_eq_singleton {α : Type} {p : α → Bool} {l : List α} {a : α} (h : l.countP p = 1)
    (ha : a ∈ l) (hp : p a = true) : l.filter p = [a] := by
  rw [List.countP_eq_length_filter, List.length_eq_one_iff] at h
  obtain ⟨b, hb⟩ := h
  have hmem : a ∈ l.filter p := List.mem_filter.mpr ⟨ha, hp⟩
  rw [hb, List.mem_singleton] at hmem
  rw [hb, hmem]

theorem bodyIn_eq {files : List PlainFile} {load : List String → Tokens → Option Tokens}
    {d : Outline} {f : PlainFile} (h : files.countP (fun f => d.leadsTo f.path) = 1)
    (hf : f ∈ files) (hlead : d.leadsTo f.path = true) :
    bodyIn files load d = if f.isIndex then load d.path f.code else some f.code := by
  rw [bodyIn, filter_eq_singleton (p := fun f => d.leadsTo f.path) h hf hlead]

/-- The file of the module itself. -/
def indexFile (vis : Tokens) (dir : List String) (t : ModuleTree) : PlainFile :=
  ⟨dir ++ ["mod.rs"], declarations vis t, none⟩

theorem indexFile_mem_plainFiles (vis : Tokens) (dir : List String) (t : ModuleTree) :
    indexFile vis dir t ∈ t.plainFiles vis dir := by
  obtain ⟨bs, cs⟩ := t
  exact List.mem_cons_self

theorem isIndex_indexFile (vis : Tokens) (dir : List String) (t : ModuleTree) :
    (indexFile vis dir t).isIndex = true := by
  simp [PlainFile.isIndex, indexFile]

theorem outlines_indexFile (exposure : Exposure) (dir : List String) (bs : List RenderedBuilder)
    (cs : ModuleForest) : (indexFile exposure.tokens dir (.node bs cs)).outlines
      = (bs.map RenderedBuilder.module ++ cs.names.map identFor).map (Outline.mk dir) := by
  rw [PlainFile.outlines, isIndex_indexFile, if_pos rfl, indexFile, declaredIn_declarations,
    List.dropLast_concat]

/-- A name that a builder module can have. -/
structure IsBuilderModule (i : Ident) : Prop where
  plain : i.raw = false
  marked : "t_".toList <+: i.name.toList
  valid : nameError? i = none

/-- Builder modules are named so. -/
theorem isBuilderModule_builderModuleIdent {type : Ident}
    (h : nameError? (builderModuleIdent type) = none) :
    IsBuilderModule (builderModuleIdent type) := by
  refine ⟨rfl, ?_, h⟩
  rw [builderModuleIdent, String.toList_append]
  exact List.prefix_append _ _

namespace IsBuilderModule

variable {i : Ident} (h : IsBuilderModule i)
include h

theorem text_eq : i.text = i.name := by
  simp [Ident.text, h.plain]

theorem name_ne_mod : i.name ≠ "mod" := by
  intro hmod
  have hmarked := h.marked
  rw [hmod] at hmarked
  exact absurd hmarked (by decide)

end IsBuilderModule

theorem appendRs_eq_index {a : String} : a ++ ".rs" = "mod.rs" ↔ a = "mod" := by
  rw [show "mod.rs" = "mod" ++ ".rs" from rfl, String.append_left_inj]

theorem isIndex_builderFile (dir : List String) {b : RenderedBuilder}
    (h : IsBuilderModule b.module) : (builderFile dir b).isIndex = false := by
  have hne := h.name_ne_mod
  simp [PlainFile.isIndex, builderFile, h.text_eq, appendRs_eq_index, hne]

section Loading

variable {files : List PlainFile}
  (hone : ∀ d ∈ allOutlines files, files.countP (fun f => d.leadsTo f.path) = 1)
  (exposure : Exposure)
include hone

/-- The body of a builder module is the code of the builder. -/
theorem bodyIn_builder {load : List String → Tokens → Option Tokens} {dir : List String}
    {b : RenderedBuilder} (hb : IsBuilderModule b.module) (hf : builderFile dir b ∈ files)
    (hd : (Outline.mk dir b.module) ∈ allOutlines files) :
    bodyIn files load ⟨dir, b.module⟩ = some b.contents := by
  have hlead : (Outline.mk dir b.module).leadsTo (builderFile dir b).path = true := by
    simp [Outline.leadsTo, builderFile, hb.text_eq]
  rw [bodyIn_eq (hone _ hd) hf hlead, isIndex_builderFile dir hb]
  rfl

/-- The body of another module is what its file is loaded as. -/
theorem bodyIn_module {load : List String → Tokens → Option Tokens} {dir : List String}
    {name : String} {t : ModuleTree} (hname : (identFor name).name = name)
    (hf : indexFile exposure.tokens (dir ++ [name]) t ∈ files)
    (hd : (Outline.mk dir (identFor name)) ∈ allOutlines files) :
    bodyIn files load ⟨dir, identFor name⟩
      = load (dir ++ [name]) (declarations exposure.tokens t) := by
  have hlead : (Outline.mk dir (identFor name)).leadsTo
      (indexFile exposure.tokens (dir ++ [name]) t).path = true := by
    simp [Outline.leadsTo, Outline.path, indexFile, hname]
  rw [bodyIn_eq (hone _ hd) hf hlead, isIndex_indexFile, if_pos rfl, Outline.path, hname]
  rfl

mutual

/-- The file of a module is loaded as the module. -/
theorem load_plainFiles : ∀ {t : ModuleTree} {dir : List String} {depth : Nat},
    (∀ e ∈ t.entries, IsBuilderModule e.builder.module) →
    t.AllNames (fun name => (identFor name).name = name) →
    t.plainFiles exposure.tokens dir ⊆ files →
    (t.plainFiles exposure.tokens dir).length ≤ depth →
    load files depth dir (declarations exposure.tokens t) = some (t.nested exposure.tokens)
  | .node bs cs, dir, 0, _, _, _, hlen => by simp [plainFiles] at hlen
  | .node bs cs, dir, depth + 1, hbuilders, ⟨hnames, hinner⟩, hsub, hlen => by
      rw [entries, List.forall_mem_append, List.forall_mem_map] at hbuilders
      obtain ⟨hown, hbelow⟩ := hbuilders
      have hmem : ∀ f ∈ bs.map (builderFile dir) ++ plainForest exposure.tokens dir cs, f ∈ files :=
        fun f hf => hsub (List.mem_cons_of_mem _ hf)
      rw [List.forall_mem_append, List.forall_mem_map] at hmem
      have hdecl : ∀ x ∈ bs.map RenderedBuilder.module ++ cs.names.map identFor,
          Outline.mk dir x ∈ allOutlines files := by
        intro x hx
        refine List.mem_flatMap.mpr
          ⟨_, hsub (indexFile_mem_plainFiles exposure.tokens dir (.node bs cs)), ?_⟩
        rw [outlines_indexFile]
        exact List.mem_map_of_mem hx
      rw [List.forall_mem_append, List.forall_mem_map, List.forall_mem_map] at hdecl
      have hforest : (plainForest exposure.tokens dir cs).length ≤ depth := by
        simp only [plainFiles, List.length_cons, List.length_append] at hlen
        omega
      rw [load, declarations, fill_builders exposure _ bs
          (fun b hb => bodyIn_builder hone (hown b hb) (hmem.1 b hb) (hdecl.1 b hb)),
        fill_outlined hbelow hnames hinner hmem.2 hdecl.2 hforest]
      rfl

/-- The declarations of modules are loaded as the modules. -/
theorem fill_outlined : ∀ {cs : ModuleForest} {dir : List String} {depth : Nat},
    (∀ e ∈ forestEntries cs, IsBuilderModule e.builder.module) →
    (∀ name ∈ cs.names, (identFor name).name = name) →
    AllInnerNames (fun name => (identFor name).name = name) cs →
    (∀ f ∈ plainForest exposure.tokens dir cs, f ∈ files) →
    (∀ name ∈ cs.names, Outline.mk dir (identFor name) ∈ allOutlines files) →
    (plainForest exposure.tokens dir cs).length ≤ depth →
    fill (fun x => bodyIn files (load files depth) ⟨dir, x⟩)
      (pieces (outlined exposure.tokens cs)) = some (nestedForest exposure.tokens cs)
  | .nil, _, _, _, _, _, _, _, _ => rfl
  | .cons name t rest, dir, depth, hbuilders, hnames, ⟨ht, hinner⟩, hmem, hdecl, hlen => by
      rw [forestEntries, List.forall_mem_append, List.forall_mem_map] at hbuilders
      rw [ModuleForest.names, List.forall_mem_cons] at hnames hdecl
      rw [plainForest, List.forall_mem_append] at hmem
      rw [plainForest, List.length_append] at hlen
      have hbody : bodyIn files (load files depth) ⟨dir, identFor name⟩
          = some (t.nested exposure.tokens) := by
        have hindex := hmem.1 _ (indexFile_mem_plainFiles exposure.tokens (dir ++ [name]) t)
        rw [bodyIn_module hone exposure hnames.1 hindex hdecl.1]
        exact load_plainFiles hbuilders.1 ht hmem.1 (by omega)
      rw [outlined, fill_moduleDecl exposure hbody,
        fill_outlined hbuilders.2 hnames.2 hinner hmem.2 hdecl.2 (by omega)]
      rfl

end

end Loading

/-- A plan is loaded as the modules of the single file, if every declaration has one file. -/
theorem loaded_plan {t : ModuleTree} (ht : t.Tidy) (exposure : Exposure)
    (hone : ∀ d ∈ allOutlines (t.plan exposure.tokens),
      (t.plan exposure.tokens).countP (fun f => d.leadsTo f.path) = 1)
    (hbuilders : ∀ e ∈ t.entries, IsBuilderModule e.builder.module)
    (hnames : t.AllNames fun name => (identFor name).name = name) :
    loaded (t.plan exposure.tokens) = some (t.nested exposure.tokens) := by
  unfold plan at hone ⊢
  cases hempty : t.isEmpty with
  | true =>
      obtain rfl := eq_empty_of_isEmpty ht hempty
      rfl
  | false =>
      simp only [hempty, Bool.false_eq_true, if_false] at hone ⊢
      have hfirst : ∃ rest, t.plainFiles exposure.tokens []
          = indexFile exposure.tokens [] t :: rest := by
        obtain ⟨bs, cs⟩ := t
        exact ⟨_, rfl⟩
      obtain ⟨rest, hfirst⟩ := hfirst
      have hload := load_plainFiles hone exposure hbuilders hnames (List.Subset.refl _) le_rfl
      rw [loaded, hfirst]
      simpa [indexFile, hfirst] using hload

end ModuleTree

end BuilderForge
