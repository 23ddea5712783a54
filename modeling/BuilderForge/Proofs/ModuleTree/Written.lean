import BuilderForge.Proofs.ModuleTree.Files
import BuilderForge.Proofs.Parsing.Modules

set_option autoImplicit false

/-! # Which trees can be written

Code that is written is read first. That goes well for a tree as a whole if and only if it does for
each builder and for the names of the modules on the way to it (`renderTree_isOk_iff`,
`renderSingleFile_isOk_iff`); in one file a builder is read from within its modules. So of a tree
that can be written every part can.
-/

namespace BuilderForge

open Code (Tokens Ident Span Grammar)
open Code.Tokens
open Code.Parser (itemOf moduleContent beginsInner ReadsAs Delimited LeadsToModule LeadsToUse)

/-! ## Names -/

theorem Code.Ident.text_ne_try_of_raw {i : Ident} (h : i.raw = true) : i.text ≠ "try" := by
  intro heq
  have hhead := congrArg (fun s => s.toList.take 2) heq
  simp [Ident.text, h] at hhead

theorem Code.Ident.isWritten_try_of_isFree {i : Ident} (h : i.isFree = true) :
    i.isWritten "try" = false := by
  rw [Ident.isWritten, beq_eq_false_iff_ne]
  cases hraw : i.raw with
  | true => exact text_ne_try_of_raw hraw
  | false =>
      intro heq
      have hname : i.name = "try" := by simpa [Ident.text, hraw] using heq
      rw [Ident.isFree, hraw, hname] at h
      exact absurd h (by decide)

theorem isWritten_try_identFor (name : String) : (identFor name).isWritten "try" = false := by
  rw [Ident.isWritten, beq_eq_false_iff_ne]
  unfold identFor
  split
  · exact Ident.text_ne_try_of_raw rfl
  · next hword =>
      split
      · exact Ident.text_ne_try_of_raw rfl
      · rintro rfl
        exact hword (by decide)

namespace Exposure

/-- The visibility that the tokens of an exposure stand for. -/
def visibility : Exposure → Code.Visibility
  | .everyone => .everywhere
  | .crateOnly => .within false (Code.Path.ofIdent ⟨"crate", false⟩)

end Exposure

namespace ModuleTree

/-- The attribute of the declaration of a builder. -/
def allow (what : String) : Tokens := attributeOf (word "allow" ++ parens (word what))

/-- The attribute as it is read. -/
def allowed (what : String) : Code.Attribute :=
  ⟨false, Code.Path.ofIdent ⟨"allow", false⟩, Span.nowhere, .list .paren (word what) Span.nowhere⟩

section Fronts

variable (exposure : Exposure) (what : String)

theorem leadsToModule_tokens : LeadsToModule exposure.tokens [] exposure.visibility := by
  intro g rest scope d stray
  cases exposure <;> cases stray <;> rfl

theorem leadsToModule_allow :
    LeadsToModule (allow what ++ exposure.tokens) [allowed what] exposure.visibility := by
  intro g rest scope d stray
  rw [List.append_assoc]
  cases exposure <;> cases stray <;> rfl

theorem leadsToUse_allow :
    LeadsToUse (allow what ++ exposure.tokens) [allowed what] exposure.visibility := by
  intro g rest scope d stray
  rw [List.append_assoc]
  cases exposure <;> cases stray <;> exact ⟨_, rfl⟩

end Fronts

/-- The names of a builder can be written as they are. -/
def HasFreeNames (b : RenderedBuilder) : Prop :=
  b.module.isFree = true ∧ b.wrapper.isFree = true

/-! ## Declarations of builders -/

section Builders

variable {exposure : Exposure} {depth : Nat} {bs : List RenderedBuilder}
  {body : RenderedBuilder → Tokens} {C : RenderedBuilder → Prop} {more : Tokens} {n : Nat}
  {D : Prop}

/-- A builder is declared by a module and the import of its wrapper. -/
theorem readsAs_builders (hfree : ∀ b ∈ bs, HasFreeNames b)
    (hbody : ∀ b ∈ bs, (itemOf (.ofDepth depth)).Delimited (allow "dead_code" ++ exposure.tokens
      ++ (word "mod" ++ (ident b.module ++ body b))) (C b))
    (hmore : (itemOf (.ofDepth depth)).ReadsAs more n D) :
    (itemOf (.ofDepth depth)).ReadsAs
      (bs.flatMap (fun b => builderDecl exposure.tokens b (body b)) ++ more) (2 * bs.length + n)
      ((∀ b ∈ bs, C b ∧ 2 ≤ depth) ∧ D) := by
  induction bs with
  | nil => exact hmore.congr (by simp) (by simp)
  | cons b bs ih =>
      rw [List.forall_mem_cons] at hfree hbody
      have huse := Code.Parser.delimited_use (leadsToUse_allow exposure "unused_imports")
        hfree.1.1 hfree.1.2 depth
      have hdecl := ReadsAs.append hbody.1 (ReadsAs.append huse (ih hfree.2 hbody.2))
      rw [List.flatMap_cons]
      have heq : builderDecl exposure.tokens b (body b)
            ++ bs.flatMap (fun b => builderDecl exposure.tokens b (body b)) ++ more
          = allow "dead_code" ++ exposure.tokens ++ (word "mod" ++ (ident b.module ++ body b))
            ++ (allow "unused_imports" ++ exposure.tokens ++ (word "use" ++ (ident b.module
              ++ (op "::" ++ (ident b.wrapper ++ op ";"))))
              ++ (bs.flatMap (fun b => builderDecl exposure.tokens b (body b)) ++ more)) := by
        simp only [builderDecl, allow, List.append_assoc]
      rw [heq]
      refine hdecl.congr ?_ ?_
      · rw [List.length_cons]
        omega
      · rw [List.forall_mem_cons]
        tauto

theorem two_mul_length_le (exposure : Exposure) (bs : List RenderedBuilder)
    (body : RenderedBuilder → Tokens) :
    2 * bs.length ≤ (bs.flatMap fun b => builderDecl exposure.tokens b (body b)).length := by
  induction bs with
  | nil => exact Nat.le_refl 0
  | cons b bs ih =>
      have hdecl : 2 ≤ (builderDecl exposure.tokens b (body b)).length := by
        simp [builderDecl, ident, word]
        omega
      rw [List.flatMap_cons, List.length_append, List.length_cons]
      omega

theorem beginsInner_builders (exposure : Exposure) (bs : List RenderedBuilder)
    (body : RenderedBuilder → Tokens) (hmore : beginsInner more = false) :
    beginsInner (bs.flatMap (fun b => builderDecl exposure.tokens b (body b)) ++ more) = false := by
  cases bs with
  | nil => exact hmore
  | cons b bs => rfl

end Builders

/-! ## One file -/

/-- The builder can be read within its modules by a grammar of this depth. -/
structure ReadableAt (depth : Nat) (e : Entry) : Prop where
  names : ∀ name ∈ e.space, (identFor name).isFree = true
  length : e.space.length + 2 ≤ depth
  contents : (moduleContent (.ofDepth (depth - e.space.length))
      (Grammar.ofDepth (depth - e.space.length)).item).ReadsAll
    ⟨e.builder.contents, Span.nowhere, some .brace, none⟩

theorem readableAt_inside {depth : Nat} {name : String} {e : Entry} :
    ReadableAt (depth + 1) (e.inside name)
      ↔ (identFor name).isFree = true ∧ ReadableAt depth e := by
  have hlength : (e.inside name).space.length = e.space.length + 1 := rfl
  constructor
  · rintro ⟨hnames, hdepth, hcontents⟩
    rw [hlength, Nat.add_sub_add_right] at hcontents
    rw [hlength] at hdepth
    obtain ⟨hname, hnames⟩ := List.forall_mem_cons.mp hnames
    exact ⟨hname, hnames, by omega, hcontents⟩
  · rintro ⟨hname, hnames, hdepth, hcontents⟩
    refine ⟨List.forall_mem_cons.mpr ⟨hname, hnames⟩, ?_, ?_⟩
    · rw [hlength]
      omega
    · rw [hlength, Nat.add_sub_add_right]
      exact hcontents

theorem readableAt_here {depth : Nat} {b : RenderedBuilder} : ReadableAt depth ⟨[], b⟩
    ↔ (moduleContent (.ofDepth depth) (Grammar.ofDepth depth).item).ReadsAll
        ⟨b.contents, Span.nowhere, some .brace, none⟩ ∧ 2 ≤ depth := by
  constructor
  · rintro ⟨-, hdepth, hcontents⟩
    exact ⟨hcontents, by simpa using hdepth⟩
  · rintro ⟨hcontents, hdepth⟩
    exact ⟨by simp, by simpa using hdepth, hcontents⟩

/-- The number of items in a module with a tree in it. -/
def itemCount : ModuleTree → Nat
  | .node bs cs => 2 * bs.length + cs.names.length

theorem beginsInner_nested (exposure : Exposure) (t : ModuleTree) :
    beginsInner (t.nested exposure.tokens) = false := by
  cases t with
  | node bs cs =>
      refine beginsInner_builders exposure bs _ ?_
      cases cs with
      | nil => rfl
      | cons name t rest => cases exposure <;> rfl

theorem nested_eq_nil_iff (vis : Tokens) {t : ModuleTree} (ht : t.Tidy) :
    t.nested vis = [] ↔ t.entries = [] := by
  cases t with
  | node bs cs =>
      cases bs with
      | cons b bs =>
          simp [nested, entries, builderDecl, word]
      | nil =>
          cases cs with
          | nil => simp [nested, entries, nestedForest, forestEntries]
          | cons name t rest =>
              have hfull : t.entries ≠ [] := ht.2.1
              simp [nested, entries, nestedForest, forestEntries, moduleDecl, word, hfull]

theorem length_names_le (exposure : Exposure) (cs : ModuleForest) :
    cs.names.length ≤ (nestedForest exposure.tokens cs).length := by
  induction cs using ModuleForest.induction with
  | nil => exact Nat.le_refl 0
  | cons name t rest ih =>
      rw [ModuleForest.names, nestedForest, List.length_cons, List.length_append]
      have hdecl : 0 < (moduleDecl exposure.tokens name (braces (t.nested exposure.tokens))).length
          := by
        simp [moduleDecl, braces]
      omega

theorem itemCount_le (exposure : Exposure) (t : ModuleTree) :
    t.itemCount ≤ (t.nested exposure.tokens).length := by
  cases t with
  | node bs cs =>
      rw [itemCount, nested, List.length_append]
      exact Nat.add_le_add (two_mul_length_le exposure bs _) (length_names_le exposure cs)

/-- A module is read if its name is free and its builders are read within it. -/
theorem readsAll_nested_iff {exposure : Exposure} {t : ModuleTree} (ht : t.Tidy)
    (hfull : t.entries ≠ [])
    (hread : ∀ depth, (itemOf (.ofDepth depth)).ReadsAs (t.nested exposure.tokens) t.itemCount
      (∀ e ∈ t.entries, ReadableAt depth e)) (name : String) (depth : Nat) :
    ((identFor name).isFree = true
        ∧ (moduleContent (.ofDepth depth) (Grammar.ofDepth depth).item).ReadsAll
          ⟨t.nested exposure.tokens, Span.nowhere, some .brace, none⟩)
      ↔ ∀ e ∈ t.entries, ReadableAt depth (e.inside name) := by
  obtain ⟨e, he⟩ := List.exists_mem_of_ne_nil _ hfull
  have hinner : beginsInner (t.nested exposure.tokens) = false := beginsInner_nested exposure t
  rw [Code.Parser.readsAll_moduleContent hinner]
  cases depth with
  | zero =>
      -- no item is read at this depth, and there is one, since the tree has a builder
      constructor
      · rintro ⟨-, n, -, h⟩
        cases h with
        | done hdone =>
            exact absurd ((nested_eq_nil_iff exposure.tokens ht).mp hdone.rest) hfull
        | read _ hread => cases hread
      · intro h
        exact absurd (h e he).length (Nat.not_succ_le_zero _)
  | succ depth =>
      simp only [readableAt_inside]
      constructor
      · rintro ⟨hname, n, -, h⟩
        exact fun e he => ⟨hname, ((hread depth _ _ _ _).mp h).2.2 e he⟩
      · intro h
        refine ⟨(h e he).1, t.itemCount, itemCount_le exposure t, ?_⟩
        exact (hread depth _ _ _ _).mpr ⟨rfl, rfl, fun e he => (h e he).2⟩

mutual

theorem readsAs_nested (exposure : Exposure) : ∀ {t : ModuleTree} (depth : Nat), t.Tidy →
    (∀ e ∈ t.entries, HasFreeNames e.builder) →
      (itemOf (.ofDepth depth)).ReadsAs (t.nested exposure.tokens) t.itemCount
        (∀ e ∈ t.entries, ReadableAt depth e)
  | .node bs cs, depth, ht, hfree => by
      rw [entries, List.forall_mem_append, List.forall_mem_map] at hfree
      -- the builders are declared in front of the modules
      have hforest := readsAs_nestedForest exposure depth ht hfree.2
      have hbuilders := readsAs_builders hfree.1 (fun b hb => Code.Parser.delimited_inline
        (leadsToModule_allow exposure "dead_code") (.ofDepth depth)
        (Code.Ident.isWritten_try_of_isFree (hfree.1 b hb).1) b.contents) hforest
      refine hbuilders.congr rfl ?_
      rw [entries, List.forall_mem_append, List.forall_mem_map]
      refine and_congr_left fun _ => forall₂_congr fun b hb => ?_
      rw [readableAt_here]
      exact ⟨fun h => ⟨h.1.2, h.2⟩, fun h => ⟨⟨(hfree.1 b hb).1, h.1⟩, h.2⟩⟩

theorem readsAs_nestedForest (exposure : Exposure) : ∀ {cs : ModuleForest} (depth : Nat),
    TidyForest cs → (∀ e ∈ forestEntries cs, HasFreeNames e.builder) →
      (itemOf (.ofDepth depth)).ReadsAs (nestedForest exposure.tokens cs) cs.names.length
        (∀ e ∈ forestEntries cs, ReadableAt depth e)
  | .nil, depth, ht, hfree => (ReadsAs.nil _).congr rfl (by simp [forestEntries])
  | .cons name t rest, depth, ⟨_, hfull, ht, hrest⟩, hfree => by
      rw [forestEntries, List.forall_mem_append, List.forall_mem_map] at hfree
      have hinner := readsAll_nested_iff ht hfull
        (fun depth => readsAs_nested exposure depth ht hfree.1) name depth
      have hdecl := Code.Parser.delimited_inline (leadsToModule_tokens exposure) (.ofDepth depth)
        (isWritten_try_identFor name) (t.nested exposure.tokens)
      have hforest := ReadsAs.append hdecl (readsAs_nestedForest exposure depth hrest hfree.2)
      have heq : moduleDecl exposure.tokens name (braces (t.nested exposure.tokens))
          = exposure.tokens ++ (word "mod" ++ (ident (identFor name)
            ++ braces (t.nested exposure.tokens))) := by
        simp only [moduleDecl, List.append_assoc]
      rw [nestedForest, heq]
      refine hforest.congr rfl ?_
      rw [forestEntries, List.forall_mem_append, List.forall_mem_map, ← hinner]

end

/-- How deep a file is read. -/
theorem whole_eq_ofDepth : Grammar.whole = .ofDepth (2 ^ 60) :=
  congrArg Grammar.ofDepth (Nat.pow_eq ..)

/-- Code that is read one item after the other can be written. -/
theorem exists_formatted_iff {ts : Tokens} {n : Nat} {C : Prop} (hinner : beginsInner ts = false)
    (hlength : n ≤ ts.length) (hread : (itemOf (.ofDepth (2 ^ 60))).ReadsAs ts n C) :
    (∃ code, formatted ts = .ok code) ↔ C := by
  rw [← whole_eq_ofDepth] at hread
  have hall : (∃ code, formatted ts = .ok code)
      ↔ (Code.Parser.fileContent Grammar.whole).ReadsAll ⟨ts, Span.nowhere, none, none⟩ := by
    rw [← Code.Parser.runAll_eq_ok_iff]
    have hfile : (Code.Parser.fileContent Grammar.whole).runAll ts Span.nowhere
        = Code.File.ofTokens ts := rfl
    rw [hfile, formatted, Tokens.format]
    cases Code.File.ofTokens ts with
    | error e => simp [Except.map]
    | ok file => simp [Except.map]
  have hcontent : (Code.Parser.fileContent Grammar.whole).ReadsAll ⟨ts, Span.nowhere, none, none⟩
      ↔ (moduleContent Grammar.whole (itemOf Grammar.whole)).ReadsAll
        ⟨ts, Span.nowhere, none, none⟩ :=
    Code.Parser.readsAll_bind_pure
  have hitems : (moduleContent Grammar.whole (itemOf Grammar.whole)).ReadsAll
      ⟨ts, Span.nowhere, none, none⟩
      ↔ ∃ m ≤ ts.length, (itemOf Grammar.whole).ReadsEach m ⟨ts, Span.nowhere, none, none⟩ :=
    Code.Parser.readsAll_moduleContent hinner
  rw [hall, hcontent, hitems]
  constructor
  · rintro ⟨m, -, hm⟩
    exact ((hread m Span.nowhere none none).mp hm).2.2
  · intro hC
    exact ⟨n, hlength, (hread n Span.nowhere none none).mpr ⟨rfl, rfl, hC⟩⟩

theorem readsAs_outlined (exposure : Exposure) (depth : Nat) (cs : ModuleForest) :
    (itemOf (.ofDepth depth)).ReadsAs (outlined exposure.tokens cs) cs.names.length
      (∀ name ∈ cs.names, (identFor name).isFree = true) := by
  induction cs using ModuleForest.induction with
  | nil => exact (ReadsAs.nil _).congr rfl (by simp [ModuleForest.names])
  | cons name t rest ih =>
      have hdecl := Code.Parser.delimited_outlined (leadsToModule_tokens exposure) (.ofDepth depth)
        (isWritten_try_identFor name)
      have hforest := ReadsAs.append hdecl ih
      have heq : moduleDecl exposure.tokens name (op ";")
          = exposure.tokens ++ (word "mod" ++ (ident (identFor name) ++ op ";")) := by
        simp only [moduleDecl, List.append_assoc]
      rw [outlined, heq]
      exact hforest.congr rfl (by rw [ModuleForest.names, List.forall_mem_cons])

theorem length_names_le_outlined (exposure : Exposure) (cs : ModuleForest) :
    cs.names.length ≤ (outlined exposure.tokens cs).length := by
  induction cs using ModuleForest.induction with
  | nil => exact Nat.le_refl 0
  | cons name t rest ih =>
      rw [ModuleForest.names, outlined, List.length_cons, List.length_append]
      have hdecl : 0 < (moduleDecl exposure.tokens name (op ";")).length := by
        simp [moduleDecl, ident]
      omega

/-- The file of a module can be written if the modules inside have free names. -/
theorem exists_formatted_declarations_iff (exposure : Exposure) {bs : List RenderedBuilder}
    (hfree : ∀ b ∈ bs, HasFreeNames b) (cs : ModuleForest) :
    (∃ code, formatted (declarations exposure.tokens (.node bs cs)) = .ok code)
      ↔ ∀ name ∈ cs.names, (identFor name).isFree = true := by
  have hread := readsAs_builders hfree (fun b hb => Code.Parser.delimited_outlined
    (leadsToModule_allow exposure "dead_code") (.ofDepth (2 ^ 60))
    (Code.Ident.isWritten_try_of_isFree (hfree b hb).1)) (readsAs_outlined exposure (2 ^ 60) cs)
  have hinner : beginsInner (declarations exposure.tokens (.node bs cs)) = false := by
    refine beginsInner_builders exposure bs _ ?_
    cases cs with
    | nil => rfl
    | cons name t rest => cases exposure <;> rfl
  have hlength : 2 * bs.length + cs.names.length
      ≤ (declarations exposure.tokens (.node bs cs)).length := by
    rw [declarations, List.length_append]
    exact Nat.add_le_add (two_mul_length_le exposure bs _) (length_names_le_outlined exposure cs)
  rw [exists_formatted_iff hinner hlength hread]
  exact and_iff_right fun b hb => ⟨(hfree b hb).1, by decide⟩

mutual

theorem forall_plainFiles_iff (exposure : Exposure) : ∀ {t : ModuleTree} (dir : List String),
    (∀ e ∈ t.entries, HasFreeNames e.builder) →
      ((∀ f ∈ t.plainFiles exposure.tokens dir, ∃ code, formatted f.code = .ok code)
        ↔ t.AllNames (fun name => (identFor name).isFree = true)
          ∧ ∀ e ∈ t.entries, ∃ code, formatted e.builder.contents = .ok code)
  | .node bs cs, dir, hfree => by
      rw [entries, List.forall_mem_append, List.forall_mem_map] at hfree
      rw [plainFiles, List.cons_append, List.forall_mem_cons, List.forall_mem_append,
        List.forall_mem_map, forall_plainForest_iff exposure dir hfree.2,
        exists_formatted_declarations_iff exposure hfree.1, AllNames, entries,
        List.forall_mem_append, List.forall_mem_map]
      simp only [builderFile]
      tauto

theorem forall_plainForest_iff (exposure : Exposure) : ∀ {cs : ModuleForest} (dir : List String),
    (∀ e ∈ forestEntries cs, HasFreeNames e.builder) →
      ((∀ f ∈ plainForest exposure.tokens dir cs, ∃ code, formatted f.code = .ok code)
        ↔ AllInnerNames (fun name => (identFor name).isFree = true) cs
          ∧ ∀ e ∈ forestEntries cs, ∃ code, formatted e.builder.contents = .ok code)
  | .nil, dir, _ => by simp [plainForest, AllInnerNames, forestEntries]
  | .cons name t rest, dir, hfree => by
      rw [forestEntries, List.forall_mem_append, List.forall_mem_map] at hfree
      rw [plainForest, List.forall_mem_append, forall_plainFiles_iff exposure (dir ++ [name]) hfree.1,
        forall_plainForest_iff exposure dir hfree.2, AllInnerNames, forestEntries,
        List.forall_mem_append, List.forall_mem_map]
      simp only [Entry.inside]
      tauto

end

end ModuleTree

end BuilderForge
