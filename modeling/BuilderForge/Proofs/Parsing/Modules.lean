import BuilderForge.BuilderCode
import BuilderForge.Code.Parser.File

set_option autoImplicit false

/-! # Reading declarations of modules

Code that is made of declarations is read declaration by declaration: where one of them ends does not
depend on what follows (`Delimited`). A module is read if its name is free and if its body is read
on its own; an import of one name out of a module is read if both names are free.
-/

namespace BuilderForge.Code

open Tokens

/-- Nothing is left to be read, neither here nor in a group before. -/
structure Cursor.IsDone (c : Cursor) : Prop where
  rest : c.rest = []
  stray : c.stray = none

namespace Parser

variable {α β : Type}

/-! ## Steps -/

theorem bind_of_ok {p : Parser α} {f : α → Parser β} {c c' : Cursor} {a : α}
    (h : p c = .ok (a, c')) : (p >>= f) c = f a c' := by
  simp only [bind, StateT.bind, h, Except.bind]

theorem bind_of_error {p : Parser α} {f : α → Parser β} {c : Cursor} {e : ParseError}
    (h : p c = .error e) : (p >>= f) c = .error e := by
  simp only [bind, StateT.bind, h, Except.bind]

/-! ## Reading all there is -/

/-- `p` reads all there is. -/
def ReadsAll (p : Parser α) (c : Cursor) : Prop := ∃ a c', p c = .ok (a, c') ∧ c'.IsDone

/-- `p` reads all there is as `n` things, one after the other. -/
inductive ReadsEach (p : Parser α) : Nat → Cursor → Prop
  | done {c : Cursor} (h : c.IsDone) : ReadsEach p 0 c
  | read {n : Nat} {c c' : Cursor} {a : α} (hrest : c.rest ≠ []) (hread : p c = .ok (a, c'))
      (h : ReadsEach p n c') : ReadsEach p (n + 1) c

theorem runAll_eq_ok {p : Parser α} {ts : Tokens} {scope : Span} {a : α} :
    p.runAll ts scope = .ok a ↔ ∃ c', p ⟨ts, scope, none, none⟩ = .ok (a, c') ∧ c'.IsDone := by
  unfold runAll
  cases h : p.run (Cursor.ofTokens ts scope) with
  | error e =>
      have herror : p ⟨ts, scope, none, none⟩ = .error e := h
      simp [herror]
  | ok x =>
      obtain ⟨b, ⟨rest, scope', delimiter, stray⟩⟩ := x
      have hok : p ⟨ts, scope, none, none⟩ = .ok (b, ⟨rest, scope', delimiter, stray⟩) := h
      constructor
      · intro hb
        cases stray with
        | some x => cases hb
        | none =>
            cases rest with
            | cons t ts => cases hb
            | nil =>
                obtain rfl := Except.ok.inj hb
                exact ⟨_, hok, rfl, rfl⟩
      · rintro ⟨c', ha, hrest, hstray⟩
        obtain ⟨rfl, rfl⟩ := Prod.mk.inj (Except.ok.inj (hok.symm.trans ha))
        dsimp only at hrest hstray
        subst hrest hstray
        rfl

theorem runAll_eq_ok_iff {p : Parser α} {ts : Tokens} {scope : Span} :
    (∃ a, p.runAll ts scope = .ok a) ↔ p.ReadsAll ⟨ts, scope, none, none⟩ := by
  simp only [runAll_eq_ok, ReadsAll]

/-- One round of reading a list. -/
def manyRound (more : Parser Bool) (p : Parser α) (found : List α) :
    Parser (List α ⊕ List α) := do
  if ← more then return .inl ((← p) :: found) else return .inr found

section Round

variable {more : Parser Bool} {p : Parser α} {found : List α} {c : Cursor}

theorem manyRound_of_false (h : more c = .ok (false, c)) :
    manyRound more p found c = .ok (.inr found, c) := by
  rw [manyRound, bind_of_ok h]
  rfl

theorem manyRound_of_true (h : more c = .ok (true, c)) :
    manyRound more p found c = (p c).map fun x => (.inl (x.1 :: found), x.2) := by
  rw [manyRound, bind_of_ok h]
  cases hp : p c with
  | error e => exact bind_of_error hp
  | ok x => exact bind_of_ok hp

theorem manyWhile_of_false (h : more c = .ok (false, c)) : manyWhile more p c = .ok ([], c) := by
  have hloop : loop (manyRound more p) [] c = .ok ([], c) := by
    rw [loop, iterate, bind_of_ok (manyRound_of_false h)]
    rfl
  exact bind_of_ok hloop

end Round

/-- Whether there is more of a list that goes up to the end. -/
def notAtEnd : Parser Bool := return !(← atEnd)

theorem notAtEnd_of_nil {c : Cursor} (h : c.rest = []) : notAtEnd c = .ok (false, c) := by
  show Except.ok (!c.rest.isEmpty, c) = _
  rw [h, List.isEmpty_nil, Bool.not_true]

theorem notAtEnd_of_ne_nil {c : Cursor} (h : c.rest ≠ []) : notAtEnd c = .ok (true, c) := by
  show Except.ok (!c.rest.isEmpty, c) = _
  rw [List.isEmpty_eq_false_iff.mpr h, Bool.not_false]

theorem readsAll_iterate {p : Parser α} (fuel : Nat) (found : List α) (c : Cursor) :
    (iterate fuel (manyRound notAtEnd p) found).ReadsAll c ↔ ∃ n < fuel, p.ReadsEach n c := by
  -- one thing a round; what was found before is handed on and does not matter
  induction fuel generalizing found c with
  | zero =>
      constructor
      · rintro ⟨a, c', h, -⟩
        cases h
      · rintro ⟨n, hn, -⟩
        cases hn
  | succ fuel ih =>
      rw [ReadsAll, iterate]
      by_cases hrest : c.rest = []
      · rw [bind_of_ok (manyRound_of_false (notAtEnd_of_nil hrest))]
        constructor
        · rintro ⟨a, c', h, hdone⟩
          obtain ⟨rfl, rfl⟩ := Prod.mk.inj (Except.ok.inj h)
          exact ⟨0, Nat.succ_pos fuel, .done hdone⟩
        · rintro ⟨n, -, h⟩
          cases h with
          | done hdone => exact ⟨found, c, rfl, hdone⟩
          | read hne => exact absurd hrest hne
      · have hround : manyRound notAtEnd p found c = _ :=
          manyRound_of_true (notAtEnd_of_ne_nil hrest)
        cases hp : p c with
        | error e =>
            rw [hp] at hround
            rw [bind_of_error hround]
            constructor
            · rintro ⟨a, c', h, -⟩
              cases h
            · rintro ⟨n, -, h⟩
              cases h with
              | done hdone => exact absurd hdone.rest hrest
              | read _ hread =>
                  rw [hp] at hread
                  cases hread
        | ok x =>
            obtain ⟨a, c₁⟩ := x
            rw [hp] at hround
            rw [bind_of_ok hround]
            refine (ih (a :: found) c₁).trans ?_
            constructor
            · rintro ⟨n, hn, h⟩
              exact ⟨n + 1, Nat.succ_lt_succ hn, .read hrest hp h⟩
            · rintro ⟨n, hn, h⟩
              cases h with
              | done hdone => exact absurd hdone.rest hrest
              | @read n _ _ _ _ hread h =>
                  rw [hp] at hread
                  obtain ⟨rfl, rfl⟩ := Prod.mk.inj (Except.ok.inj hread)
                  exact ⟨n, Nat.lt_of_succ_lt_succ hn, h⟩

theorem readsAll_bind_pure {p : Parser α} {f : α → β} {c : Cursor} :
    (do return f (← p) : Parser β).ReadsAll c ↔ p.ReadsAll c := by
  unfold ReadsAll
  cases hp : p c with
  | error e => simp [bind_of_error hp]
  | ok x =>
      rw [bind_of_ok hp]
      constructor
      · rintro ⟨b, c', h, hdone⟩
        obtain ⟨-, rfl⟩ := Prod.mk.inj (Except.ok.inj h)
        exact ⟨x.1, x.2, rfl, hdone⟩
      · rintro ⟨a, c', h, hdone⟩
        obtain rfl := Except.ok.inj h
        exact ⟨f a, c', rfl, hdone⟩

/-- A list up to the end is read one thing after the other. -/
theorem readsAll_manyToEnd {p : Parser α} {c : Cursor} :
    (manyToEnd p).ReadsAll c ↔ ∃ n ≤ c.rest.length, p.ReadsEach n c := by
  have hloop := readsAll_iterate (p := p) (c.rest.length + 1) [] c
  simp only [Nat.lt_succ_iff] at hloop
  rw [← hloop]
  exact readsAll_bind_pure

/-- Whether tokens begin with an attribute that speaks of what they stand in. -/
def beginsInner (ts : Tokens) : Bool :=
  (Wanted.op "#").startsAt ts && (Wanted.op "!").startsAt (ts.drop 1)

theorem innerAttributes_none {g : Grammar} {c : Cursor} (h : beginsInner c.rest = false) :
    innerAttributes g c = .ok ([], c) := by
  apply manyWhile_of_false
  show Except.ok (beginsInner c.rest, c) = _
  rw [h]

/-- What stands in a module is read one item after the other if no attribute stands in front. -/
theorem readsAll_moduleContent {g : Grammar} {item : Parser Item} {c : Cursor}
    (h : beginsInner c.rest = false) :
    (moduleContent g item).ReadsAll c ↔ ∃ n ≤ c.rest.length, item.ReadsEach n c := by
  rw [← readsAll_manyToEnd, ReadsAll, moduleContent, bind_of_ok (innerAttributes_none h)]
  exact readsAll_bind_pure

/-! ## Things that end by themselves -/

/-- If `p` reads these tokens with others behind them, then it stops behind them. Without something
left over in a group it does so exactly if `C` holds. -/
structure Delimited (p : Parser α) (ts : Tokens) (C : Prop) : Prop where
  ne_nil : ts ≠ []
  reads : C → ∀ rest scope d stray, ∃ a,
    p ⟨ts ++ rest, scope, d, stray⟩ = .ok (a, ⟨rest, scope, d, stray⟩)
  of_read : ∀ {rest scope d stray a c'}, p ⟨ts ++ rest, scope, d, stray⟩ = .ok (a, c') →
    ∃ stray', c' = ⟨rest, scope, d, stray'⟩ ∧ (stray' = none → stray = none ∧ C)

/-- `p` reads these tokens up to their end as `n` things exactly if `C` holds. -/
def ReadsAs (p : Parser α) (ts : Tokens) (n : Nat) (C : Prop) : Prop :=
  ∀ m scope d stray, p.ReadsEach m ⟨ts, scope, d, stray⟩ ↔ m = n ∧ stray = none ∧ C

theorem ReadsAs.nil (p : Parser α) : p.ReadsAs [] 0 True := by
  intro m scope d stray
  constructor
  · rintro (⟨⟨-, hstray⟩⟩ | ⟨hrest⟩)
    · exact ⟨rfl, hstray, trivial⟩
    · exact absurd rfl hrest
  · rintro ⟨rfl, rfl, -⟩
    exact .done ⟨rfl, rfl⟩

theorem ReadsAs.append {p : Parser α} {ts more : Tokens} {n : Nat} {C D : Prop}
    (hts : p.Delimited ts C) (hmore : p.ReadsAs more n D) :
    p.ReadsAs (ts ++ more) (n + 1) (C ∧ D) := by
  intro m scope d stray
  have hne : ts ++ more ≠ [] := fun h => hts.ne_nil (List.append_eq_nil_iff.mp h).1
  constructor
  · intro h
    cases h with
    | done hdone => exact absurd hdone.rest hne
    | @read m _ c' a _ hread hrest =>
        obtain ⟨stray', rfl, hstray⟩ := hts.of_read hread
        obtain ⟨rfl, hnone, hD⟩ := (hmore m scope d stray').mp hrest
        obtain ⟨rfl, hC⟩ := hstray hnone
        exact ⟨rfl, rfl, hC, hD⟩
  · rintro ⟨rfl, rfl, hC, hD⟩
    obtain ⟨a, hread⟩ := hts.reads hC more scope d none
    exact .read hne hread ((hmore n scope d none).mpr ⟨rfl, rfl, hD⟩)

theorem ReadsAs.congr {p : Parser α} {ts : Tokens} {m n : Nat} {C D : Prop}
    (h : p.ReadsAs ts m C) (hn : m = n) (hC : C ↔ D) : p.ReadsAs ts n D := by
  rw [← hn, ReadsAs]
  simp only [← hC]
  exact h

/-! ## Modules -/

section Items

variable (g : Grammar) (attrs : List Attribute) (vis : Visibility) (i : Ident) (rest : Tokens)
  (scope : Span) (d : Option Delimiter) (stray : Option (Span × Option Delimiter))

theorem identAt_ident : identAt ⟨Tokens.ident i ++ rest, scope, d, stray⟩
    = if i.isFree then .ok ((i, Span.nowhere), ⟨rest, scope, d, stray⟩)
      else .error ⟨.keywordAsIdentifier i.text, Span.nowhere, false⟩ := rfl

/-- A module goes on behind its name, which has to be free. -/
theorem moduleItem_ident (htry : i.isWritten "try" = false) :
    moduleItem g attrs vis ⟨Tokens.word "mod" ++ (Tokens.ident i ++ rest), scope, d, stray⟩
      = if i.isFree then moduleRest g attrs vis false i ⟨rest, scope, d, stray⟩
        else .error ⟨.keywordAsIdentifier i.text, Span.nowhere, false⟩ := by
  have hunsafe : word? "unsafe"
      ⟨Tokens.word "mod" ++ (Tokens.ident i ++ rest), scope, d, stray⟩
      = .ok (Tree.absent, ⟨Tokens.word "mod" ++ (Tokens.ident i ++ rest), scope, d, stray⟩) := rfl
  have hmod : word "mod" ⟨Tokens.word "mod" ++ (Tokens.ident i ++ rest), scope, d, stray⟩
      = .ok (.word ⟨"mod", false⟩, ⟨Tokens.ident i ++ rest, scope, d, stray⟩) := rfl
  have hshows : shows (.word "try") 0 ⟨Tokens.ident i ++ rest, scope, d, stray⟩
      = .ok (false, ⟨Tokens.ident i ++ rest, scope, d, stray⟩) := by
    rw [← htry]
    rfl
  rw [moduleItem, bind_of_ok hunsafe, bind_of_ok hmod, bind_of_ok hshows]
  have hident := identAt_ident i rest scope d stray
  cases hfree : i.isFree with
  | true =>
      rw [hfree, if_pos rfl] at hident
      have hname : ident ⟨Tokens.ident i ++ rest, scope, d, stray⟩
          = .ok (i, ⟨rest, scope, d, stray⟩) := bind_of_ok hident
      exact bind_of_ok hname
  | false =>
      rw [hfree, if_neg Bool.false_ne_true] at hident
      have hname : ident ⟨Tokens.ident i ++ rest, scope, d, stray⟩ = .error _ :=
        bind_of_error hident
      exact bind_of_error hname

theorem moduleRest_semicolon : moduleRest g attrs vis false i
    ⟨Tokens.op ";" ++ rest, scope, d, stray⟩
      = .ok (.module attrs vis false i none, ⟨rest, scope, d, stray⟩) := rfl

theorem inGroup_brace {p : Parser α} (body : Tokens) :
    inGroup .brace p ⟨braces body ++ rest, scope, d, stray⟩
      = (p ⟨body, Span.nowhere, some .brace, none⟩).map fun x => (x.1, ⟨rest, scope, d,
          stray <|> x.2.stray <|> x.2.rest.head?.map fun t => (t.wholeSpan, some .brace)⟩) := by
  simp only [inGroup, braces, List.singleton_append, if_true, StateT.run]
  cases p ⟨body, Span.nowhere, some .brace, none⟩ <;> rfl

theorem moduleRest_braces (body : Tokens) : moduleRest g attrs vis false i
    ⟨braces body ++ rest, scope, d, stray⟩
      = (inGroup .brace (moduleContent g g.item) ⟨braces body ++ rest, scope, d, stray⟩).map
          fun x => (.module (attrs ++ x.1.1) vis false i (some x.1.2), x.2) := by
  have hsemicolon : shows (.op ";") 0 ⟨braces body ++ rest, scope, d, stray⟩
      = .ok (false, ⟨braces body ++ rest, scope, d, stray⟩) := rfl
  have hbraces : shows .braces 0 ⟨braces body ++ rest, scope, d, stray⟩
      = .ok (true, ⟨braces body ++ rest, scope, d, stray⟩) := rfl
  rw [moduleRest, bind_of_ok hsemicolon, if_neg Bool.false_ne_true, bind_of_ok hbraces,
    if_pos rfl]
  cases h : inGroup .brace (moduleContent g g.item) ⟨braces body ++ rest, scope, d, stray⟩ with
  | error e => exact bind_of_error h
  | ok x => exact bind_of_ok h

end Items

/-- Tokens in front of `mod` that are attributes and a visibility. -/
def LeadsToModule (front : Tokens) (attrs : List Attribute) (vis : Visibility) : Prop :=
  ∀ g rest scope d stray, itemOf g ⟨front ++ (Tokens.word "mod" ++ rest), scope, d, stray⟩
    = moduleItem g attrs vis ⟨Tokens.word "mod" ++ rest, scope, d, stray⟩

section Module

variable {front : Tokens} {attrs : List Attribute} {vis : Visibility}
  (hfront : LeadsToModule front attrs vis) (g : Grammar) {i : Ident}
  (htry : i.isWritten "try" = false)
include hfront htry

/-- The declaration of a module in another file. -/
theorem delimited_outlined : (itemOf g).Delimited
    (front ++ (Tokens.word "mod" ++ (Tokens.ident i ++ Tokens.op ";"))) (i.isFree = true) := by
  have hitem : ∀ rest scope d stray,
      itemOf g ⟨front ++ (Tokens.word "mod" ++ (Tokens.ident i ++ Tokens.op ";")) ++ rest, scope, d,
          stray⟩
        = if i.isFree then .ok (.module attrs vis false i none, ⟨rest, scope, d, stray⟩)
          else .error ⟨.keywordAsIdentifier i.text, Span.nowhere, false⟩ := by
    intro rest scope d stray
    simp only [List.append_assoc]
    rw [hfront, moduleItem_ident g attrs vis i _ scope d stray htry, moduleRest_semicolon]
  refine ⟨by simp [Tokens.word], ?_, ?_⟩
  · intro hfree rest scope d stray
    exact ⟨_, by rw [hitem, if_pos hfree]⟩
  · intro rest scope d stray a c' h
    rw [hitem] at h
    split at h
    · next hfree =>
        obtain ⟨-, rfl⟩ := Prod.mk.inj (Except.ok.inj h)
        exact ⟨stray, rfl, fun hnone => ⟨hnone, hfree⟩⟩
    · cases h

/-- A module with its body. -/
theorem delimited_inline (body : Tokens) : (itemOf g).Delimited
    (front ++ (Tokens.word "mod" ++ (Tokens.ident i ++ braces body)))
    (i.isFree = true
      ∧ (moduleContent g g.item).ReadsAll ⟨body, Span.nowhere, some .brace, none⟩) := by
  have hitem : ∀ rest scope d stray,
      itemOf g ⟨front ++ (Tokens.word "mod" ++ (Tokens.ident i ++ braces body)) ++ rest, scope, d,
          stray⟩
        = if i.isFree then
            (moduleContent g g.item ⟨body, Span.nowhere, some .brace, none⟩).map fun x =>
              (.module (attrs ++ x.1.1) vis false i (some x.1.2), ⟨rest, scope, d,
                stray <|> x.2.stray <|> x.2.rest.head?.map fun t => (t.wholeSpan, some .brace)⟩)
          else .error ⟨.keywordAsIdentifier i.text, Span.nowhere, false⟩ := by
    intro rest scope d stray
    simp only [List.append_assoc]
    rw [hfront, moduleItem_ident g attrs vis i _ scope d stray htry, moduleRest_braces,
      inGroup_brace]
    cases moduleContent g g.item ⟨body, Span.nowhere, some .brace, none⟩ <;> rfl
  refine ⟨by simp [Tokens.word], ?_, ?_⟩
  · rintro ⟨hfree, a, c, hread, hdone⟩ rest scope d stray
    rw [hitem, if_pos hfree, hread]
    refine ⟨_, congrArg Except.ok (Prod.ext rfl ?_)⟩
    simp only [hdone.rest, hdone.stray]
    cases stray <;> rfl
  · intro rest scope d stray a c' h
    rw [hitem] at h
    split at h
    · next hfree =>
        cases hread : moduleContent g g.item ⟨body, Span.nowhere, some .brace, none⟩ with
        | error e =>
            rw [hread] at h
            cases h
        | ok x =>
            rw [hread] at h
            obtain ⟨-, rfl⟩ := Prod.mk.inj (Except.ok.inj h)
            refine ⟨_, rfl, fun hnone => ?_⟩
            obtain ⟨content, ⟨crest, cscope, cd, cstray⟩⟩ := x
            -- nothing is left over behind the body only if nothing was before or is left in it
            cases stray <;> cases cstray <;> cases crest <;> simp at hnone
            exact ⟨rfl, hfree, _, _, hread, rfl, rfl⟩
    · cases h

end Module

/-! ## Imports -/

section Use

variable (i : Ident) (rest : Tokens) (scope : Span) (d : Option Delimiter)
  (stray : Option (Span × Option Delimiter))

/-- A free name in an import is followed by more names, by another name for it, or by nothing. -/
theorem useTreeOf_ident (g : Grammar) (root : Bool) (hfree : i.isFree = true) :
    useTreeOf g root ⟨Tokens.ident i ++ rest, scope, d, stray⟩
      = (do
          if ← shows (.op "::") then
            let _ ← op "::"
            return (← g.useTree false).map (UseTree.path i)
          else if ← shows (.word "as") then
            let _ ← word "as"
            if (← shows .identifier) || (← shows (.word "_")) then
              return some (.rename i (← anyWord).1)
            else complain .noAlias
          else return some (.name i) : Parser (Option UseTree)) ⟨rest, scope, d, stray⟩ := by
  have hshows : shows .identifier 0 ⟨Tokens.ident i ++ rest, scope, d, stray⟩
      = .ok (true, ⟨Tokens.ident i ++ rest, scope, d, stray⟩) := by
    rw [← hfree]
    rfl
  rw [useTreeOf, bind_of_ok hshows]
  rfl

theorem useTreeOf_path (g : Grammar) (root : Bool) (hfree : i.isFree = true) :
    useTreeOf g root ⟨Tokens.ident i ++ (Tokens.op "::" ++ rest), scope, d, stray⟩
      = (g.useTree false ⟨rest, scope, d, stray⟩).map fun x =>
          (x.1.map (UseTree.path i), x.2) := by
  rw [useTreeOf_ident i _ scope d stray g root hfree]
  show (g.useTree false >>= fun t => return t.map (UseTree.path i)) ⟨rest, scope, d, stray⟩ = _
  cases h : g.useTree false ⟨rest, scope, d, stray⟩ with
  | error e => exact bind_of_error h
  | ok x => exact bind_of_ok h

/-- An import without `::` in front is one tree of names. -/
theorem useItem_ident (g : Grammar) (begin : Cursor) (attrs : List Attribute) (vis : Visibility) :
    useItem g begin attrs vis ⟨Tokens.word "use" ++ (Tokens.ident i ++ rest), scope, d, stray⟩
      = (do
          let tree ← g.useTree true
          let _ ← op ";"
          match tree with
          | some t => return .use attrs vis false t
          | none => return .other (← plainItem begin) : Parser Item)
        ⟨Tokens.ident i ++ rest, scope, d, stray⟩ := rfl

variable {i} {j : Ident} (hi : i.isFree = true) (hj : j.isFree = true)
include hi

theorem useItem_of_lt (begin : Cursor) (attrs : List Attribute) (vis : Visibility) {depth : Nat}
    (hdepth : depth < 2) :
    ∃ e, useItem (.ofDepth depth) begin attrs vis
      ⟨Tokens.word "use" ++ (Tokens.ident i ++ (Tokens.op "::" ++ rest)), scope, d, stray⟩
        = .error e := by
  have htree : ∃ e, (Grammar.ofDepth depth).useTree true
      ⟨Tokens.ident i ++ (Tokens.op "::" ++ rest), scope, d, stray⟩ = .error e := by
    match depth, hdepth with
    | 0, _ => exact ⟨_, rfl⟩
    | 1, _ => exact ⟨_, useTreeOf_path i rest scope d stray (.ofDepth 0) true hi⟩
  -- every name of the path takes one level of the grammar, and there are two
  obtain ⟨e, htree⟩ := htree
  rw [useItem_ident]
  exact ⟨e, bind_of_error htree⟩

include hj

theorem useItem_path (begin : Cursor) (attrs : List Attribute) (vis : Visibility) (depth : Nat) :
    useItem (.ofDepth (depth + 2)) begin attrs vis
      ⟨Tokens.word "use" ++ (Tokens.ident i ++ (Tokens.op "::" ++ (Tokens.ident j
        ++ (Tokens.op ";" ++ rest)))), scope, d, stray⟩
      = .ok (.use attrs vis false (.path i (.name j)), ⟨rest, scope, d, stray⟩) := by
  have hname : (Grammar.ofDepth (depth + 1)).useTree false
      ⟨Tokens.ident j ++ (Tokens.op ";" ++ rest), scope, d, stray⟩
        = .ok (some (.name j), ⟨Tokens.op ";" ++ rest, scope, d, stray⟩) :=
    useTreeOf_ident j (Tokens.op ";" ++ rest) scope d stray (.ofDepth depth) false hj
  have hpath : (Grammar.ofDepth (depth + 2)).useTree true
      ⟨Tokens.ident i ++ (Tokens.op "::" ++ (Tokens.ident j ++ (Tokens.op ";" ++ rest))), scope, d,
        stray⟩ = .ok (some (.path i (.name j)), ⟨Tokens.op ";" ++ rest, scope, d, stray⟩) := by
    have hident := useTreeOf_path i (Tokens.ident j ++ (Tokens.op ";" ++ rest)) scope d stray
      (.ofDepth (depth + 1)) true hi
    rw [hname] at hident
    exact hident
  rw [useItem_ident, bind_of_ok hpath]
  rfl

end Use

/-- Tokens in front of `use` that are attributes and a visibility. -/
def LeadsToUse (front : Tokens) (attrs : List Attribute) (vis : Visibility) : Prop :=
  ∀ g rest scope d stray, ∃ begin,
    itemOf g ⟨front ++ (Tokens.word "use" ++ rest), scope, d, stray⟩
      = useItem g begin attrs vis ⟨Tokens.word "use" ++ rest, scope, d, stray⟩

/-- The import of a name out of a module. -/
theorem delimited_use {front : Tokens} {attrs : List Attribute} {vis : Visibility}
    (hfront : LeadsToUse front attrs vis) {i j : Ident} (hi : i.isFree = true)
    (hj : j.isFree = true) (depth : Nat) :
    (itemOf (.ofDepth depth)).Delimited (front ++ (Tokens.word "use" ++ (Tokens.ident i
      ++ (Tokens.op "::" ++ (Tokens.ident j ++ Tokens.op ";"))))) (2 ≤ depth) := by
  refine ⟨by simp [Tokens.word], ?_, ?_⟩
  · intro hdepth rest scope d stray
    obtain ⟨n, rfl⟩ := Nat.exists_eq_add_of_le' hdepth
    simp only [List.append_assoc]
    obtain ⟨begin, hitem⟩ := hfront (.ofDepth (n + 2)) (Tokens.ident i ++ (Tokens.op "::"
      ++ (Tokens.ident j ++ (Tokens.op ";" ++ rest)))) scope d stray
    exact ⟨_, hitem.trans (useItem_path rest scope d stray hi hj begin attrs vis n)⟩
  · intro rest scope d stray a c' h
    simp only [List.append_assoc] at h
    obtain ⟨begin, hitem⟩ := hfront (.ofDepth depth) (Tokens.ident i ++ (Tokens.op "::"
      ++ (Tokens.ident j ++ (Tokens.op ";" ++ rest)))) scope d stray
    rw [hitem] at h
    rcases Nat.lt_or_ge depth 2 with hdepth | hdepth
    · obtain ⟨e, herror⟩ := useItem_of_lt (Tokens.ident j ++ (Tokens.op ";" ++ rest)) scope d stray
        hi begin attrs vis hdepth
      rw [herror] at h
      cases h
    · obtain ⟨n, rfl⟩ := Nat.exists_eq_add_of_le' hdepth
      rw [useItem_path rest scope d stray hi hj begin attrs vis n] at h
      obtain ⟨-, rfl⟩ := Prod.mk.inj (Except.ok.inj h)
      exact ⟨stray, rfl, fun hnone => ⟨hnone, hdepth⟩⟩

end Parser

end BuilderForge.Code
