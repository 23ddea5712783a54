import BuilderForge.Code.Parser.File

set_option autoImplicit false

-- a production is one instance problem, with one step for each step of its reader
set_option synthInstance.maxSize 10000

/-! # Parsers go forward

A parser leaves the end of the tokens that it was given, in the same group, and remembers what was
left over in a group before (`Parser.Advances`). Parsers that do so can be put together and
repeated. What stands inside of a group does not matter, as its reader has a cursor of its own; so
all productions for types and paths go forward although those for expressions are not looked into
(`Grammar.whole_advances`).
-/

namespace BuilderForge.Code

/-- One cursor comes after another in the same group. -/
structure Cursor.LeadsTo (c c' : Cursor) : Prop where
  rest : c'.rest <:+ c.rest
  scope : c'.scope = c.scope
  delimiter : c'.delimiter = c.delimiter
  stray : c'.stray = none → c.stray = none

namespace Cursor.LeadsTo

theorem refl (c : Cursor) : c.LeadsTo c := ⟨List.suffix_refl _, rfl, rfl, id⟩

theorem trans {c c' c'' : Cursor} (h : c.LeadsTo c') (h' : c'.LeadsTo c'') : c.LeadsTo c'' :=
  ⟨h'.rest.trans h.rest, h'.scope.trans h.scope, h'.delimiter.trans h.delimiter,
    fun hnone => h.stray (h'.stray hnone)⟩

/-- A cursor behind the first tokens. -/
theorem of_suffix {c : Cursor} {ts : Tokens} (h : ts <:+ c.rest) :
    c.LeadsTo { c with rest := ts } := ⟨h, rfl, rfl, id⟩

end Cursor.LeadsTo

namespace Parser

variable {α β σ : Type}

/-- What the parser leaves comes after what it was given. -/
class Advances (p : Parser α) : Prop where
  leadsTo : ∀ ⦃c a c'⦄, p c = .ok (a, c') → c.LeadsTo c'

/-! ## Putting parsers together -/

instance (a : α) : (pure a : Parser α).Advances where
  leadsTo c b c' h := by
    obtain ⟨rfl, rfl⟩ := Prod.mk.inj (Except.ok.inj h)
    exact .refl c

theorem Advances.bind {p : Parser α} {f : α → Parser β} [hp : p.Advances]
    (hf : ∀ a, (f a).Advances) : (p >>= f).Advances where
  leadsTo c b c' h := by
    cases hread : p c with
    | error e =>
        simp only [Bind.bind, StateT.bind, hread, Except.bind] at h
        cases h
    | ok x =>
        obtain ⟨a, c₁⟩ := x
        simp only [Bind.bind, StateT.bind, hread, Except.bind] at h
        exact (hp.leadsTo hread).trans ((hf a).leadsTo h)

theorem Advances.ite {b : Prop} [Decidable b] {p q : Parser α} (hp : p.Advances)
    (hq : q.Advances) : (if b then p else q).Advances := by
  split
  · exact hp
  · exact hq

instance {p : Parser α} {f : α → Parser β} [p.Advances] [hf : ∀ a, (f a).Advances] :
    (p >>= f).Advances := .bind hf

instance {b : Prop} [Decidable b] {p q : Parser α} [hp : p.Advances] [hq : q.Advances] :
    (if b then p else q).Advances := .ite hp hq

/-! ## Looking and complaining -/

instance : (get : Parser Cursor).Advances where
  leadsTo c a c' h := by
    obtain ⟨rfl, rfl⟩ := Prod.mk.inj (Except.ok.inj h)
    exact .refl c

instance (what : Complaint) : (complain what : Parser α).Advances := ⟨nofun⟩

instance (span : Span) (what : Complaint) : (complainAt span what : Parser α).Advances := ⟨nofun⟩

instance (options : List Wanted) : (wantOneOf options : Parser α).Advances := ⟨nofun⟩

instance (w : Wanted) (skip : Nat) : (shows w skip).Advances := by
  unfold shows
  infer_instance

instance : atEnd.Advances := by
  unfold atEnd
  infer_instance

instance : here.Advances := by
  unfold here
  infer_instance

instance (words : List String) (skip : Nat) : (showsAnyOf words skip).Advances := by
  unfold showsAnyOf
  infer_instance

instance (start : Cursor) : (tokensSince start).Advances where
  leadsTo c a c' h := by
    obtain ⟨rfl, rfl⟩ := Prod.mk.inj (Except.ok.inj h)
    exact .refl c

instance (start : Cursor) (last : TokenTree → Bool) : (stretchTo start last).Advances := by
  unfold stretchTo
  infer_instance

instance (start : Cursor) : (stretchSince start).Advances := by
  unfold stretchSince
  infer_instance

/-! ## Reading tokens -/

instance (s : String) : (word s).Advances where
  leadsTo c a c' h := by
    unfold word at h
    split at h
    · next hrest =>
        split at h
        · obtain ⟨rfl, rfl⟩ := Prod.mk.inj (Except.ok.inj h)
          exact .of_suffix (hrest ▸ List.suffix_cons _ _)
        · cases h
    · cases h

instance (s : String) : (op s).Advances where
  leadsTo c a c' h := by
    unfold op at h
    split at h
    · obtain ⟨rfl, rfl⟩ := Prod.mk.inj (Except.ok.inj h)
      exact .of_suffix (List.drop_suffix _ _)
    · cases h

instance (s : String) : (word? s).Advances := by
  unfold word?
  infer_instance

instance (s : String) : (op? s).Advances := by
  unfold op?
  infer_instance

instance : anyWord.Advances where
  leadsTo c a c' h := by
    unfold anyWord at h
    split at h
    · next hrest =>
        obtain ⟨rfl, rfl⟩ := Prod.mk.inj (Except.ok.inj h)
        exact .of_suffix (hrest ▸ List.suffix_cons _ _)
    · cases h

instance : identAt.Advances where
  leadsTo c a c' h := by
    unfold identAt at h
    split at h
    · next hrest =>
        split at h
        · obtain ⟨rfl, rfl⟩ := Prod.mk.inj (Except.ok.inj h)
          exact .of_suffix (hrest ▸ List.suffix_cons _ _)
        · cases h
    · cases h

instance : ident.Advances := by
  unfold ident
  infer_instance

instance : identTree.Advances := by
  unfold identTree
  infer_instance

instance : lifetime.Advances where
  leadsTo c a c' h := by
    unfold lifetime at h
    split at h
    · next hrest =>
        obtain ⟨rfl, rfl⟩ := Prod.mk.inj (Except.ok.inj h)
        exact .of_suffix (hrest ▸ List.suffix_cons _ _)
    · cases h

instance : literal.Advances where
  leadsTo c a c' h := by
    unfold literal at h
    split at h
    · next hrest =>
        obtain ⟨rfl, rfl⟩ := Prod.mk.inj (Except.ok.inj h)
        exact .of_suffix (hrest ▸ List.suffix_cons _ _)
    · next hrest =>
        split at h
        · obtain ⟨rfl, rfl⟩ := Prod.mk.inj (Except.ok.inj h)
          exact .of_suffix (hrest ▸ List.suffix_cons _ _)
        · cases h
    · next hrest =>
        split at h
        · obtain ⟨rfl, rfl⟩ := Prod.mk.inj (Except.ok.inj h)
          exact .of_suffix (hrest ▸ (List.suffix_cons _ _).trans (List.suffix_cons _ _))
        · cases h
    · cases h

instance : rawGroup.Advances where
  leadsTo c a c' h := by
    unfold rawGroup at h
    split at h
    · next hrest =>
        obtain ⟨rfl, rfl⟩ := Prod.mk.inj (Except.ok.inj h)
        exact .of_suffix (hrest ▸ List.suffix_cons _ _)
    · cases h

/-- A group is read by a parser of any kind, which has a cursor of its own. -/
instance (d : Delimiter) (p : Parser α) : (inGroup d p).Advances where
  leadsTo c a c' h := by
    unfold inGroup at h
    split at h
    · next hrest =>
        split at h
        · split at h
          · cases h
          · obtain ⟨rfl, rfl⟩ := Prod.mk.inj (Except.ok.inj h)
            refine ⟨hrest ▸ List.suffix_cons _ _, rfl, rfl, fun hnone => ?_⟩
            cases hstray : c.stray with
            | none => rfl
            | some x => simp [hstray] at hnone
        · cases h
    · cases h

/-! ## Repetition -/

theorem iterate_advances (fuel : Nat) {step : σ → Parser (σ ⊕ β)} [h : ∀ s, (step s).Advances]
    (s : σ) : (iterate fuel step s).Advances := by
  induction fuel generalizing s with
  | zero =>
      unfold iterate
      infer_instance
  | succ fuel ih =>
      refine .bind fun x => ?_
      cases x with
      | inl s' => exact ih s'
      | inr b => infer_instance

instance {step : σ → Parser (σ ⊕ β)} [∀ s, (step s).Advances] (s : σ) :
    (loop step s).Advances where
  leadsTo c _ _ h := (iterate_advances (c.rest.length + 1) s).leadsTo h

instance {more : Parser Bool} {p : Parser α} [more.Advances] [p.Advances] :
    (manyWhile more p).Advances := by
  unfold manyWhile
  infer_instance

instance {stop : Parser Bool} {separator : String} {p : Parser Tree} [stop.Advances]
    [p.Advances] : (separatedUntil stop separator p).Advances := by
  unfold separatedUntil
  infer_instance

instance {stop : Parser Bool} {separator : String} {p : Parser Tree} [stop.Advances]
    [p.Advances] : (separatedWhile stop separator p).Advances := by
  unfold separatedWhile
  infer_instance

/-! ## Types and paths -/

end Parser

/-- The parsers of the grammar for types and bounds go forward. -/
class Grammar.Advances (g : Grammar) : Prop where
  type : ∀ plus, (g.type plus).Advances
  bound : ∀ rules, (g.bound rules).Advances

namespace Parser

variable {g : Grammar} [hg : g.Advances]

instance (plus : Bool) : (g.type plus).Advances := hg.type plus

instance (rules : BoundRules) : (g.bound rules).Advances := hg.bound rules

instance : (attributedBlock g).Advances := by
  unfold attributedBlock blockWithAttributes
  exact .bind fun (_, _) => inferInstance

instance : (attributeTrees g).Advances := by
  unfold attributeTrees outerAttributes
  infer_instance

instance : (constArgument g).Advances := by
  unfold constArgument
  infer_instance

instance (plus : Bool) : (returnType g plus).Advances := by
  unfold returnType
  infer_instance

instance : (genericArgument g).Advances := by
  unfold genericArgument
  refine .bind fun _ => .bind fun _ => .ite inferInstance ?_
  refine .bind fun _ => .bind fun _ => .ite inferInstance (.bind fun t => ?_)
  -- a name that is no path on its own can stand in front of `=` or `:`
  split
  · dsimp only
    infer_instance
  · infer_instance

instance : (angleArguments g).Advances := by
  unfold angleArguments
  infer_instance

instance : (parenArguments g).Advances := by
  unfold parenArguments
  infer_instance

instance (value : Bool) : (segment g value).Advances := by
  unfold segment
  infer_instance

instance (value : Bool) : (path g value).Advances := by
  unfold path
  infer_instance

instance (value : Bool) : (qualifiedPath g value).Advances := by
  unfold qualifiedPath
  infer_instance

/-! ### Bounds -/

instance (consts : Bool) : (showsBound consts).Advances := by
  unfold showsBound
  infer_instance

instance : (genericParam g).Advances := by
  unfold genericParam
  infer_instance

instance : (binder? g).Advances := by
  unfold binder?
  infer_instance

instance (rules : BoundRules) : (constMark rules).Advances := by
  unfold constMark
  infer_instance

instance (rules : BoundRules) : (traitBound g rules).Advances := by
  unfold traitBound
  infer_instance

instance (rules : BoundRules) : (captures rules).Advances := by
  unfold captures
  dsimp only
  infer_instance

instance (rules : BoundRules) : (boundOf g rules).Advances := by
  unfold boundOf
  infer_instance

instance (plus : Bool) (rules : BoundRules) : (bounds g plus rules).Advances := by
  unfold bounds
  infer_instance

/-! ### Types -/

instance : abi?.Advances := by
  unfold abi?
  infer_instance

instance (lifetimes : Tree) : (functionType g lifetimes).Advances := by
  unfold functionType
  infer_instance

instance (plus : Bool) (start : Cursor) : (objectBounds g plus start).Advances := by
  unfold objectBounds
  infer_instance

instance (rules : BoundRules) (first : Tree) : (moreBounds g rules first).Advances := by
  unfold moreBounds
  infer_instance

instance : (parenContent g).Advances := by
  unfold parenContent
  infer_instance

instance (plus : Bool) : (parenthesizedType g plus).Advances := by
  unfold parenthesizedType
  refine .bind fun content => ?_
  cases content with
  | whole t => infer_instance
  | bound b => infer_instance
  | single t =>
      refine .bind fun goesOn => ?_
      split <;> infer_instance

instance (plus : Bool) (lifetimes : Tree) : (pathType g plus lifetimes).Advances := by
  unfold pathType
  refine .bind fun content => ?_
  cases content with
  | inr t => infer_instance
  | inl p =>
      refine .bind fun _ => .bind fun _ => .ite (.bind fun _ => ?_) inferInstance
      exact .bind fun (_, _, _) => inferInstance

instance : (bracketedType g).Advances := by
  unfold bracketedType
  infer_instance

instance : (typeBinder g).Advances := by
  unfold typeBinder
  infer_instance

instance (plus : Bool) : (objectType g plus).Advances := by
  unfold objectType
  infer_instance

instance : (pointerType g).Advances := by
  unfold pointerType
  infer_instance

instance : (referenceType g).Advances := by
  unfold referenceType
  infer_instance

instance (plus : Bool) : (opaqueType g plus).Advances := by
  unfold opaqueType
  infer_instance

instance : builtinType.Advances := by
  unfold builtinType
  infer_instance

instance (plus : Bool) : (typeOf g plus).Advances := by
  unfold typeOf
  infer_instance

end Parser

/-- Types and bounds of any depth are read by parsers that go forward. -/
theorem Grammar.ofDepth_advances (depth : Nat) : (ofDepth depth).Advances := by
  induction depth with
  | zero => exact ⟨fun _ => inferInstanceAs (Parser.complain _).Advances,
      fun _ => inferInstanceAs (Parser.complain _).Advances⟩
  | succ depth ih =>
      exact ⟨fun plus => inferInstanceAs (Parser.typeOf (ofDepth depth) plus).Advances,
        fun rules => inferInstanceAs (Parser.boundOf (ofDepth depth) rules).Advances⟩

instance Grammar.whole_advances : whole.Advances := ofDepth_advances _

end BuilderForge.Code
