import BuilderForge.Registry.Declaration
import Mathlib.Data.List.Perm.Basic

set_option autoImplicit false

/-! # The marker of a type

An attribute derives paths as a derive list, or under a condition, and what is derived under a
condition can itself depend on another one (`Derives`). The marker of a type is the highest one
among the paths that its attributes derive under one condition at most (`ofAttributes_eq_iff`), so
it is the marker that the type is to have exactly if the highest marker is derived so
(`isMarkerOf_iff`).
-/

namespace BuilderForge

open Code (Attribute Parser)

/-! ## What attributes derive -/

/-- The entries of a list of attributes, the first of which is a condition. -/
def attributeEntries? (a : Attribute) : Option (List Attribute) :=
  attributeArgs? a fun g => Parser.commaList (attributeEntry g)

/-- The attribute derives the path under this number of conditions: in a derive list, or anywhere
behind the condition that an attribute depends on. -/
inductive Derives : Nat → Attribute → Code.Path → Prop
  | list {a : Attribute} {ps : List Code.Path} {p : Code.Path} (hname : a.isNamed "derive" = true)
      (hlist : attributeArgs? a derivePaths = some ps) (hp : p ∈ ps) : Derives 0 a p
  | under {depth : Nat} {a condition e : Attribute} {es : List Attribute} {p : Code.Path}
      (hname : a.isNamed "cfg_attr" = true) (hlist : attributeEntries? a = some (condition :: es))
      (he : e ∈ es) (hp : Derives depth e p) : Derives (depth + 1) a p

/-- What an attribute derives under this number of conditions. -/
def derivedUnder : Nat → Attribute → List Code.Path
  | 0, a => if a.isNamed "derive" then (attributeArgs? a derivePaths).getD [] else []
  | depth + 1, a =>
      if a.isNamed "cfg_attr" then
        ((attributeEntries? a).getD []).tail.flatMap (derivedUnder depth)
      else []

theorem mem_derivedUnder_iff {depth : Nat} {a : Attribute} {p : Code.Path} :
    p ∈ derivedUnder depth a ↔ Derives depth a p := by
  induction depth generalizing a with
  | zero =>
      rw [derivedUnder]
      constructor
      · intro h
        split at h
        · next hname =>
            cases hlist : attributeArgs? a derivePaths with
            | none => simp [hlist] at h
            | some ps => exact .list hname hlist (by simpa [hlist] using h)
        · cases h
      · rintro ⟨hname, hlist, hp⟩
        simpa [hname, hlist] using hp
  | succ depth ih =>
      rw [derivedUnder]
      constructor
      · intro h
        split at h
        · next hname =>
            obtain ⟨e, he, hp⟩ := List.mem_flatMap.mp h
            cases hlist : attributeEntries? a with
            | none => simp [hlist] at he
            | some entries =>
                cases entries with
                | nil => simp [hlist] at he
                | cons condition es =>
                    exact .under hname hlist (by simpa [hlist] using he) (ih.mp hp)
        · cases h
      · intro h
        cases h with
        | @under depth a condition e es p hname hlist he hp =>
            rw [if_pos hname, hlist]
            exact List.mem_flatMap.mpr ⟨e, he, ih.mpr hp⟩

theorem isWritten_iff {i : Code.Ident} {word : String} :
    i.isWritten word = true ↔ i.text = word := beq_iff_eq

/-- An attribute is named by one word only. -/
theorem word_eq_of_isNamed {a : Attribute} {v w : String} (hv : a.isNamed v = true)
    (hw : a.isNamed w = true) : v = w := by
  unfold Attribute.isNamed Code.Path.isName at hv hw
  split at hv
  · next i hleading hsegments =>
      rw [hleading, hsegments] at hw
      exact (isWritten_iff.mp hv).symm.trans (isWritten_iff.mp hw)
  · cases hv

/-- The arguments of an attribute can only be read if there are some in brackets. -/
theorem exists_list_of_attributeArgs? {α : Type} {a : Attribute} {p : Code.Grammar → Parser α}
    {x : α} (h : attributeArgs? a p = some x) : ∃ d ts closing, a.args = .list d ts closing := by
  unfold attributeArgs? Attribute.parseArgs at h
  cases hargs : a.args with
  | list d ts closing => exact ⟨d, ts, closing, rfl⟩
  | nothing => simp [hargs] at h
  | value equals v => simp [hargs] at h

/-- What an entry behind a condition derives, as the program looks for it. -/
theorem derivedUnder_entry (e : Attribute) :
    (match e.args with
      | .list .. => if e.isNamed "derive" then (attributeArgs? e derivePaths).getD [] else []
      | _ => []) = derivedUnder 0 e := by
  rw [derivedUnder]
  split
  · rfl
  · next hargs =>
      cases hlist : attributeArgs? e derivePaths with
      | none => simp
      | some ps =>
          obtain ⟨d, ts, closing, hlist⟩ := exists_list_of_attributeArgs? hlist
          exact absurd hlist (hargs d ts closing)

/-- The program looks for paths under one condition at most. -/
theorem mem_derivedPaths_iff {a : Attribute} {p : Code.Path} :
    p ∈ derivedPaths a ↔ ∃ depth ≤ 1, Derives depth a p := by
  have hpaths : derivedPaths a = derivedUnder 0 a ++ derivedUnder 1 a := by
    rw [derivedPaths, derivedUnder, derivedUnder]
    by_cases hderive : a.isNamed "derive" = true
    · have hcfg : ¬ a.isNamed "cfg_attr" = true := fun hcfg =>
        absurd (word_eq_of_isNamed hderive hcfg) (by decide)
      rw [if_pos hderive, if_pos hderive, if_neg hcfg, List.append_nil]
    · rw [if_neg hderive, if_neg hderive, List.nil_append]
      by_cases hcfg : a.isNamed "cfg_attr" = true
      · rw [if_pos hcfg, if_pos hcfg, attributeEntries?]
        dsimp only
        rw [List.drop_one]
        exact List.flatMap_congr fun e _ => derivedUnder_entry e
      · rw [if_neg hcfg, if_neg hcfg]
  simp only [hpaths, List.mem_append, mem_derivedUnder_iff]
  constructor
  · rintro (h | h)
    · exact ⟨0, by decide, h⟩
    · exact ⟨1, by decide, h⟩
  · rintro ⟨depth, hdepth, h⟩
    obtain rfl | rfl : depth = 0 ∨ depth = 1 := by omega
    · exact Or.inl h
    · exact Or.inr h

/-! ## The words that stand for markers -/

namespace Code

/-- The last name of the path is the word, with or without the mark of a raw identifier. -/
def Path.EndsIn (p : Path) (word : String) : Prop :=
  ∃ s, p.segments.getLast? = some s ∧ s.ident.name = word

/-- The last name of the path is the word, without the mark of a raw identifier. -/
def Path.EndsPlainlyIn (p : Path) (word : String) : Prop :=
  ∃ s, p.segments.getLast? = some s ∧ s.ident = ⟨word, false⟩

/-- A word that does not begin as the mark does is written without it. -/
theorem Ident.isWritten_iff_eq {i : Ident} {word : String} (h : word.toList.head? ≠ some 'r') :
    i.isWritten word = true ↔ i = ⟨word, false⟩ := by
  obtain ⟨name, raw⟩ := i
  rw [isWritten_iff, Ident.text]
  cases raw with
  | false => simp
  | true =>
      refine ⟨?_, fun heq => by cases heq⟩
      rintro rfl
      exact absurd (by simp) h

end Code

/-- The attributes derive a path that ends in the word. -/
def Carries (attrs : List Attribute) (word : String) : Prop :=
  ∃ a ∈ attrs, ∃ depth p, Derives depth a p ∧ p.EndsIn word

/-- The attributes derive a path that ends in the word, under one condition at most, and the word
does not have the mark of a raw identifier. -/
def CarriesPlainly (attrs : List Attribute) (word : String) : Prop :=
  ∃ a ∈ attrs, ∃ depth ≤ 1, ∃ p, Derives depth a p ∧ p.EndsPlainlyIn word

theorem CarriesPlainly.carries {attrs : List Attribute} {word : String}
    (h : CarriesPlainly attrs word) : Carries attrs word := by
  obtain ⟨a, ha, depth, -, p, hp, s, hs, hword⟩ := h
  exact ⟨a, ha, depth, p, hp, s, hs, by rw [hword]⟩

/-! ## The highest marker -/

namespace Marker

theorem ofPath_eq_testBuilder_iff {p : Code.Path} :
    ofPath p = .testBuilder ↔ p.EndsPlainlyIn "TestBuilder" := by
  unfold ofPath Code.Path.EndsPlainlyIn
  cases p.segments.getLast? with
  | none => simp
  | some s =>
      have hword : "TestBuilder".toList.head? ≠ some 'r' := by decide
      simp only [Option.some.injEq, exists_eq_left', ← Code.Ident.isWritten_iff_eq hword]
      cases s.ident.isWritten "TestBuilder" with
      | true => simp
      | false => cases s.ident.isWritten "FieldAccess" <;> simp

theorem ofPath_eq_none_iff {p : Code.Path} : ofPath p = .none
    ↔ ¬ p.EndsPlainlyIn "TestBuilder" ∧ ¬ p.EndsPlainlyIn "FieldAccess" := by
  unfold ofPath Code.Path.EndsPlainlyIn
  cases p.segments.getLast? with
  | none => simp
  | some s =>
      have hbuilder : "TestBuilder".toList.head? ≠ some 'r' := by decide
      have haccess : "FieldAccess".toList.head? ≠ some 'r' := by decide
      simp only [Option.some.injEq, exists_eq_left', ← Code.Ident.isWritten_iff_eq hbuilder,
        ← Code.Ident.isWritten_iff_eq haccess]
      cases s.ident.isWritten "TestBuilder" with
      | true => simp
      | false => cases s.ident.isWritten "FieldAccess" <;> simp

theorem max_eq_testBuilder_iff {m n : Marker} :
    m.max n = .testBuilder ↔ m = .testBuilder ∨ n = .testBuilder := by
  cases m <;> cases n <;> decide

theorem max_eq_none_iff {m n : Marker} : m.max n = .none ↔ m = .none ∧ n = .none := by
  cases m <;> cases n <;> decide

theorem foldl_max_eq_testBuilder_iff (ps : List Code.Path) (m : Marker) :
    ps.foldl (fun m p => m.max (ofPath p)) m = .testBuilder
      ↔ m = .testBuilder ∨ ∃ p ∈ ps, ofPath p = .testBuilder := by
  induction ps generalizing m with
  | nil => simp
  | cons p ps ih => rw [List.foldl_cons, ih, max_eq_testBuilder_iff, List.exists_mem_cons_iff, or_assoc]

theorem foldl_max_eq_none_iff (ps : List Code.Path) (m : Marker) :
    ps.foldl (fun m p => m.max (ofPath p)) m = .none ↔ m = .none ∧ ∀ p ∈ ps, ofPath p = .none := by
  induction ps generalizing m with
  | nil => simp
  | cons p ps ih => rw [List.foldl_cons, ih, max_eq_none_iff, List.forall_mem_cons, and_assoc]

variable {attrs : List Attribute}

theorem mem_derivedPaths_of_attributes {word : String} :
    (∃ p ∈ attrs.flatMap derivedPaths, p.EndsPlainlyIn word) ↔ CarriesPlainly attrs word := by
  simp only [List.mem_flatMap, mem_derivedPaths_iff, CarriesPlainly]
  constructor
  · rintro ⟨p, ⟨a, ha, depth, hdepth, hp⟩, hword⟩
    exact ⟨a, ha, depth, hdepth, p, hp, hword⟩
  · rintro ⟨a, ha, depth, hdepth, p, hp, hword⟩
    exact ⟨p, ⟨a, ha, depth, hdepth, hp⟩, hword⟩

theorem ofAttributes_eq_testBuilder_iff :
    ofAttributes attrs = .testBuilder ↔ CarriesPlainly attrs "TestBuilder" := by
  rw [ofAttributes, foldl_max_eq_testBuilder_iff, ← mem_derivedPaths_of_attributes]
  simp only [reduceCtorEq, false_or, ofPath_eq_testBuilder_iff]

theorem ofAttributes_eq_none_iff : ofAttributes attrs = .none
    ↔ ¬ CarriesPlainly attrs "TestBuilder" ∧ ¬ CarriesPlainly attrs "FieldAccess" := by
  rw [ofAttributes, foldl_max_eq_none_iff, ← mem_derivedPaths_of_attributes,
    ← mem_derivedPaths_of_attributes]
  simp only [true_and, ofPath_eq_none_iff, not_exists, not_and, ← forall_and]

/-- The marker that is the highest one whose word the attributes carry. -/
def IsHighest (attrs : List Attribute) : Marker → Prop
  | .testBuilder => Carries attrs "TestBuilder"
  | .fieldAccess => ¬ Carries attrs "TestBuilder" ∧ Carries attrs "FieldAccess"
  | .none => ¬ Carries attrs "TestBuilder" ∧ ¬ Carries attrs "FieldAccess"

/-- The highest marker is carried plainly, if there is one. -/
def HighestIsPlain (attrs : List Attribute) : Prop :=
  (Carries attrs "TestBuilder" → CarriesPlainly attrs "TestBuilder")
    ∧ (¬ Carries attrs "TestBuilder" → Carries attrs "FieldAccess" →
      CarriesPlainly attrs "FieldAccess")

theorem isHighest_ofAttributes_iff :
    IsHighest attrs (ofAttributes attrs) ↔ HighestIsPlain attrs := by
  have hbuilder : ofAttributes attrs = .testBuilder ↔ CarriesPlainly attrs "TestBuilder" :=
    ofAttributes_eq_testBuilder_iff
  have hnone : ofAttributes attrs = .none
      ↔ ¬ CarriesPlainly attrs "TestBuilder" ∧ ¬ CarriesPlainly attrs "FieldAccess" :=
    ofAttributes_eq_none_iff
  unfold HighestIsPlain
  cases hm : ofAttributes attrs with
  | testBuilder =>
      have hplain := hbuilder.mp hm
      exact ⟨fun _ => ⟨fun _ => hplain, fun h => absurd hplain.carries h⟩, fun _ => hplain.carries⟩
  | fieldAccess =>
      have hno : ¬ CarriesPlainly attrs "TestBuilder" := fun h => by
        cases hm.symm.trans (hbuilder.mpr h)
      have hplain : CarriesPlainly attrs "FieldAccess" := by
        by_contra h
        cases hm.symm.trans (hnone.mpr ⟨hno, h⟩)
      exact ⟨fun h => ⟨fun hcarried => absurd hcarried h.1, fun _ _ => hplain⟩,
        fun h => ⟨fun hcarried => hno (h.1 hcarried), hplain.carries⟩⟩
  | none =>
      obtain ⟨hno, hno'⟩ := hnone.mp hm
      constructor
      · intro h
        exact ⟨fun hcarried => absurd hcarried h.1, fun _ hcarried => absurd hcarried h.2⟩
      · intro h
        have hfree : ¬ Carries attrs "TestBuilder" := fun hcarried => hno (h.1 hcarried)
        exact ⟨hfree, fun hcarried => hno' (h.2 hfree hcarried)⟩

/-! ## Attributes that derive the same -/

/-- Some attributes derive what other ones derive, under the same number of conditions. -/
def DeriveAlike (attrs attrs' : List Attribute) : Prop :=
  ∀ depth p, (∃ a ∈ attrs, Derives depth a p) ↔ ∃ a ∈ attrs', Derives depth a p

variable {attrs' : List Attribute}

theorem DeriveAlike.carriesPlainly_iff (h : DeriveAlike attrs attrs') (word : String) :
    CarriesPlainly attrs word ↔ CarriesPlainly attrs' word := by
  have hone : ∀ {as bs : List Attribute}, DeriveAlike as bs → CarriesPlainly as word →
      CarriesPlainly bs word := by
    rintro as bs h ⟨a, ha, depth, hdepth, p, hp, hword⟩
    obtain ⟨b, hb, hp⟩ := (h depth p).mp ⟨a, ha, hp⟩
    exact ⟨b, hb, depth, hdepth, p, hp, hword⟩
  exact ⟨hone h, hone fun depth p => (h depth p).symm⟩

theorem DeriveAlike.ofAttributes_eq (h : DeriveAlike attrs attrs') :
    ofAttributes attrs' = ofAttributes attrs := by
  have hbuilder : ofAttributes attrs' = .testBuilder ↔ ofAttributes attrs = .testBuilder := by
    rw [ofAttributes_eq_testBuilder_iff, ofAttributes_eq_testBuilder_iff, h.carriesPlainly_iff]
  have hnone : ofAttributes attrs' = .none ↔ ofAttributes attrs = .none := by
    rw [ofAttributes_eq_none_iff, ofAttributes_eq_none_iff, h.carriesPlainly_iff,
      h.carriesPlainly_iff]
  generalize ofAttributes attrs = m at hbuilder hnone ⊢
  generalize ofAttributes attrs' = m' at hbuilder hnone ⊢
  cases m <;> cases m' <;> simp at hbuilder hnone ⊢

theorem deriveAlike_of_perm (h : attrs.Perm attrs') : DeriveAlike attrs attrs' := fun _ _ =>
  exists_congr fun _ => and_congr_left' h.mem_iff

/-- The derive list `a` is divided into several ones. -/
def Divides (a : Attribute) (parts : List Attribute) : Prop :=
  a.isNamed "derive" = true ∧ ∃ lists : List (List Code.Path),
    attributeArgs? a derivePaths = some lists.flatten
      ∧ List.Forall₂ (fun b ps => b.isNamed "derive" = true
        ∧ attributeArgs? b derivePaths = some ps) parts lists

/-- A derive list derives its paths, and under no condition. -/
theorem derives_iff_of_list {a : Attribute} (hname : a.isNamed "derive" = true)
    {ps : List Code.Path} (hlist : attributeArgs? a derivePaths = some ps) (depth : Nat)
    (p : Code.Path) : Derives depth a p ↔ depth = 0 ∧ p ∈ ps := by
  constructor
  · rintro (⟨-, hlist', hp⟩ | ⟨hname', -, -, -⟩)
    · rw [hlist, Option.some.injEq] at hlist'
      exact ⟨rfl, hlist' ▸ hp⟩
    · exact absurd (word_eq_of_isNamed hname hname') (by decide)
  · rintro ⟨rfl, hp⟩
    exact .list hname hlist hp

theorem Divides.deriveAlike {a : Attribute} {parts : List Attribute} (h : Divides a parts) :
    DeriveAlike [a] parts := by
  obtain ⟨hname, lists, hlist, hparts⟩ := h
  intro depth p
  simp only [List.mem_singleton, exists_eq_left, derives_iff_of_list hname hlist, List.mem_flatten]
  clear hlist
  induction hparts with
  | nil => simp
  | cons hb _ ih =>
      simp only [List.exists_mem_cons_iff, derives_iff_of_list hb.1 hb.2, and_or_left, ih]

/-- Attributes can be replaced by such that derive alike. -/
theorem DeriveAlike.replace {as bs : List Attribute} (h : DeriveAlike as bs)
    (front back : List Attribute) : DeriveAlike (front ++ as ++ back) (front ++ bs ++ back) := by
  intro depth p
  simp only [List.mem_append, or_and_right, exists_or, h depth p]

/-! ## The marker of a type -/

/-- The marker of a type is the highest one that its attributes carry, exactly if that one is
carried under one condition at most and without the mark of a raw identifier. It is the same for
attributes in any other order, for those in which a derive list is divided, and for any that derive
the same under the same number of conditions. -/
theorem ofAttributes_exact (attrs : List Attribute) :
    (IsHighest attrs (ofAttributes attrs) ↔ HighestIsPlain attrs)
    ∧ (∀ attrs', attrs.Perm attrs' → ofAttributes attrs' = ofAttributes attrs)
    ∧ (∀ front a back parts, attrs = front ++ [a] ++ back → Divides a parts →
      ofAttributes (front ++ parts ++ back) = ofAttributes attrs)
    ∧ ∀ attrs', DeriveAlike attrs attrs' → ofAttributes attrs' = ofAttributes attrs := by
  refine ⟨isHighest_ofAttributes_iff, fun _ h => (deriveAlike_of_perm h).ofAttributes_eq, ?_,
    fun _ h => h.ofAttributes_eq⟩
  rintro front a back parts rfl hdivides
  exact (hdivides.deriveAlike.replace front back).ofAttributes_eq

/-- The derive list of these names. -/
def deriveList (names : List String) : Attribute :=
  let word (name : String) : Code.Tokens := [.leaf (.word ⟨name, false⟩) Code.Span.nowhere]
  ⟨false, Code.Path.ofIdent ⟨"derive", false⟩, Code.Span.nowhere,
    .list .paren ([.leaf (.punct ',' false) Code.Span.nowhere].intercalate (names.map word))
      Code.Span.nowhere⟩

/-- A derive list that is divided in two, in both orders. -/
theorem ofAttributes_dividedDerive :
    let whole := deriveList ["Clone", "TestBuilder"]
    let parts := [deriveList ["Clone"], deriveList ["TestBuilder"]]
    Divides whole parts ∧ parts.Perm parts.reverse ∧ DeriveAlike parts.reverse [whole]
      ∧ ofAttributes [whole] = .testBuilder ∧ ofAttributes parts = ofAttributes [whole]
      ∧ ofAttributes parts.reverse = ofAttributes parts
      ∧ ofAttributes [whole] = ofAttributes parts.reverse := by
  intro whole parts
  have hdivides : Divides whole parts :=
    ⟨rfl, [[Code.Path.ofIdent ⟨"Clone", false⟩], [Code.Path.ofIdent ⟨"TestBuilder", false⟩]], rfl,
      .cons ⟨rfl, rfl⟩ (.cons ⟨rfl, rfl⟩ .nil)⟩
  have hperm : parts.Perm parts.reverse := (List.reverse_perm parts).symm
  have halike : DeriveAlike parts.reverse [whole] := fun depth p =>
    (deriveAlike_of_perm hperm depth p).symm.trans (hdivides.deriveAlike depth p).symm
  exact ⟨hdivides, hperm, halike, rfl,
    (ofAttributes_exact [whole]).2.2.1 [] whole [] parts rfl hdivides,
    (ofAttributes_exact parts).2.1 parts.reverse hperm,
    (ofAttributes_exact parts.reverse).2.2.2 [whole] halike⟩

/-- The attributes of a struct that is written so. -/
def attributesOf (text : String) : List Attribute :=
  match Code.Item.parseDeclaration text with
  | .ok (.struct attrs ..) => attrs
  | _ => []

/-- A derive under two conditions. -/
def nestedText : String := "#[cfg_attr(test, cfg_attr(unix, derive(TestBuilder)))] struct A;"

/-- It is not seen, although the type carries the marker where both conditions hold. -/
theorem not_isHighest_nested : ofAttributes (attributesOf nestedText) = .none
    ∧ IsHighest (attributesOf nestedText) .testBuilder
    ∧ ¬ IsHighest (attributesOf nestedText) (ofAttributes (attributesOf nestedText)) := by
  have hmarker : ofAttributes (attributesOf nestedText) = .none := by decide +kernel
  have hcarries : Carries (attributesOf nestedText) "TestBuilder" := by
    have hfound : (attributesOf nestedText).any (fun a => (derivedUnder 2 a).any fun p =>
        p.segments.getLast?.any fun s => s.ident.name == "TestBuilder") = true := by
      decide +kernel
    obtain ⟨a, ha, hfound⟩ := List.any_eq_true.mp hfound
    obtain ⟨p, hp, hfound⟩ := List.any_eq_true.mp hfound
    obtain ⟨s, hs, hword⟩ := (Option.any_eq_true _ _).mp hfound
    exact ⟨a, ha, 2, p, mem_derivedUnder_iff.mp hp, s, hs, eq_of_beq hword⟩
  refine ⟨hmarker, hcarries, ?_⟩
  rw [hmarker]
  exact fun h => h.1 hcarries

end Marker

end BuilderForge
