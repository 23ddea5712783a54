import BuilderForge.Naming
import Mathlib.Data.List.Basic

set_option autoImplicit false

/-! # The words of a name

What a character in front of a name does to its words is told by the name alone: an underscore does
nothing, any other character either is a word of its own or joins the first word, and which of the
two it is depends on the next two characters only (`endsWord`). Everything about words follows from
this by induction on the name: they are the name without its underscores (`flatten_words`), cut
exactly at the boundaries (`wordNumber?_words_ne_iff`).
-/

namespace BuilderForge

/-- The words of a name, as characters. -/
def words (cs : List Char) : List (List Char) := (nameParts cs).flatMap partWords

theorem toList_splitWords (name : String) :
    (splitWords name).map String.toList = words name.toList := by
  simp [splitWords, words, List.map_flatMap, Function.comp_def]

/-! ## One character more -/

/-- Whether a word ends behind `c`, where `rest` follows: with the part it stands in, or at a
boundary. -/
def endsWord (c : Char) : List Char → Bool
  | [] => true
  | d :: rest => d == '_' || isWordBoundary c d rest.head?

theorem exists_partWords_cons (c : Char) (p : List Char) :
    ∃ w ws, partWords (c :: p) = (c :: w) :: ws := by
  cases p with
  | nil => exact ⟨[], [], rfl⟩
  | cons d p =>
      rw [partWords]
      split
      · exact ⟨[], [], rfl⟩
      · split
        · exact ⟨[], _, rfl⟩
        · exact ⟨_, _, rfl⟩

theorem nameParts_cons {c : Char} (hc : c ≠ '_') (rest : List Char) :
    nameParts (c :: rest) = match rest, nameParts rest with
      | d :: _, p :: ps => if d = '_' then [c] :: p :: ps else (c :: p) :: ps
      | _, ps => [c] :: ps := by
  rw [nameParts.eq_def]
  split
  · contradiction
  · next h => exact absurd (List.cons.inj h).1 hc
  · next h =>
      obtain ⟨rfl, rfl⟩ := List.cons.inj h
      rfl

/-- The first part begins with the first character that is no underscore, and goes on with the next
one. -/
theorem exists_nameParts_cons {c : Char} (hc : c ≠ '_') (rest : List Char) :
    ∃ p ps, nameParts (c :: rest) = (c :: p) :: ps
      ∧ p.head? = rest.head?.filter (fun d => d != '_') := by
  cases rest with
  | nil => exact ⟨[], [], nameParts_cons hc [], rfl⟩
  | cons d rest =>
      rw [nameParts_cons hc]
      by_cases hd : d = '_'
      · subst hd
        cases nameParts ('_' :: rest) with
        | nil => exact ⟨[], [], rfl, rfl⟩
        | cons p ps => exact ⟨[], p :: ps, rfl, rfl⟩
      · obtain ⟨p, ps, hparts, -⟩ := exists_nameParts_cons hd rest
        refine ⟨d :: p, ps, ?_, by simp [Option.filter, hd]⟩
        rw [hparts]
        exact if_neg hd

/-- That a part ends is no small letter. -/
theorem any_isLower_filter (next : Option Char) :
    (next.filter fun d => d != '_').any Text.isLower = next.any Text.isLower := by
  cases next with
  | none => rfl
  | some d =>
      by_cases hd : d = '_'
      · subst hd
        decide
      · simp [Option.filter, hd]

theorem isWordBoundary_filter (c d : Char) (next : Option Char) :
    isWordBoundary c d (next.filter fun d => d != '_') = isWordBoundary c d next := by
  rw [isWordBoundary, isWordBoundary, any_isLower_filter]

theorem words_cons_of_endsWord {c : Char} (hc : c ≠ '_') {rest : List Char}
    (h : endsWord c rest = true) : words (c :: rest) = [c] :: words rest := by
  rw [words, words, nameParts_cons hc]
  cases rest with
  | nil => rfl
  | cons d rest =>
      by_cases hd : d = '_'
      · subst hd
        cases nameParts ('_' :: rest) <;> rfl
      · obtain ⟨p, ps, hparts, hnext⟩ := exists_nameParts_cons hd rest
        obtain ⟨w, ws, hwords⟩ := exists_partWords_cons d p
        have hboundary : isWordBoundary c d p.head? = true := by
          rw [hnext, isWordBoundary_filter]
          simpa [endsWord, hd] using h
        simp [hparts, hd, partWords, hwords, hboundary]

theorem words_cons_of_not_endsWord {c : Char} (hc : c ≠ '_') {rest : List Char}
    (h : endsWord c rest = false) :
    ∃ w ws, words rest = w :: ws ∧ words (c :: rest) = (c :: w) :: ws := by
  rw [words, words, nameParts_cons hc]
  cases rest with
  | nil => cases h
  | cons d rest =>
      simp only [endsWord, Bool.or_eq_false_iff, beq_eq_false_iff_ne] at h
      obtain ⟨hd, hboundary⟩ := h
      obtain ⟨p, ps, hparts, hnext⟩ := exists_nameParts_cons hd rest
      obtain ⟨w, ws, hwords⟩ := exists_partWords_cons d p
      have hboundary : isWordBoundary c d p.head? = false := by
        rw [hnext, isWordBoundary_filter, hboundary]
      exact ⟨d :: w, ws ++ ps.flatMap partWords, by simp [hparts, hwords],
        by simp [hparts, hd, partWords, hwords, hboundary]⟩

/-- A property of names with their words holds if one character more in front keeps it. -/
theorem words_induction {P : List Char → List (List Char) → Prop} (nil : P [] [])
    (underscore : ∀ rest ws, P rest ws → P ('_' :: rest) ws)
    (ends : ∀ c rest ws, c ≠ '_' → P rest ws → P (c :: rest) ([c] :: ws))
    (joins : ∀ c rest w ws, c ≠ '_' → P rest (w :: ws) → P (c :: rest) ((c :: w) :: ws))
    (cs : List Char) : P cs (words cs) := by
  induction cs with
  | nil => exact nil
  | cons c rest ih =>
      by_cases hc : c = '_'
      · subst hc
        exact underscore rest _ ih
      · cases hends : endsWord c rest with
        | true =>
            rw [words_cons_of_endsWord hc hends]
            exact ends c rest _ hc ih
        | false =>
            obtain ⟨w, ws, hrest, hwords⟩ := words_cons_of_not_endsWord hc hends
            rw [hwords]
            rw [hrest] at ih
            exact joins c rest w ws hc ih

/-! ## Nothing is lost -/

/-- The words are the name without its underscores. -/
theorem flatten_words : ∀ cs : List Char, (words cs).flatten = cs.filter fun c => c != '_' := by
  refine words_induction (P := fun cs ws => ws.flatten = cs.filter fun c => c != '_')
    rfl ?_ ?_ ?_
  · intro rest ws h
    simp [h]
  · intro c rest ws hc h
    simp [h, hc]
  · intro c rest w ws hc h
    rw [List.flatten_cons] at h
    simp [← h, hc]

theorem forall_mem_words : ∀ cs : List Char, ∀ w ∈ words cs, w ≠ [] ∧ '_' ∉ w := by
  refine words_induction (P := fun _ ws => ∀ w ∈ ws, w ≠ [] ∧ '_' ∉ w) (by simp) ?_ ?_ ?_
  · intro rest ws h
    exact h
  · intro c rest ws hc h
    rw [List.forall_mem_cons]
    exact ⟨⟨by simp, by simp [hc.symm]⟩, h⟩
  · intro c rest w ws hc h
    rw [List.forall_mem_cons] at h ⊢
    exact ⟨⟨by simp, by simp [hc.symm, h.1.2]⟩, h.2⟩

/-! ## Where words end -/

/-- The number of the word that holds the character at position `k` of all words together. -/
def wordNumber? : List (List Char) → Nat → Option Nat
  | [], _ => none
  | w :: ws, k => if k < w.length then some 0 else (wordNumber? ws (k - w.length)).map (· + 1)

theorem wordNumber?_zero {w : List Char} (hw : w ≠ []) (ws : List (List Char)) :
    wordNumber? (w :: ws) 0 = some 0 := if_pos (List.length_pos_iff.mpr hw)

theorem wordNumber?_singleton (c : Char) (ws : List (List Char)) (k : Nat) :
    wordNumber? ([c] :: ws) (k + 1) = (wordNumber? ws k).map (· + 1) := by
  simp [wordNumber?]

theorem wordNumber?_cons (c : Char) (w : List Char) (ws : List (List Char)) (k : Nat) :
    wordNumber? ((c :: w) :: ws) (k + 1) = wordNumber? (w :: ws) k := by
  simp [wordNumber?]

/-- The position behind the characters of `before`, underscores left out. -/
def positionBehind (before : List Char) : Nat := (before.filter fun c => c != '_').length

/-- One character more in front moves all others on by one, and keeps them together or apart. -/
theorem wordNumber?_words_cons {c : Char} (hc : c ≠ '_') (rest : List Char) (k l : Nat) :
    wordNumber? (words (c :: rest)) (k + 1) = wordNumber? (words (c :: rest)) (l + 1)
      ↔ wordNumber? (words rest) k = wordNumber? (words rest) l := by
  cases hends : endsWord c rest with
  | true =>
      rw [words_cons_of_endsWord hc hends, wordNumber?_singleton, wordNumber?_singleton]
      exact (Option.map_injective fun _ _ => Nat.succ.inj).eq_iff
  | false =>
      obtain ⟨w, ws, hrest, hwords⟩ := words_cons_of_not_endsWord hc hends
      rw [hwords, hrest, wordNumber?_cons, wordNumber?_cons]

/-- Two characters next to each other stand in different words exactly at a boundary. -/
theorem wordNumber?_words_ne_iff {c d : Char} (hc : c ≠ '_') (hd : d ≠ '_') (after : List Char) :
    ∀ before : List Char,
      wordNumber? (words (before ++ c :: d :: after)) (positionBehind before)
          ≠ wordNumber? (words (before ++ c :: d :: after)) (positionBehind before + 1)
        ↔ isWordBoundary c d after.head? = true
  | [] => by
      have hends : endsWord c (d :: after) = isWordBoundary c d after.head? := by
        simp [endsWord, hd]
      rw [← hends]
      cases h : endsWord c (d :: after) with
      | true =>
          obtain ⟨p, ps, hparts, -⟩ := exists_nameParts_cons hd after
          obtain ⟨w, ws, hwords⟩ := exists_partWords_cons d p
          have hrest : words (d :: after) = (d :: w) :: (ws ++ ps.flatMap partWords) := by
            simp [words, hparts, hwords]
          simp [words_cons_of_endsWord hc h, hrest, wordNumber?, positionBehind]
      | false =>
          obtain ⟨w, ws, hrest, hwords⟩ := words_cons_of_not_endsWord hc h
          have hw : w ≠ [] := (forall_mem_words (d :: after) w (by simp [hrest])).1
          simp [hwords, positionBehind, wordNumber?_cons, wordNumber?_zero hw, wordNumber?_zero]
  | x :: before => by
      by_cases hx : x = '_'
      · subst hx
        exact wordNumber?_words_ne_iff hc hd after before
      · have hposition : positionBehind (x :: before) = positionBehind before + 1 := by
          simp [positionBehind, hx]
        rw [hposition, List.cons_append, ne_eq, wordNumber?_words_cons hx]
        exact wordNumber?_words_ne_iff hc hd after before

/-! ## The words of a name -/

/-- Words are not empty and hold no underscore, together they are the name without its underscores,
and two characters next to each other, none of which is an underscore, stand in different words
exactly if the second is a capital behind a small letter or in front of one. -/
theorem splitWords_exact (name : String) :
    (∀ w ∈ splitWords name, w ≠ "" ∧ '_' ∉ w.toList)
    ∧ (splitWords name).flatMap String.toList = name.toList.filter (fun c => c != '_')
    ∧ ∀ (before after : List Char) (c d : Char), name.toList = before ++ c :: d :: after →
      c ≠ '_' → d ≠ '_' →
      (wordNumber? ((splitWords name).map String.toList) (positionBehind before)
          ≠ wordNumber? ((splitWords name).map String.toList) (positionBehind before + 1)
        ↔ Text.isUpper d = true ∧ (Text.isLower c = true
          ∨ ∃ e rest, after = e :: rest ∧ e ≠ '_' ∧ Text.isLower e = true)) := by
  have hwords := toList_splitWords name
  refine ⟨fun w hw => ?_, ?_, fun before after c d hname hc hd => ?_⟩
  · have hmem := hwords ▸ List.mem_map_of_mem hw
    obtain ⟨hne, hfree⟩ := forall_mem_words name.toList w.toList hmem
    exact ⟨fun h => hne (h ▸ rfl), hfree⟩
  · rw [List.flatMap_def, hwords, flatten_words]
  · have hiff := wordNumber?_words_ne_iff hc hd after before
    rw [hwords, hname]
    refine hiff.trans ?_
    rw [isWordBoundary, Bool.and_eq_true, Bool.or_eq_true, ← any_isLower_filter]
    refine and_congr_right fun _ => or_congr_right ?_
    cases after with
    | nil => simp
    | cons e rest => by_cases he : e = '_' <;> simp [Option.filter, he]

/-- In `HTTPServer_v2` a word ends in front of the capital that a small letter follows, and none
between capitals or in front of a digit. -/
theorem splitWords_httpServer : splitWords "HTTPServer_v2" = ["HTTP", "Server", "v2"]
    ∧ "HTTPServer_v2".toList = "HTT".toList ++ 'P' :: 'S' :: "erver_v2".toList
    ∧ wordNumber? ((splitWords "HTTPServer_v2").map String.toList) (positionBehind "HTT".toList)
      ≠ wordNumber? ((splitWords "HTTPServer_v2").map String.toList)
        (positionBehind "HTT".toList + 1) :=
  ⟨by decide, by decide, ((splitWords_exact "HTTPServer_v2").2.2 "HTT".toList "erver_v2".toList
    'P' 'S' (by decide) (by decide) (by decide)).mpr
    ⟨by decide, Or.inr ⟨'e', "rver_v2".toList, by decide, by decide, by decide⟩⟩⟩

end BuilderForge
