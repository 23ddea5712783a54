import BuilderForge.Proofs.Parsing.Advancing
import BuilderForge.Proofs.Parsing.Modules

set_option autoImplicit false

/-! # Lists of keyed entries

The arguments of an attribute are a list of entries with commas between them, each of which begins
with a name. Where there is one name only that an entry can begin with, and what stands behind it is
read by a parser that goes forward, such tokens are told without a parser (`IsListing`).
`Parser.runAll_nestedEntries` says that they are what is read.
-/

namespace BuilderForge.Code

/-- Tokens that are a list of entries with commas between them; one can stand at the end. An entry
is the word `key` with the tokens of a value behind it: `value a ts rest` says that `ts` is the
value `a` in front of `rest`. -/
inductive IsListing {α : Type} (key : String) (value : α → Tokens → Tokens → Prop) :
    Tokens → List α → Prop
  | nil : IsListing key value [] []
  | last {i : Ident} {span : Span} {ts : Tokens} {a : α} (hkey : i.isWritten key = true)
      (hvalue : value a ts []) : IsListing key value (.leaf (.word i) span :: ts) [a]
  | cons {i : Ident} {span comma : Span} {joint : Bool} {ts rest : Tokens} {a : α} {as : List α}
      (hkey : i.isWritten key = true) (hvalue : value a ts (.leaf (.punct ',' joint) comma :: rest))
      (hrest : IsListing key value rest as) :
      IsListing key value
        (.leaf (.word i) span :: (ts ++ .leaf (.punct ',' joint) comma :: rest)) (a :: as)

namespace Parser

variable {α β σ : Type}

/-- What `p` and then `f` read is read by `p` first. -/
theorem of_bind_eq_ok {p : Parser α} {f : α → Parser β} {c c' : Cursor} {b : β}
    (h : (p >>= f) c = .ok (b, c')) : ∃ a c₁, p c = .ok (a, c₁) ∧ f a c₁ = .ok (b, c') := by
  cases hp : p c with
  | error e =>
      rw [bind_of_error hp] at h
      cases h
  | ok x =>
      rw [bind_of_ok hp] at h
      exact ⟨x.1, x.2, rfl, h⟩

/-! ## The name of an entry -/

/-- Goes on with the next name of a path, if there is one. -/
def nestedPathRound (found : List Ident × Span) :
    Parser ((List Ident × Span) ⊕ (List Ident × Span)) := do
  if ← shows (.op "::") then
    let _ ← op "::"
    let (i, s) ← anyWord
    return .inl (i :: found.1, s)
  else return .inr found

/-- Whether two colons stand at the beginning. -/
def beginsWithColons (ts : Tokens) : Bool := startsWithOp [':', ':'] ts

instance : nestedPath.Advances := by
  unfold nestedPath
  refine .bind fun leading => .bind fun _ => .ite inferInstance (.bind fun (first, span) => ?_)
  have hround (found : List Ident × Span) : (nestedPathRound found).Advances := by
    unfold nestedPathRound
    exact .bind fun _ => .ite (.bind fun _ => .bind fun (_, _) => inferInstance) inferInstance
  have hloop : (loop nestedPathRound ([first], span)).Advances := inferInstance
  exact @Advances.bind _ _ _ _ hloop fun (_, _) => inferInstance

/-- Names are only added. -/
theorem length_le_of_iterate (fuel : Nat) {found found' : List Ident × Span} {c c' : Cursor}
    (h : iterate fuel nestedPathRound found c = .ok (found', c')) :
    found.1.length ≤ found'.1.length := by
  induction fuel generalizing found c with
  | zero => cases h
  | succ fuel ih =>
      obtain ⟨x, c₁, hround, h⟩ := of_bind_eq_ok h
      obtain ⟨colons, c₂, hshows, hround⟩ := of_bind_eq_ok hround
      cases colons with
      | false =>
          obtain ⟨rfl, rfl⟩ := Prod.mk.inj (Except.ok.inj hround)
          obtain ⟨rfl, rfl⟩ := Prod.mk.inj (Except.ok.inj h)
          exact Nat.le_refl _
      | true =>
          obtain ⟨_, c₃, _, hround⟩ := of_bind_eq_ok hround
          obtain ⟨⟨i, s⟩, c₄, _, hround⟩ := of_bind_eq_ok hround
          obtain ⟨rfl, rfl⟩ := Prod.mk.inj (Except.ok.inj hround)
          exact Nat.le_trans (Nat.le_succ _) (ih h)

theorem shows_colons (c : Cursor) :
    shows (.op "::") 0 c = .ok (beginsWithColons c.rest, c) := rfl

/-- Without colons no name is added, and behind colons there is one. -/
theorem loop_nestedPathRound {found : List Ident × Span} {c : Cursor}
    (h : beginsWithColons c.rest = false) :
    loop nestedPathRound found c = .ok (found, c) := by
  have hshows : shows (.op "::") 0 c = .ok (false, c) := by rw [shows_colons, h]
  have hround : nestedPathRound found c = .ok (.inr found, c) := bind_of_ok hshows
  exact bind_of_ok hround

theorem length_lt_of_loop {found found' : List Ident × Span} {c c' : Cursor}
    (hcolons : beginsWithColons c.rest = true)
    (h : loop nestedPathRound found c = .ok (found', c')) : found.1.length < found'.1.length := by
  have hshows : shows (.op "::") 0 c = .ok (true, c) := by rw [shows_colons, hcolons]
  obtain ⟨x, c₁, hround, h⟩ := of_bind_eq_ok h
  rw [nestedPathRound, bind_of_ok hshows, if_pos rfl] at hround
  obtain ⟨_, c₂, _, hround⟩ := of_bind_eq_ok hround
  obtain ⟨⟨i, s⟩, c₃, _, hround⟩ := of_bind_eq_ok hround
  obtain ⟨rfl, rfl⟩ := Prod.mk.inj (Except.ok.inj hround)
  exact Nat.lt_of_succ_le (length_le_of_iterate _ h)

/-- A path from its first name on. -/
def nestedNames (leading : Bool) : Parser (Path × Span) := do
  let (first, span) ← anyWord
  let (names, last) ← loop nestedPathRound ([first], span)
  return (⟨leading, names.reverse.map Segment.ofIdent⟩, span.join last)

/-- A word with no colons behind it is read as a path of one name. -/
theorem nestedNames_word {i : Ident} {span : Span} {ts : Tokens} (hts : beginsWithColons ts = false)
    (leading : Bool) (scope : Span) (d : Option Delimiter)
    (stray : Option (Span × Option Delimiter)) :
    nestedNames leading ⟨.leaf (.word i) span :: ts, scope, d, stray⟩
      = .ok ((⟨leading, [Segment.ofIdent i]⟩, span.join span), ⟨ts, scope, d, stray⟩) := by
  have hword : anyWord ⟨.leaf (.word i) span :: ts, scope, d, stray⟩
      = .ok ((i, span), ⟨ts, scope, d, stray⟩) := rfl
  have hloop : loop nestedPathRound ([i], span) ⟨ts, scope, d, stray⟩ = .ok _ :=
    loop_nestedPathRound hts
  rw [nestedNames, bind_of_ok hword]
  exact bind_of_ok hloop

/-- A path of one name is a word with no colons behind it. -/
theorem word_of_nestedNames {leading : Bool} {path : Path} {s : Segment} {span : Span}
    {c c' : Cursor} (h : nestedNames leading c = .ok ((path, span), c'))
    (hname : path.segments = [s]) :
    ∃ i at' ts, c.rest = .leaf (.word i) at' :: ts ∧ s = Segment.ofIdent i
      ∧ path.leadingColon = leading ∧ beginsWithColons ts = false
      ∧ c' = { c with rest := ts } := by
  obtain ⟨⟨i, at'⟩, c₁, hword, h⟩ := of_bind_eq_ok h
  obtain ⟨⟨names, last⟩, c₂, hloop, h⟩ := of_bind_eq_ok h
  obtain ⟨hpath, rfl⟩ := Prod.mk.inj (Except.ok.inj h)
  obtain rfl := (Prod.mk.inj hpath).1
  unfold anyWord at hword
  split at hword
  · next i' at'' ts hrest =>
      obtain ⟨hfirst, rfl⟩ := Prod.mk.inj (Except.ok.inj hword)
      obtain ⟨rfl, rfl⟩ := Prod.mk.inj hfirst
      -- with colons there would be two names
      have hlength : names.length = 1 := by
        have hmap := congrArg List.length hname
        rwa [List.length_map, List.length_reverse] at hmap
      have hcolons : beginsWithColons ts = false := by
        rw [← Bool.not_eq_true]
        intro hcolons
        have hlt := length_lt_of_loop (c := { c with rest := ts }) hcolons hloop
        rw [hlength] at hlt
        exact Nat.lt_irrefl _ hlt
      rw [loop_nestedPathRound (c := { c with rest := ts }) hcolons] at hloop
      obtain ⟨hfound, rfl⟩ := Prod.mk.inj (Except.ok.inj hloop)
      obtain ⟨rfl, rfl⟩ := Prod.mk.inj hfound
      exact ⟨i', at'', ts, hrest, (List.cons.inj hname).1.symm, rfl, hcolons, rfl⟩
  · cases hword

section Name

variable {key : String} {i : Ident} {span : Span} {ts : Tokens}

theorem isName_ofIdent : (Path.ofIdent i).isName key = i.isWritten key := rfl

theorem nestedPath_word (hts : beginsWithColons ts = false) (scope : Span) (d : Option Delimiter)
    (stray : Option (Span × Option Delimiter)) :
    nestedPath ⟨.leaf (.word i) span :: ts, scope, d, stray⟩
      = .ok ((Path.ofIdent i, span.join span), ⟨ts, scope, d, stray⟩) :=
  nestedNames_word hts false scope d stray

/-- The name of an entry is a word with no colons behind it. -/
theorem word_of_nestedPath {path : Path} {c c' : Cursor}
    (h : nestedPath c = .ok ((path, span), c')) (hkey : path.isName key = true) :
    ∃ i at' ts, c.rest = .leaf (.word i) at' :: ts ∧ i.isWritten key = true
      ∧ beginsWithColons ts = false ∧ c' = { c with rest := ts } := by
  obtain ⟨leading, segments⟩ := path
  unfold Path.isName at hkey
  split at hkey
  · next i hleading hsegments =>
      dsimp only at hleading hsegments
      subst hleading hsegments
      obtain ⟨colons, c₁, hcolons, h⟩ := of_bind_eq_ok h
      have hnames : nestedNames (!colons.isAbsent) c₁
          = .ok ((⟨false, [.mk i none]⟩, span), c') := by
        obtain ⟨_, _, hget, h⟩ := of_bind_eq_ok h
        obtain ⟨rfl, rfl⟩ := Prod.mk.inj (Except.ok.inj hget)
        split at h
        · obtain ⟨_, _, _, h⟩ := of_bind_eq_ok h
          split at h
          · cases h
          · obtain ⟨_, _, _, h⟩ := of_bind_eq_ok h
            split at h <;> cases h
        · exact h
      obtain ⟨i', at', ts, hrest, hi, hleading, hts, rfl⟩ := word_of_nestedNames hnames rfl
      obtain rfl : i = i' := (Segment.mk.inj hi).1
      -- nothing has been read in front of it
      obtain ⟨shown, c₂, hshows, hcolons⟩ := of_bind_eq_ok hcolons
      obtain ⟨rfl, rfl⟩ := Prod.mk.inj (Except.ok.inj hshows)
      split at hcolons
      · unfold op at hcolons
        split at hcolons
        · obtain ⟨rfl, rfl⟩ := Prod.mk.inj (Except.ok.inj hcolons)
          cases hleading
        · cases hcolons
      · obtain ⟨rfl, rfl⟩ := Prod.mk.inj (Except.ok.inj hcolons)
        exact ⟨i, at', ts, hrest, hkey, hts, rfl⟩
  · cases hkey

end Name

/-! ## Entries -/

/-- Reads the value of an entry, which has to begin with `key`, and makes it part of what was read
before. -/
def keyed (key : String) (p : Parser α) (add : σ → α → σ) (refusal : Complaint) (s : σ)
    (path : Path) (span : Span) : Parser σ :=
  if path.isName key then do return add s (← p) else complainAt span refusal

/-- Reads the comma behind an entry. The list ends without one, and it can end behind one. -/
def entryEnd (s : σ) : Parser (σ ⊕ σ) := do
  if ← atEnd then return .inr s
  let _ ← op ","
  if ← atEnd then return .inr s
  return .inl s

/-- Reads an entry and the comma behind it. -/
def nestedRound (entry : σ → Path → Span → Parser σ) (s : σ) : Parser (σ ⊕ σ) := do
  let (path, span) ← nestedPath
  let s ← entry s path span
  entryEnd s

/-- A parser of values that goes forward, and which tokens it reads as which value. Colons in front
of them would belong to the name. -/
structure ReadsValue (p : Parser α) (scope : Span) (value : α → Tokens → Tokens → Prop) : Prop where
  advances : p.Advances
  reads : ∀ {ts rest a}, p ⟨ts, scope, none, none⟩ = .ok (a, ⟨rest, scope, none, none⟩)
    ↔ ∃ front, ts = front ++ rest ∧ value a front rest
  colons : ∀ {front rest a}, value a front rest → beginsWithColons rest = false →
    beginsWithColons (front ++ rest) = false

section Entries

variable {key : String} {p : Parser α} {add : σ → α → σ} {refusal : Complaint} {scope : Span}
  {value : α → Tokens → Tokens → Prop}

instance keyed_advances [p.Advances] (s : σ) (path : Path) (span : Span) :
    (keyed key p add refusal s path span).Advances := by
  unfold keyed
  infer_instance

instance (s : σ) : (entryEnd s).Advances := by
  unfold entryEnd
  infer_instance

instance nestedRound_advances {entry : σ → Path → Span → Parser σ}
    [hentry : ∀ s path span, (entry s path span).Advances] (s : σ) :
    (nestedRound entry s).Advances := by
  unfold nestedRound
  exact .bind fun (path, span) => inferInstance

/-- An operator of one character is read from it, also where a longer one goes on. -/
theorem punct_of_op {s : String} {char : Char} (hs : s.toList = [char]) {c c' : Cursor} {t : Tree}
    (h : op s c = .ok (t, c')) :
    ∃ joint at' rest, c.rest = .leaf (.punct char joint) at' :: rest
      ∧ c' = { c with rest := rest } := by
  have hlength : s.length = 1 := by rw [← String.length_toList, hs]; rfl
  unfold op at h
  split at h
  · next hchar =>
      obtain ⟨-, rfl⟩ := Prod.mk.inj (Except.ok.inj h)
      rw [hs] at hchar
      unfold startsWithOp at hchar
      split at hchar
      · cases hchar
      · next hc hrest =>
          obtain ⟨rfl, -⟩ := List.cons.inj hc
          obtain rfl := eq_of_beq hchar
          exact ⟨_, _, _, hrest, by rw [hrest, hlength]; rfl⟩
      · next hc _ =>
          cases (List.cons.inj hc).2
      · cases hchar
  · cases h

/-- What stands behind an entry: nothing, or a comma. -/
theorem of_entryEnd {s : σ} {c c' : Cursor} {x : σ ⊕ σ} (h : entryEnd s c = .ok (x, c')) :
    (c.rest = [] ∧ x = .inr s ∧ c' = c)
      ∨ ∃ joint comma rest, c.rest = .leaf (.punct ',' joint) comma :: rest
        ∧ x = (if rest.isEmpty then .inr s else .inl s) ∧ c' = { c with rest := rest } := by
  have hend (c : Cursor) : atEnd c = .ok (c.rest.isEmpty, c) := rfl
  rw [entryEnd, bind_of_ok (hend c)] at h
  cases hrest : c.rest with
  | nil =>
      rw [hrest, List.isEmpty_nil, if_pos rfl] at h
      obtain ⟨rfl, rfl⟩ := Prod.mk.inj (Except.ok.inj h)
      exact .inl ⟨rfl, rfl, rfl⟩
  | cons t rest =>
      rw [hrest, List.isEmpty_cons, if_neg Bool.false_ne_true] at h
      obtain ⟨_, c₁, hop, h⟩ := of_bind_eq_ok h
      obtain ⟨joint, comma, rest', hcomma, rfl⟩ := punct_of_op rfl hop
      rw [bind_of_ok (hend _)] at h
      refine .inr ⟨joint, comma, rest', hrest ▸ hcomma, ?_⟩
      split at h
      · next hempty =>
          obtain ⟨rfl, rfl⟩ := Prod.mk.inj (Except.ok.inj h)
          exact ⟨(if_pos hempty).symm, rfl⟩
      · next hmore =>
          obtain ⟨rfl, rfl⟩ := Prod.mk.inj (Except.ok.inj h)
          exact ⟨(if_neg hmore).symm, rfl⟩

/-- An entry is the word with its value behind it. -/
theorem entry_of_read {s s' : σ} {c c' : Cursor} {path : Path} {span : Span} {c₁ : Cursor}
    (hpath : nestedPath c = .ok ((path, span), c₁))
    (hentry : keyed key p add refusal s path span c₁ = .ok (s', c')) :
    ∃ i at' ts a, c.rest = .leaf (.word i) at' :: ts ∧ i.isWritten key = true
      ∧ p { c with rest := ts } = .ok (a, c') ∧ s' = add s a := by
  unfold keyed at hentry
  split at hentry
  · next hkey =>
      obtain ⟨i, at', ts, hrest, hi, -, rfl⟩ := word_of_nestedPath hpath hkey
      obtain ⟨a, c₂, hvalue, hentry⟩ := of_bind_eq_ok hentry
      obtain ⟨rfl, rfl⟩ := Prod.mk.inj (Except.ok.inj hentry)
      exact ⟨i, at', ts, a, hrest, hi, hvalue, rfl⟩
  · cases hentry

/-- What is read up to the end is a list of entries. -/
theorem isListing_of_iterate (hp : ReadsValue p scope value) (fuel : Nat) {s s' : σ} {ts : Tokens}
    {c' : Cursor} (h : iterate fuel (nestedRound (keyed key p add refusal)) s
      ⟨ts, scope, none, none⟩ = .ok (s', c')) (hdone : c'.IsDone) :
    ∃ as, IsListing key value ts as ∧ s' = as.foldl add s := by
  have := hp.advances
  induction fuel generalizing s ts with
  | zero => cases h
  | succ fuel ih =>
      obtain ⟨x, c₁, hround, hmore⟩ := of_bind_eq_ok h
      obtain ⟨⟨path, span⟩, c₂, hpath, hround⟩ := of_bind_eq_ok hround
      obtain ⟨s₁, ⟨rest, scope', d, stray⟩, hentry, hend⟩ := of_bind_eq_ok hround
      obtain ⟨i, at', ts', a, hts, hi, hvalue, rfl⟩ := entry_of_read hpath hentry
      dsimp only at hts
      subst hts
      have hleads := this.leadsTo hvalue
      obtain rfl : scope' = scope := hleads.scope
      obtain rfl : d = none := hleads.delimiter
      have hread (hstray : stray = none) : ∃ front, ts' = front ++ rest ∧ value a front rest :=
        hp.reads.mp (hstray ▸ hvalue)
      obtain ⟨rfl, rfl, rfl⟩ | ⟨joint, comma, rest', rfl, rfl, rfl⟩ := of_entryEnd hend
      · obtain ⟨rfl, rfl⟩ := Prod.mk.inj (Except.ok.inj hmore)
        obtain ⟨front, rfl, hfront⟩ := hread hdone.stray
        rw [List.append_nil]
        exact ⟨[a], .last hi hfront, rfl⟩
      · cases rest' with
        | nil =>
            obtain ⟨rfl, rfl⟩ := Prod.mk.inj (Except.ok.inj hmore)
            obtain ⟨front, rfl, hfront⟩ := hread hdone.stray
            exact ⟨[a], .cons hi hfront .nil, rfl⟩
        | cons t rest' =>
            -- what was left over in a group would still be remembered
            have hrest := (iterate_advances fuel (add s a)).leadsTo hmore
            obtain rfl : stray = none := hrest.stray hdone.stray
            obtain ⟨front, rfl, hfront⟩ := hread rfl
            obtain ⟨as, has, rfl⟩ := ih hmore
            exact ⟨a :: as, .cons hi hfront has, rfl⟩

/-- An entry is read from the word with its value behind it. -/
theorem nestedRound_word (hp : ReadsValue p scope value) {i : Ident} {at' : Span}
    {front rest : Tokens} {a : α} (hi : i.isWritten key = true) (hvalue : value a front rest)
    (hrest : beginsWithColons rest = false) (s : σ) :
    nestedRound (keyed key p add refusal) s
        ⟨.leaf (.word i) at' :: (front ++ rest), scope, none, none⟩
      = entryEnd (add s a) ⟨rest, scope, none, none⟩ := by
  have hpath : nestedPath ⟨.leaf (.word i) at' :: (front ++ rest), scope, none, none⟩ = .ok _ :=
    nestedPath_word (hp.colons hvalue hrest) scope none none
  have hread : p ⟨front ++ rest, scope, none, none⟩ = .ok (a, ⟨rest, scope, none, none⟩) :=
    hp.reads.mpr ⟨front, rfl, hvalue⟩
  have hentry : keyed key p add refusal s (Path.ofIdent i) (at'.join at')
      ⟨front ++ rest, scope, none, none⟩ = .ok (add s a, ⟨rest, scope, none, none⟩) := by
    rw [keyed, isName_ofIdent, if_pos hi, bind_of_ok hread]
    rfl
  rw [nestedRound, bind_of_ok hpath]
  exact bind_of_ok hentry

/-- A list of entries is read up to the end. -/
theorem iterate_of_isListing (hp : ReadsValue p scope value) {ts : Tokens} {as : List α}
    (has : IsListing key value ts as) (hne : ts ≠ []) {fuel : Nat} (hfuel : ts.length ≤ fuel)
    (s : σ) :
    iterate fuel (nestedRound (keyed key p add refusal)) s ⟨ts, scope, none, none⟩
      = .ok (as.foldl add s, ⟨[], scope, none, none⟩) := by
  induction has generalizing fuel s with
  | nil => exact absurd rfl hne
  | @last i at' front a hkey hvalue =>
      obtain ⟨fuel, rfl⟩ := Nat.exists_eq_succ_of_ne_zero (Nat.ne_zero_of_lt hfuel)
      have hround : nestedRound (keyed key p add refusal) s
          ⟨.leaf (.word i) at' :: (front ++ []), scope, none, none⟩ = _ :=
        nestedRound_word hp hkey hvalue rfl s
      rw [List.append_nil] at hround
      exact bind_of_ok hround
  | @cons i at' comma joint front rest a as hkey hvalue hrest ih =>
      obtain ⟨fuel, rfl⟩ := Nat.exists_eq_succ_of_ne_zero (Nat.ne_zero_of_lt hfuel)
      have hround : nestedRound (keyed key p add refusal) s ⟨.leaf (.word i) at' ::
          (front ++ .leaf (.punct ',' joint) comma :: rest), scope, none, none⟩ = _ :=
        nestedRound_word hp hkey hvalue rfl s
      cases rest with
      | nil =>
          -- the comma was the last token
          cases hrest
          exact bind_of_ok hround
      | cons t rest =>
          have hlength : (t :: rest).length ≤ fuel := by
            simp at hfuel ⊢
            omega
          exact (bind_of_ok hround).trans (ih (List.cons_ne_nil t rest) hlength (add s a))

/-- **What is read as a list of entries is a list of entries.** The result is made of their values
in order. -/
theorem runAll_nestedEntries (hp : ReadsValue p scope value) {ts : Tokens} {s s' : σ} :
    (nestedEntries (keyed key p add refusal) s).runAll ts scope = .ok s'
      ↔ ∃ as, IsListing key value ts as ∧ s' = as.foldl add s := by
  have hend : atEnd ⟨ts, scope, none, none⟩ = .ok (ts.isEmpty, ⟨ts, scope, none, none⟩) := rfl
  rw [runAll_eq_ok, nestedEntries, bind_of_ok hend]
  cases ts with
  | nil =>
      rw [List.isEmpty_nil, if_pos rfl]
      constructor
      · rintro ⟨c', h, -⟩
        obtain ⟨rfl, -⟩ := Prod.mk.inj (Except.ok.inj h)
        exact ⟨[], .nil, rfl⟩
      · rintro ⟨as, has, rfl⟩
        cases has
        exact ⟨_, rfl, rfl, rfl⟩
  | cons t ts =>
      rw [List.isEmpty_cons, if_neg Bool.false_ne_true]
      constructor
      · rintro ⟨c', h, hdone⟩
        exact isListing_of_iterate hp _ h hdone
      · rintro ⟨as, has, rfl⟩
        exact ⟨_, iterate_of_isListing hp has (List.cons_ne_nil t ts) (Nat.le_succ _) s, rfl, rfl⟩

end Entries

end Parser

end BuilderForge.Code
