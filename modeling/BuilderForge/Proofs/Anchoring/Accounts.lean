import BuilderForge.Proofs.Anchoring.Shape
import BuilderForge.Proofs.Resolution.CratePath
import Mathlib.Data.List.TakeDrop

set_option autoImplicit false

/-! # What becomes of the paths in a type

Every path of an anchored type is accounted for: it is absolute, it was noted, it leads to a
builtin, or it was left as it was written (`Accounted`). That is shown along the way that anchoring
takes through a tree (`allAccounted_all`), by what becomes of one path (`yields_path`).
-/

namespace BuilderForge

open Code (Tree Kind Segment Path PathRole Mention)

namespace Place

/-! ## What becomes of one path -/

/-- A new path begins with `::` or with `crate`. -/
theorem replace_of_change {p : Place} {leading : Bool} {segments : List Segment} {l : Bool}
    {names : List String} (h : (p.change leading segments).1 = .replace l names) :
    l = true ∨ ∃ rest, names = "crate" :: rest := by
  unfold change at h
  split at h
  · split at h <;> exact Or.inr ⟨_, (PathChange.replace.inj h).2.symm⟩
  · exact Or.inl (PathChange.replace.inj h).1.symm
  · cases h
  · cases h

/-- A path stays as it is if it is a builtin, or else it is noted. -/
theorem keep_of_change {p : Place} {leading : Bool} {segments : List Segment}
    (h : (p.change leading segments).1 = .keep) :
    p.registry.resolvePath p.module ⟨leading, segments⟩ = .builtin
      ∨ (p.change leading segments).2.unresolved = [written segments] := by
  unfold change at h ⊢
  split at h
  · split at h <;> cases h
  · cases h
  · next hbuiltin => exact Or.inl hbuiltin
  · exact Or.inr rfl

/-! ## What is known of an emitted path -/

/-- An emitted path is absolute, noted or a builtin, or it is one of the paths `own` and `others`
as they are written: one apart from other paths, or one that begins with `Self`, for which nothing
is known. -/
inductive Accounted (p : Place) (others own : List Mention) (noted : List String) (x : Mention) :
    Prop
  | absolute (h : x.isAbsolute = true)
  | noted (h : x.written ∈ noted)
  | builtin (h : p.registry.resolvePath p.module x.path = .builtin)
  | apart (hapart : x.apart = true) (h : x ∈ own ∨ x ∈ others)
  | self (hself : x.beginsWith "Self" = true) (h : p.self = none ∧ x ∈ own ∨ x ∈ others)

section Accounted

variable {p : Place} {others own own' : List Mention} {noted noted' : List String}

theorem Accounted.mono {x : Mention} (h : Accounted p others own noted x) (hown : own ⊆ own')
    (hnoted : noted ⊆ noted') : Accounted p others own' noted' x := by
  cases h with
  | absolute h => exact .absolute h
  | noted h => exact .noted (hnoted h)
  | builtin h => exact .builtin h
  | apart hapart h => exact .apart hapart (h.imp_left fun h => hown h)
  | self hself h => exact .self hself (h.imp_left fun h => ⟨h.1, hown h.2⟩)

/-- All paths of a list are accounted for. -/
def AllAccounted (p : Place) (others own : List Mention) (noted : List String)
    (xs : List Mention) : Prop := ∀ x ∈ xs, Accounted p others own noted x

theorem AllAccounted.mono {xs : List Mention} (h : AllAccounted p others own noted xs)
    (hown : own ⊆ own') (hnoted : noted ⊆ noted') : AllAccounted p others own' noted' xs :=
  fun x hx => (h x hx).mono hown hnoted

theorem AllAccounted.append {xs ys : List Mention} (hx : AllAccounted p others own noted xs)
    (hy : AllAccounted p others own noted ys) : AllAccounted p others own noted (xs ++ ys) :=
  List.forall_mem_append.mpr ⟨hx, hy⟩

/-- The names of a path with their arguments anchored: the names are the same, and the paths in the
arguments are accounted for. -/
structure NamesAccounted (p : Place) (others : List Mention) (segments : List Segment)
    (anchored : List (Segment × AnchorNotes)) : Prop where
  idents : anchored.map (fun a => a.1.ident) = segments.map Segment.ident
  arguments : ∀ a ∈ anchored, AllAccounted p others (Tree.segmentMentions segments)
    a.2.unresolved (Tree.argumentMentions a.1)

variable {segments : List Segment} {anchored : List (Segment × AnchorNotes)}

/-- The paths in the arguments of names, if what there is to be said about them was noted. -/
theorem allAccounted_segments
    (h : ∀ a ∈ anchored, AllAccounted p others own a.2.unresolved (Tree.argumentMentions a.1))
    (hnoted : ∀ a ∈ anchored, a.2.unresolved ⊆ noted) :
    AllAccounted p others own noted (Tree.segmentMentions (anchored.map (·.1))) := by
  intro x hx
  obtain ⟨s, hs, hx⟩ := Tree.mem_segmentMentions.mp hx
  obtain ⟨a, ha, rfl⟩ := List.mem_map.mp hs
  exact (h a ha).mono (List.Subset.refl _) (hnoted a ha) x hx

/-- A path is accounted for with the paths in its arguments. -/
theorem allAccounted_path {role : PathRole} {leading : Bool}
    (hpath : role ≠ .other → Accounted p others own noted (.ofPath false leading segments))
    (harguments : AllAccounted p others own noted (Tree.segmentMentions segments)) :
    AllAccounted p others own noted (Tree.mentions (.path role leading segments)) := by
  rw [Tree.mentions]
  refine AllAccounted.append ?_ harguments
  split
  · exact List.forall_mem_nil _
  · next hrole => exact List.forall_mem_singleton.mpr (hpath hrole)

theorem argumentMentions_of_some {s : Segment} {a : Tree} (h : s.arguments = some a) :
    Tree.argumentMentions s = a.mentions := by
  obtain ⟨i, args⟩ := s
  obtain rfl : args = some a := h
  rfl

/-- The arguments of the last name are those of a new path. -/
theorem segmentMentions_rebuilt {names : List String} {args : Option Tree} {x : Mention}
    (hx : x ∈ Tree.segmentMentions (rebuilt names args)) : ∃ a, args = some a ∧ x ∈ a.mentions := by
  induction names with
  | nil => cases hx
  | cons name more ih =>
      cases more with
      | nil =>
          rw [rebuilt, Tree.segmentMentions, Tree.segmentMentions, List.append_nil] at hx
          cases args with
          | none => cases hx
          | some a => exact ⟨a, rfl, hx⟩
      | cons next rest => exact ih hx

theorem beginsWith_crate {leading : Bool} {rest : List String} {args : Option Tree} :
    (Mention.ofPath false leading (rebuilt ("crate" :: rest) args)).beginsWith "crate" = true := by
  cases rest with
  | nil =>
      simp only [rebuilt, identFor_crate]
      rfl
  | cons name more =>
      simp only [rebuilt, identFor_crate]
      rfl

/-- A new path is absolute, and the paths in its arguments are those in the arguments of the last
name. -/
theorem allAccounted_rebuilt {role : PathRole} {leading : Bool} {names : List String}
    {args : Option Tree} (hnames : leading = true ∨ ∃ rest, names = "crate" :: rest)
    (hargs : ∀ a, args = some a → AllAccounted p others own noted a.mentions) :
    AllAccounted p others own noted (Tree.mentions (.path role leading (rebuilt names args))) := by
  refine allAccounted_path (fun _ => .absolute ?_) ?_
  · rw [Mention.isAbsolute, Bool.or_eq_true]
    rcases hnames with rfl | ⟨rest, rfl⟩
    · exact Or.inl rfl
    · exact Or.inr beginsWith_crate
  · intro x hx
    obtain ⟨a, ha, hx⟩ := segmentMentions_rebuilt hx
    exact hargs a ha x hx

theorem beginsWith_self (apart leading : Bool) (segments : List Segment) :
    (Mention.ofPath apart leading segments).beginsWith "Self" = beginsWithSelf segments := by
  cases segments with
  | nil => rfl
  | cons s ss =>
      obtain ⟨i, args⟩ := s
      rfl

/-- A path that stays as it is is a builtin or noted. -/
theorem accounted_of_keep {leading : Bool} (h : (p.change leading segments).1 = .keep)
    {emitted : List Segment} (hidents : emitted.map Segment.ident = segments.map Segment.ident)
    (hnoted : (p.change leading segments).2.unresolved ⊆ noted) :
    Accounted p others own noted (.ofPath false leading emitted) := by
  rcases keep_of_change h with hbuiltin | hwritten
  · refine .builtin ?_
    have hnames : (Mention.ofPath false leading emitted).path.names
        = Path.names ⟨leading, segments⟩ := by
      rw [Mention.path, Mention.ofPath, hidents]
      simp [Path.names, Segment.ofIdent, Segment.ident, Function.comp_def]
    rw [Registry.resolvePath, hnames]
    exact hbuiltin
  · refine .noted ?_
    rw [hwritten] at hnoted
    have hsame : (Mention.ofPath false leading emitted).written = written segments := by
      rw [Mention.written, Mention.ofPath, hidents, List.map_map]
      rfl
    rw [hsame]
    exact hnoted List.mem_cons_self

end Accounted

/-- The paths in the arguments of the path that `Self` stands for are accounted for. -/
def SelfAccounted (p : Place) (others : List Mention) : Prop :=
  ∀ self, p.self = some self → ∀ a ∈ self.segments,
    AllAccounted p others [] a.2.unresolved (Tree.argumentMentions a.1)

/-- The path that `Self` stands for is accounted for. -/
theorem yields_selfType {p : Place} {others : List Mention} (hself : p.SelfAccounted others)
    {self : SelfPath} (h : p.self = some self) (role : PathRole) :
    Yields (p.selfType self role) fun t u => AllAccounted p others [] u t.mentions := by
  have hself := hself self h
  obtain ⟨change, notes, hchange⟩ : ∃ change notes,
      p.change self.leading (self.segments.map (·.1)) = (change, notes) := ⟨_, _, rfl⟩
  simp only [selfType, hchange]
  refine (yields_note notes).bind ?_
  rintro _ _ rfl
  cases change with
  | keep =>
      refine (yields_forM_note (·.2) self.segments).map ?_
      intro _ u hu
      refine allAccounted_path (fun _ => ?_) (allAccounted_segments hself fun a ha => ?_)
      · refine accounted_of_keep (congrArg Prod.fst hchange) rfl ?_
        rw [hchange]
        exact List.subset_append_left _ _
      · exact List.Subset.trans (hu a ha) (List.subset_append_right _ _)
  | replace leading names =>
      refine (yields_note _).map ?_
      rintro _ _ rfl
      refine allAccounted_rebuilt (replace_of_change (congrArg Prod.fst hchange)) fun a ha => ?_
      obtain ⟨x, hx, hargs⟩ := Option.bind_eq_some_iff.mp ha
      have harguments := hself x (List.mem_of_getLast? hx)
      rw [argumentMentions_of_some hargs] at harguments
      refine harguments.mono (List.Subset.refl _) ?_
      simp [hx]

/-- What becomes of a path: all paths in the new one are accounted for, and what was to be said about
other things has been noted. -/
structure PathAccounted (p : Place) (others : List Mention) (role : PathRole) (leading : Bool)
    (segments : List Segment) (between : AnchorNotes) (t : Tree) (noted : List String) : Prop where
  between : between.unresolved ⊆ noted
  accounted : AllAccounted p others (Tree.mentions (.path role leading segments)) noted t.mentions

section Path

variable {p : Place} {others : List Mention} {role : PathRole} {leading : Bool}
  {segments : List Segment} {anchored : List (Segment × AnchorNotes)}
  (hnames : NamesAccounted p others segments anchored) (between : AnchorNotes)
include hnames

theorem NamesAccounted.map_ident :
    (anchored.map (·.1)).map Segment.ident = segments.map Segment.ident := by
  rw [List.map_map]
  exact hnames.idents

/-- The paths in the arguments of a name are accounted for as those of the whole path. -/
theorem NamesAccounted.own (role : PathRole) (leading : Bool) : ∀ a ∈ anchored,
    AllAccounted p others (Tree.mentions (.path role leading segments)) a.2.unresolved
      (Tree.argumentMentions a.1) := by
  intro a ha
  refine (hnames.arguments a ha).mono ?_ (List.Subset.refl _)
  rw [Tree.mentions]
  exact List.subset_append_right _ _

/-- The path with its arguments anchored. -/
theorem pathAccounted_of_own {noted : List String} (hbetween : between.unresolved ⊆ noted)
    (hnoted : ∀ a ∈ anchored, a.2.unresolved ⊆ noted)
    (hpath : role ≠ .other → Accounted p others (Tree.mentions (.path role leading segments)) noted
      (.ofPath false leading segments)) :
    PathAccounted p others role leading segments between
      (.path role leading (anchored.map (·.1))) noted := by
  refine ⟨hbetween, allAccounted_path ?_ (allAccounted_segments (hnames.own role leading) hnoted)⟩
  rwa [Mention.ofPath, hnames.map_ident]

/-- A path that is replaced, with the arguments of its last name. -/
theorem yields_replaced {notes : AnchorNotes} {l : Bool} {names : List String}
    (hnew : l = true ∨ ∃ rest, names = "crate" :: rest) :
    Yields (do
        note (notes.append between)
        return .path role l (rebuilt names (← lastArguments anchored)))
      (PathAccounted p others role leading segments between) := by
  refine (yields_note _).bind ?_
  rintro _ _ rfl
  refine (yields_lastArguments anchored).map ?_
  intro args u hargs
  refine ⟨?_, allAccounted_rebuilt hnew fun a ha => ?_⟩
  · exact List.subset_append_of_subset_left _ (List.subset_append_right _ _)
  · obtain ⟨x, hx, hsome, hu⟩ := hargs a ha
    rw [← argumentMentions_of_some hsome]
    exact (hnames.own role leading x hx).mono (List.Subset.refl _)
      (List.subset_append_of_subset_right _ hu)

/-- A path that does not begin with `Self`. -/
theorem yields_relative {change : PathChange} {notes : AnchorNotes}
    (hchange : p.change false segments = (change, notes)) :
    Yields (do
        note (notes.append between)
        match change with
        | .keep => return .path role false (← noteAll anchored)
        | .replace leading names =>
            return .path role leading (rebuilt names (← lastArguments anchored)))
      (PathAccounted p others role false segments between) := by
  cases change with
  | keep =>
      refine (yields_note _).bind ?_
      rintro _ _ rfl
      refine (yields_noteAll anchored).map ?_
      rintro _ u ⟨rfl, hu⟩
      refine pathAccounted_of_own hnames between ?_
        (fun a ha => List.subset_append_of_subset_right _ (hu a ha)) fun _ => ?_
      · exact List.subset_append_of_subset_left _ (List.subset_append_right _ _)
      · refine accounted_of_keep (congrArg Prod.fst hchange) rfl ?_
        rw [hchange]
        exact List.subset_append_of_subset_left _ (List.subset_append_left _ _)
  | replace l names =>
      exact yields_replaced hnames between (replace_of_change (congrArg Prod.fst hchange))

/-- A path that begins with `Self`, with the names of the path that this stands for in front. -/
theorem yields_expanded {self : SelfPath}
    (hself : ∀ a ∈ self.segments, AllAccounted p others [] a.2.unresolved
      (Tree.argumentMentions a.1)) {change : PathChange} {notes : AnchorNotes}
    (hchange : p.change self.leading (self.segments.map (·.1) ++ segments.drop 1)
      = (change, notes)) :
    Yields (do
        note (notes.append between)
        match change with
        | .keep =>
            self.segments.forM fun s => note s.2
            return .path role self.leading
              (self.segments.map (·.1) ++ (← noteAll (anchored.drop 1)))
        | .replace leading names =>
            return .path role leading (rebuilt names (← lastArguments anchored)))
      (PathAccounted p others role false segments between) := by
  cases change with
  | keep =>
      refine (yields_note _).bind ?_
      rintro _ _ rfl
      refine (yields_forM_note (·.2) self.segments).bind ?_
      intro _ u hu
      refine (yields_noteAll (anchored.drop 1)).map ?_
      rintro _ v ⟨rfl, hv⟩
      have hnoted : ∀ a ∈ self.segments ++ anchored.drop 1, a.2.unresolved ⊆ u ++ v := by
        intro a ha
        rcases List.mem_append.mp ha with ha | ha
        · exact List.subset_append_of_subset_left _ (hu a ha)
        · exact List.subset_append_of_subset_right _ (hv a ha)
      have harguments : ∀ a ∈ self.segments ++ anchored.drop 1, AllAccounted p others
          (Tree.mentions (.path role false segments)) a.2.unresolved (Tree.argumentMentions a.1) := by
        intro a ha
        rcases List.mem_append.mp ha with ha | ha
        · exact (hself a ha).mono (List.nil_subset _) (List.Subset.refl _)
        · exact hnames.own role false a (List.mem_of_mem_drop ha)
      refine ⟨?_, ?_⟩
      · exact List.subset_append_of_subset_left _ (List.subset_append_right _ _)
      · rw [← List.map_append]
        refine allAccounted_path (fun _ => ?_) (allAccounted_segments harguments fun a ha =>
          List.subset_append_of_subset_right _ (hnoted a ha))
        refine accounted_of_keep (congrArg Prod.fst hchange) ?_ ?_
        · rw [List.map_append, List.map_append, List.map_append, List.map_drop, List.map_drop,
            hnames.map_ident, List.map_drop]
        · rw [hchange]
          exact List.subset_append_of_subset_left _ (List.subset_append_left _ _)
  | replace l names =>
      exact yields_replaced hnames between (replace_of_change (congrArg Prod.fst hchange))

/-- A path is accounted for, given its names with their arguments anchored. -/
theorem yields_path (hself : p.SelfAccounted others) :
    Yields (p.path between role leading segments anchored)
      (PathAccounted p others role leading segments between) := by
  unfold path
  split
  · next hkept =>
      -- the path is not one that is looked at, or it is absolute
      refine (yields_note between).bind ?_
      rintro _ _ rfl
      refine (yields_noteAll anchored).map ?_
      rintro _ u ⟨rfl, hu⟩
      refine pathAccounted_of_own hnames between (List.subset_append_left _ _)
        (fun a ha => List.subset_append_of_subset_right _ (hu a ha)) fun hrole => .absolute ?_
      have hleading : leading = true := by simpa [hrole] using hkept
      simp [Mention.isAbsolute, Mention.ofPath, hleading]
  · next hlooked =>
      rw [Bool.or_eq_true, not_or, decide_eq_true_eq, Bool.not_eq_true] at hlooked
      obtain ⟨hrole, rfl⟩ := hlooked
      split
      · next hbegins hnone =>
          -- nothing is known that `Self` stands for
          refine (yields_note between).bind ?_
          rintro _ _ rfl
          refine (yields_noteAll anchored).map ?_
          rintro _ u ⟨rfl, hu⟩
          refine pathAccounted_of_own hnames between (List.subset_append_left _ _)
            (fun a ha => List.subset_append_of_subset_right _ (hu a ha))
            fun _ => .self ?_ (Or.inl ⟨hnone, ?_⟩)
          · rw [beginsWith_self, hbegins]
          · rw [Tree.mentions, if_neg hrole]
            exact List.mem_append_left _ List.mem_cons_self
      · obtain ⟨change, notes, hchange⟩ : ∃ change notes,
            p.change false segments = (change, notes) := ⟨_, _, rfl⟩
        simp only [hchange]
        exact yields_relative hnames between hchange
      · next self _ hsome =>
          split
          · refine (yields_note between).bind ?_
            rintro _ _ rfl
            refine (yields_selfType hself hsome role).imp ?_
            intro t u haccounted
            refine ⟨List.subset_append_left _ _, ?_⟩
            exact haccounted.mono (List.nil_subset _) (List.subset_append_right _ _)
          · obtain ⟨change, notes, hchange⟩ : ∃ change notes,
                p.change self.leading (self.segments.map (·.1) ++ segments.drop 1)
                  = (change, notes) := ⟨_, _, rfl⟩
            simp only [hchange]
            exact yields_expanded hnames between (hself self hsome) hchange

end Path

/-! ## All paths of a type -/

theorem mem_span_iff {α : Type} {f : α → Bool} {l : List α} {a : α} :
    a ∈ (l.span f).1 ∨ a ∈ (l.span f).2 ↔ a ∈ l := by
  rw [List.span_eq_takeWhile_dropWhile, ← List.mem_append, List.takeWhile_append_dropWhile]

/-- What there is to be said about a part is said about the node. -/
theorem mem_inOrder {parts : List Part} {t : Part} (ht : t ∈ parts) :
    t.notes ∈ inOrder parts ∧ t.attributes ∈ inOrder parts := by
  unfold inOrder
  dsimp only
  refine ⟨?_, List.mem_append_left _ (List.mem_append_right _ (List.mem_map_of_mem ht))⟩
  rw [List.mem_append, List.mem_append, List.partition_eq_filter_filter]
  rcases mem_span_iff.mpr ht with hfront | hrest
  · exact Or.inl (Or.inl (List.mem_map_of_mem hfront))
  · refine Or.inr (List.mem_map_of_mem ?_)
    rw [List.mem_append, List.mem_append]
    cases hclause : isClause t.tree with
    | true => exact Or.inl (Or.inr (List.mem_filter.mpr ⟨hrest, hclause⟩))
    | false =>
        have hother : t ∈ ((parts.span fun t => isAttributes t.tree).2).filter
            (not ∘ fun t => isClause t.tree) :=
          List.mem_filter.mpr ⟨hrest, by simp [hclause]⟩
        exact (mem_span_iff.mpr hother).imp Or.inl id

section Tree

variable {p : Place} {others own : List Mention} {noted : List String}

/-- The paths in trees are accounted for if those in each tree are. -/
theorem allAccounted_mentionsAll {ts : List Tree}
    (h : ∀ t ∈ ts, AllAccounted p others own noted t.mentions) :
    AllAccounted p others own noted (Tree.mentionsAll ts) := by
  intro x hx
  obtain ⟨t, ht, hx⟩ := Tree.mem_mentionsAll.mp hx
  exact h t ht x hx

theorem allAccounted_node {k : Kind} {parts : List Tree}
    (hapart : AllAccounted p others own noted (Tree.apart k parts))
    (hparts : ∀ t ∈ parts, AllAccounted p others own noted t.mentions) :
    AllAccounted p others own noted (Tree.mentions (.node k parts)) := by
  rw [Tree.mentions]
  split
  · exact List.forall_mem_nil _
  · exact hapart.append (allAccounted_mentionsAll hparts)

/-- The paths in anchored trees, once what there is to be said about these was noted. -/
theorem allAccounted_parts {ts : List Tree} {parts : List Part}
    (h : ∀ t ∈ parts, AllAccounted p others (Tree.mentionsAll ts)
      (t.attributes.unresolved ++ t.notes.unresolved) t.tree.mentions)
    (hown : Tree.mentionsAll ts ⊆ own)
    (hnoted : ∀ t ∈ parts, t.attributes.unresolved ++ t.notes.unresolved ⊆ noted) :
    ∀ t ∈ parts.map Part.tree, AllAccounted p others own noted t.mentions := by
  rw [List.forall_mem_map]
  exact fun t ht => (h t ht).mono hown (hnoted t ht)

/-- The paths of an anchored tree are accounted for, as those of the tree as it is written. -/
def TreeAccounted (p : Place) (others : List Mention) (t : Tree) : Prop :=
  Yields (p.tree t) fun t' u => AllAccounted p others t.mentions u t'.mentions

variable (hself : p.SelfAccounted others)
include hself

/-- A receiver without a type gets one where `Self` stands for a path. -/
theorem yields_receiver {ampersand name isMutable word : Tree}
    (h : ∀ t ∈ [ampersand, name, isMutable, word], AllAccounted p others own noted t.mentions) :
    Yields (p.receiver ampersand name isMutable word) fun ts u =>
      ∀ t ∈ ts, AllAccounted p others own (noted ++ u) t.mentions := by
  simp only [List.forall_mem_cons] at h
  obtain ⟨hampersand, hname, hmutable, hword, -⟩ := h
  have hmono : ∀ {xs : List Mention} {u : List String}, AllAccounted p others own noted xs →
      AllAccounted p others own (noted ++ u) xs :=
    fun h => h.mono (List.Subset.refl _) (List.subset_append_left _ _)
  have hwithout : ∀ u, ∀ t ∈ [ampersand, name, isMutable, word, Tree.absent, Tree.absent],
      AllAccounted p others own (noted ++ u) t.mentions := by
    intro u
    simp only [List.forall_mem_cons]
    exact ⟨hmono hampersand, hmono hname, hmono hmutable, hmono hword, List.forall_mem_nil _,
      List.forall_mem_nil _, List.forall_mem_nil _⟩
  unfold receiver
  split
  · exact .pure (hwithout _)
  · next self hsome =>
      refine (yields_selfType hself hsome .type).bind ?_
      intro t u ht
      have ht := ht.mono (List.nil_subset own) (List.subset_append_right noted u)
      split
      · exact .pure (hwithout _)
      · refine .pure ?_
        rw [List.append_nil]
        simp only [List.forall_mem_cons]
        refine ⟨hmono hampersand, hmono hname, hmono hmutable, hmono hword, List.forall_mem_nil _,
          ?_, List.forall_mem_nil _⟩
        split
        · exact ht
        · refine allAccounted_node (List.forall_mem_nil _) ?_
          simp only [List.forall_mem_cons]
          exact ⟨hmono hampersand, hmono hname, hmono hmutable, ht, List.forall_mem_nil _⟩

/-- A receiver is anchored part by part, and then it gets its type. -/
theorem treeAccounted_receiver {attrs ampersand name isMutable word type : Tree}
    (hattrs : TreeAccounted p others attrs) (hampersand : TreeAccounted p others ampersand)
    (hname : TreeAccounted p others name) (hmutable : TreeAccounted p others isMutable)
    (hword : TreeAccounted p others word) :
    TreeAccounted p others
      (.node .receiver [attrs, ampersand, name, isMutable, word, .node .absent [], type]) := by
  rw [TreeAccounted, tree]
  have hown : ∀ t ∈ [attrs, ampersand, name, isMutable, word],
      t.mentions ⊆ Tree.mentions (.node .receiver
        [attrs, ampersand, name, isMutable, word, .node .absent [], type]) := by
    intro t ht
    refine Tree.mentions_subset_node ?_ (by decide)
    exact List.mem_append_left [.node .absent [], type] ht
  generalize Tree.mentions (.node .receiver
    [attrs, ampersand, name, isMutable, word, .node .absent [], type]) = own at hown ⊢
  simp only [List.forall_mem_cons] at hown
  obtain ⟨hown₁, hown₂, hown₃, hown₄, hown₅, -⟩ := hown
  refine hattrs.bind fun attrs' u₁ h₁ => ?_
  refine hampersand.bind fun ampersand' u₂ h₂ => ?_
  refine hname.bind fun name' u₃ h₃ => ?_
  refine hmutable.bind fun isMutable' u₄ h₄ => ?_
  refine hword.bind fun word' u₅ h₅ => ?_
  have hmarks : ∀ t ∈ [ampersand', name', isMutable', word'],
      AllAccounted p others own (u₁ ++ (u₂ ++ (u₃ ++ (u₄ ++ u₅)))) t.mentions := by
    simp only [List.forall_mem_cons]
    exact ⟨h₂.mono hown₂ fun _ h => by simp [h], h₃.mono hown₃ fun _ h => by simp [h],
      h₄.mono hown₄ fun _ h => by simp [h], h₅.mono hown₅ fun _ h => by simp [h],
      List.forall_mem_nil _⟩
  refine (yields_receiver hself hmarks).map fun ts v hts => ?_
  simp only [List.append_assoc] at hts
  refine allAccounted_node (List.forall_mem_nil _) (List.forall_mem_cons.mpr ⟨?_, hts⟩)
  exact h₁.mono hown₁ (List.subset_append_left _ _)

/-- The parts in front of the name of a bound, and the name. -/
theorem yields_bound {early mark question late : Tree} {role : PathRole}
    {leading : Bool} {segments : List Segment}
    (hnames : NamesAccounted p others segments (p.names segments))
    (hfront : ∀ t ∈ [early, mark, question, late], TreeAccounted p others t)
    (hown : ∀ t ∈ [early, mark, question, late, .path role leading segments], t.mentions ⊆ own) :
    Yields (bound ((p.tree early).run {}) ((p.tree mark).run {}) ((p.tree question).run {})
        ((p.tree late).run {}) fun n => p.path n role leading segments (p.names segments))
      fun ts u => ∀ t ∈ ts, AllAccounted p others own u t.mentions := by
  unfold bound
  refine (yields_path hnames _ hself).map ?_
  intro name u hname
  have hbetween := hname.between
  simp only [AnchorNotes.append, List.append_subset] at hbetween
  obtain ⟨hearly, hmark, hquestion, hlate⟩ := hbetween
  simp only [List.forall_mem_cons] at hfront hown ⊢
  refine ⟨hfront.1.run.mono hown.1 hearly, hfront.2.1.run.mono hown.2.1 hmark,
    hfront.2.2.1.run.mono hown.2.2.1 hquestion, hfront.2.2.2.1.run.mono hown.2.2.2.1 hlate,
    hname.accounted.mono hown.2.2.2.2.1 (List.Subset.refl _), List.forall_mem_nil _⟩

/-- All paths of an anchored tree are accounted for, and so are those in names, in the arguments of
one name, and in the parts of a node. The induction is on the way that anchoring takes, with one
case for each of its ways; these are the four functions that it takes them with. -/
theorem allAccounted_all : (∀ t, TreeAccounted p others t)
    ∧ (∀ segments, NamesAccounted p others segments (p.names segments))
    ∧ (∀ s, ((p.arguments s).run {}).1.ident = s.ident
      ∧ AllAccounted p others (Tree.argumentMentions s) ((p.arguments s).run {}).2.unresolved
        (Tree.argumentMentions ((p.arguments s).run {}).1))
    ∧ ∀ ts, ∀ part ∈ p.trees ts, AllAccounted p others (Tree.mentionsAll ts)
        (part.attributes.unresolved ++ part.notes.unresolved) part.tree.mentions := by
  refine Place.tree.mutual_induct p _ _ _ _ ?group ?boxPattern ?traitBound ?grouped ?attributed
    ?receiver ?node ?path ?leaf ?bare ?args ?nil ?body ?cons ?noNames ?names
  case group =>
    intro d body ih
    rw [TreeAccounted, tree]
    refine (yields_noteParts (p.trees body)).map ?_
    rintro _ u ⟨rfl, hu⟩
    rw [Tree.mentions, Tree.mentions]
    exact allAccounted_mentionsAll (allAccounted_parts ih (List.Subset.refl _) hu)
  case boxPattern =>
    intro parts
    rw [TreeAccounted, tree]
    refine .pure ?_
    rw [Tree.mentions, if_pos rfl]
    exact List.forall_mem_nil _
  case traitBound =>
    intro early mark question late role leading segments hnames hearly hmark hquestion hlate
    rw [TreeAccounted, tree]
    refine (yields_bound hself hnames ?_ fun t ht =>
      Tree.mentions_subset_node (k := .traitBound) ht (by decide)).map ?_
    · simp only [List.forall_mem_cons]
      exact ⟨hearly, hmark, hquestion, hlate, List.forall_mem_nil _⟩
    · intro ts u hts
      exact allAccounted_node (List.forall_mem_nil _) hts
  case grouped =>
    intro d early mark question late role leading segments hnames hearly hmark hquestion hlate
    rw [TreeAccounted, tree]
    have hown : ∀ t ∈ [early, mark, question, late, .path role leading segments],
        t.mentions ⊆ Tree.mentions (.node .traitBound
          [.group d [early, mark, question, late, .path role leading segments]]) :=
      fun t ht => List.Subset.trans (Tree.mentions_subset_group ht d)
        (Tree.mentions_subset_node List.mem_cons_self (by decide))
    refine (yields_bound hself hnames ?_ hown).map ?_
    · simp only [List.forall_mem_cons]
      exact ⟨hearly, hmark, hquestion, hlate, List.forall_mem_nil _⟩
    · intro ts u hts
      refine allAccounted_node (List.forall_mem_nil _) (List.forall_mem_singleton.mpr ?_)
      rw [Tree.mentions]
      exact allAccounted_mentionsAll hts
  case attributed =>
    intro attrs role leading segments attrs' notes hrun hattrs hnames
    rw [TreeAccounted, tree]
    have hattrs := hattrs.run
    simp only [hrun] at hattrs ⊢
    refine (yields_path hnames notes hself).map ?_
    intro e u he
    refine allAccounted_node (List.forall_mem_nil _) ?_
    simp only [List.forall_mem_cons]
    refine ⟨hattrs.mono (Tree.mentions_subset_node List.mem_cons_self (by decide)) he.between,
      he.accounted.mono (Tree.mentions_subset_node ?_ (by decide)) (List.Subset.refl _),
      List.forall_mem_nil _⟩
    exact List.mem_cons_of_mem _ List.mem_cons_self
  case receiver =>
    intro attrs ampersand name isMutable word type hattrs hampersand hname hmutable hword
    exact treeAccounted_receiver hself hattrs hampersand hname hmutable hword
  case node =>
    intro k parts hbox hbound hgrouped hattributed hreceiver ih
    have hk : k ≠ .boxPattern := hbox
    rw [TreeAccounted, tree]
    · refine (yields_forM_note id (inOrder (p.trees parts))).map fun _ u hu => ?_
      refine allAccounted_node ?_ (allAccounted_parts ih ?_ ?_)
      · rw [map_tree_trees, Tree.mentions, if_neg hk]
        intro x hx
        have hx := p.apart_anchor k parts hx
        exact .apart (Tree.apart_of_mem_apart hx) (Or.inl (List.mem_append_left _ hx))
      · rw [Tree.mentions, if_neg hk]
        exact List.subset_append_right _ _
      · intro t ht
        obtain ⟨hnotes, hattributes⟩ := mem_inOrder ht
        exact List.append_subset.mpr ⟨hu _ hattributes, hu _ hnotes⟩
    all_goals assumption
  case path =>
    intro role leading segments hnames
    rw [TreeAccounted, tree]
    exact (yields_path hnames {} hself).imp fun _ _ h => h.accounted
  case leaf =>
    intro t hgroup hbox hbound hgrouped hattributed hreceiver hnode hpath
    rw [TreeAccounted, tree]
    · refine .pure ?_
      cases t with
      | group d body => exact absurd rfl (hgroup d body)
      | node k parts => exact absurd rfl (hnode k parts)
      | path role leading segments => exact absurd rfl (hpath role leading segments)
      | word | op | lifetime | literal | raw => exact List.forall_mem_nil _
    all_goals assumption
  case bare => exact fun i => ⟨rfl, List.forall_mem_nil _⟩
  case args =>
    intro i a ih
    have ha := ih.run
    simp only [arguments]
    exact ⟨rfl, ha⟩
  case nil => exact fun part hpart => by cases hpart
  case body =>
    intro d attrs body ts attrs' notes hattrs body' notes' hbody ihattrs ihbody ihts
    have hfront := ihattrs.run
    have hrest := (yields_noteParts (p.trees body)).run
    simp only [hattrs] at hfront
    simp only [hbody] at hrest
    obtain ⟨rfl, hrest⟩ := hrest
    simp only [trees, hattrs, hbody]
    rw [Tree.mentionsAll, Tree.mentions, Tree.mentionsAll, List.forall_mem_cons]
    refine ⟨?_, fun part hpart => (ihts part hpart).mono (List.subset_append_right _ _)
      (List.Subset.refl _)⟩
    rw [Tree.mentions, Tree.mentionsAll]
    refine AllAccounted.append ?_ (allAccounted_mentionsAll (allAccounted_parts ihbody ?_ ?_))
    · refine hfront.mono ?_ (List.subset_append_left _ _)
      exact List.subset_append_of_subset_left _ (List.subset_append_left _ _)
    · exact List.subset_append_of_subset_left _ (List.subset_append_right _ _)
    · exact fun part hpart => List.subset_append_of_subset_right _ (hrest part hpart)
  case cons =>
    intro t ts hbody t' notes hrun iht ihts
    have ht := iht.run
    simp only [hrun] at ht
    rw [trees]
    · simp only [hrun]
      rw [Tree.mentionsAll, List.forall_mem_cons]
      refine ⟨ht.mono (List.subset_append_left _ _) (List.Subset.refl _), ?_⟩
      exact fun part hpart => (ihts part hpart).mono (List.subset_append_right _ _)
        (List.Subset.refl _)
    · assumption
  case noNames => exact ⟨rfl, fun a ha => by cases ha⟩
  case names =>
    intro s ss hs hss
    simp only [names]
    refine ⟨?_, List.forall_mem_cons.mpr ⟨?_, ?_⟩⟩
    · rw [List.map_cons, List.map_cons, hs.1, hss.idents]
    · exact hs.2.mono (List.subset_append_left _ _) (List.Subset.refl _)
    · exact fun a ha => (hss.arguments a ha).mono (List.subset_append_right _ _)
        (List.Subset.refl _)

end Tree

end Place

end BuilderForge
