import BuilderForge.Proofs.Anchoring.Accounts
import BuilderForge.Proofs.FieldChain.Lineage

set_option autoImplicit false

/-! # What is noted as unreachable

Anchoring a type notes the paths that the crate cannot name everywhere. Whatever it notes has no
visible path (`isHonest_anchor`): that is so for what becomes of one path, and no other step makes
notes of its own. So a struct is only refused a chain because of a type without a visible path,
itself or one that the type of a field names (`hidden_of_notReachable`).
-/

namespace BuilderForge

open Code (Tree Kind Segment PathRole)

/-- The notes name only paths without a visible path as unreachable. -/
def AnchorNotes.IsHonest (r : Registry) (n : AnchorNotes) : Prop :=
  ∀ path ∈ n.unreachable, ∃ segments,
    path = ModulePath.displaySegments segments ∧ r.visiblePath? segments = none

namespace Place

variable {r : Registry}

theorem isHonest_empty : AnchorNotes.IsHonest r {} := fun _ h => by cases h

theorem isHonest_append {n m : AnchorNotes} (hn : n.IsHonest r) (hm : m.IsHonest r) :
    (n.append m).IsHonest r := by
  intro path hpath
  rcases List.mem_append.mp hpath with hpath | hpath
  · exact hn path hpath
  · exact hm path hpath

/-! ## Steps that make notes -/

/-- The step adds only honest notes. -/
def NotesHonestly (r : Registry) {α : Type} (c : StateM AnchorNotes α) : Prop :=
  ∀ n : AnchorNotes, n.IsHonest r → (c.run n).2.IsHonest r

namespace NotesHonestly

variable {α β : Type} {c : StateM AnchorNotes α} {f : α → StateM AnchorNotes β}

theorem pure {a : α} : NotesHonestly r (Pure.pure a : StateM AnchorNotes α) := fun _ h => h

theorem bind (h : NotesHonestly r c) (hf : ∀ a, NotesHonestly r (f a)) :
    NotesHonestly r (c >>= f) := fun n hn => hf _ _ (h n hn)

/-- The notes of the step by itself. -/
theorem run (h : NotesHonestly r c) : (c.run {}).2.IsHonest r := h {} isHonest_empty

theorem note {n : AnchorNotes} (h : n.IsHonest r) : NotesHonestly r (note n) :=
  fun _ hm => isHonest_append hm h

theorem forM {l : List α} {g : α → StateM AnchorNotes Unit}
    (h : ∀ a ∈ l, NotesHonestly r (g a)) : NotesHonestly r (l.forM g) := by
  induction l with
  | nil => exact pure
  | cons a l ih =>
      exact (h a List.mem_cons_self).bind fun _ => ih fun b hb => h b (List.mem_cons_of_mem _ hb)

end NotesHonestly

section Steps

variable {p : Place} {anchored : List (Segment × AnchorNotes)} {parts : List Part}

theorem notesHonestly_noteAll {α : Type} {found : List (α × AnchorNotes)}
    (h : ∀ a ∈ found, a.2.IsHonest r) : NotesHonestly r (noteAll found) :=
  (NotesHonestly.forM fun a ha => .note (h a ha)).bind fun _ => .pure

theorem notesHonestly_noteParts
    (h : ∀ t ∈ parts, t.attributes.IsHonest r ∧ t.notes.IsHonest r) :
    NotesHonestly r (noteParts parts) := by
  refine (NotesHonestly.forM fun t ht => ?_).bind fun _ => .pure
  exact .note (isHonest_append (h t ht).1 (h t ht).2)

theorem notesHonestly_lastArguments (h : ∀ a ∈ anchored, a.2.IsHonest r) :
    NotesHonestly r (lastArguments anchored) := by
  unfold lastArguments
  cases hlast : anchored.getLast? with
  | none => exact .pure
  | some a => exact (NotesHonestly.note (h a (List.mem_of_getLast? hlast))).bind fun _ => .pure

/-- What there is to be said about a node is what there is to be said about its parts. -/
theorem mem_of_mem_inOrder {n : AnchorNotes} (h : n ∈ inOrder parts) :
    ∃ t ∈ parts, n = t.attributes ∨ n = t.notes := by
  unfold inOrder at h
  dsimp only at h
  rw [List.partition_eq_filter_filter] at h
  simp only [List.mem_append, List.mem_map] at h
  rcases h with (⟨t, ht, rfl⟩ | ⟨t, ht, rfl⟩) | ⟨t, ht, rfl⟩
  · exact ⟨t, mem_span_iff.mp (Or.inl ht), Or.inr rfl⟩
  · exact ⟨t, ht, Or.inl rfl⟩
  · have hrest : t ∈ (parts.span fun t => isAttributes t.tree).2 := by
      rcases ht with (ht | ht) | ht
      · exact List.mem_of_mem_filter (mem_span_iff.mp (Or.inl ht))
      · exact List.mem_of_mem_filter ht
      · exact List.mem_of_mem_filter (mem_span_iff.mp (Or.inr ht))
    exact ⟨t, mem_span_iff.mp (Or.inr hrest), Or.inr rfl⟩

/-- A path is noted as unreachable if it has no visible path. -/
theorem isHonest_change (p : Place) (leading : Bool) (segments : List Segment) :
    (p.change leading segments).2.IsHonest p.registry := by
  unfold change
  split
  · next names _ =>
      split
      · exact isHonest_empty
      · next hhidden =>
          intro path hpath
          exact ⟨names, List.mem_singleton.mp hpath, hhidden⟩
  · exact isHonest_empty
  · exact isHonest_empty
  · exact fun _ h => by cases h

/-- What there is to be said about the path that `Self` stands for is honest. -/
def SelfHonest (p : Place) : Prop :=
  ∀ self, p.self = some self → ∀ a ∈ self.segments, a.2.IsHonest p.registry

variable (hself : p.SelfHonest) {self : SelfPath} (hsome : p.self = some self)

include hself hsome in
theorem notesHonestly_selfType (role : PathRole) :
    NotesHonestly p.registry (p.selfType self role) := by
  have hself := hself self hsome
  obtain ⟨change, notes, hchange⟩ : ∃ change notes,
      p.change self.leading (self.segments.map (·.1)) = (change, notes) := ⟨_, _, rfl⟩
  have hnotes : notes.IsHonest p.registry := by
    have hhonest := p.isHonest_change self.leading (self.segments.map (·.1))
    rwa [hchange] at hhonest
  simp only [selfType, hchange]
  refine (NotesHonestly.note hnotes).bind fun _ => ?_
  cases change with
  | keep => exact (NotesHonestly.forM fun a ha => .note (hself a ha)).bind fun _ => .pure
  | replace leading names =>
      refine (NotesHonestly.note ?_).bind fun _ => .pure
      cases hlast : self.segments.getLast? with
      | none => exact isHonest_empty
      | some a => exact hself a (List.mem_of_getLast? hlast)

include hself in
theorem notesHonestly_path {between : AnchorNotes} (hbetween : between.IsHonest p.registry)
    (role : PathRole) (leading : Bool) (segments : List Segment)
    (hanchored : ∀ a ∈ anchored, a.2.IsHonest p.registry) :
    NotesHonestly p.registry (p.path between role leading segments anchored) := by
  have hkept : ∀ (l : Bool), NotesHonestly p.registry (do
      note between
      return Tree.path role l (← noteAll anchored)) := fun l =>
    (NotesHonestly.note hbetween).bind fun _ =>
      (notesHonestly_noteAll hanchored).bind fun _ => .pure
  unfold path
  split
  · exact hkept leading
  · split
    · exact hkept false
    · obtain ⟨change, notes, hchange⟩ : ∃ change notes,
          p.change false segments = (change, notes) := ⟨_, _, rfl⟩
      have hnotes := p.isHonest_change false segments
      rw [hchange] at hnotes
      simp only [hchange]
      refine (NotesHonestly.note (isHonest_append hnotes hbetween)).bind fun _ => ?_
      cases change with
      | keep => exact (notesHonestly_noteAll hanchored).bind fun _ => .pure
      | replace => exact (notesHonestly_lastArguments hanchored).bind fun _ => .pure
    · -- `Self` stands for a path, whose own notes are made when the path is kept
      next self _ hsome =>
        split
        · exact (NotesHonestly.note hbetween).bind fun _ => notesHonestly_selfType hself hsome role
        · obtain ⟨change, notes, hchange⟩ : ∃ change notes,
              p.change self.leading (self.segments.map (·.1) ++ segments.drop 1)
                = (change, notes) := ⟨_, _, rfl⟩
          have hnotes := p.isHonest_change self.leading
            (self.segments.map (·.1) ++ segments.drop 1)
          rw [hchange] at hnotes
          simp only [hchange]
          refine (NotesHonestly.note (isHonest_append hnotes hbetween)).bind fun _ => ?_
          cases change with
          | keep =>
              refine (NotesHonestly.forM fun a ha => .note (hself self hsome a ha)).bind fun _ => ?_
              refine (notesHonestly_noteAll fun a ha => ?_).bind fun _ => .pure
              exact hanchored a (List.mem_of_mem_drop ha)
          | replace => exact (notesHonestly_lastArguments hanchored).bind fun _ => .pure

include hself in
theorem notesHonestly_receiver (ampersand name isMutable word : Tree) :
    NotesHonestly p.registry (p.receiver ampersand name isMutable word) := by
  unfold receiver
  split
  · exact .pure
  · next self hsome =>
      refine (notesHonestly_selfType hself hsome .type).bind fun t => ?_
      split <;> exact .pure

/-- The notes on the parts in front of the name of a bound go with the name. -/
theorem notesHonestly_bound {early mark question late : Tree × AnchorNotes}
    (hfront : ∀ t ∈ [early, mark, question, late], t.2.IsHonest r)
    {name : AnchorNotes → StateM AnchorNotes Tree}
    (hname : ∀ n, n.IsHonest r → NotesHonestly r (name n)) :
    NotesHonestly r (bound early mark question late name) := by
  simp only [List.forall_mem_cons] at hfront
  refine (hname _ ?_).bind fun _ => .pure
  exact isHonest_append hfront.1 (isHonest_append hfront.2.1
    (isHonest_append hfront.2.2.1 hfront.2.2.2.1))

/-! ## Trees -/

include hself in
/-- Anchoring a tree makes only honest notes, and so does anchoring names, the arguments of one name
and the parts of a node. -/
theorem notesHonestly_all : (∀ t, NotesHonestly p.registry (p.tree t))
    ∧ (∀ segments, ∀ a ∈ p.names segments, a.2.IsHonest p.registry)
    ∧ (∀ s, NotesHonestly p.registry (p.arguments s))
    ∧ ∀ ts, ∀ part ∈ p.trees ts,
        part.attributes.IsHonest p.registry ∧ part.notes.IsHonest p.registry := by
  refine Place.tree.mutual_induct p _ _ _ _ ?group ?boxPattern ?traitBound ?grouped ?attributed
    ?receiver ?node ?path ?leaf ?bare ?args ?nil ?body ?cons ?noNames ?names
  case group =>
    intro d body ih
    rw [tree]
    exact (notesHonestly_noteParts ih).bind fun _ => .pure
  case boxPattern =>
    intro parts
    rw [tree]
    exact .pure
  case traitBound =>
    intro early mark question late role leading segments hnames hearly hmark hquestion hlate
    rw [tree]
    refine (notesHonestly_bound ?_ fun n hn =>
      notesHonestly_path hself hn role leading segments hnames).bind fun _ => .pure
    simp only [List.forall_mem_cons]
    exact ⟨hearly.run, hmark.run, hquestion.run, hlate.run, List.forall_mem_nil _⟩
  case grouped =>
    intro d early mark question late role leading segments hnames hearly hmark hquestion hlate
    rw [tree]
    refine (notesHonestly_bound ?_ fun n hn =>
      notesHonestly_path hself hn role leading segments hnames).bind fun _ => .pure
    simp only [List.forall_mem_cons]
    exact ⟨hearly.run, hmark.run, hquestion.run, hlate.run, List.forall_mem_nil _⟩
  case attributed =>
    intro attrs role leading segments attrs' notes hrun hattrs hnames
    rw [tree]
    have hattrs := hattrs.run
    simp only [hrun] at hattrs ⊢
    exact (notesHonestly_path hself hattrs role leading segments hnames).bind fun _ => .pure
  case receiver =>
    intro attrs ampersand name isMutable word type hattrs hampersand hname hmutable hword
    rw [tree]
    exact hattrs.bind fun _ => hampersand.bind fun _ => hname.bind fun _ => hmutable.bind fun _ =>
      hword.bind fun _ => (notesHonestly_receiver hself _ _ _ _).bind fun _ => .pure
  case node =>
    intro k parts hbox hbound hgrouped hattributed hreceiver ih
    rw [tree]
    · refine (NotesHonestly.forM fun n hn => ?_).bind fun _ => .pure
      obtain ⟨t, ht, rfl | rfl⟩ := mem_of_mem_inOrder hn
      · exact .note (ih t ht).1
      · exact .note (ih t ht).2
    all_goals assumption
  case path =>
    intro role leading segments hnames
    rw [tree]
    exact notesHonestly_path hself isHonest_empty role leading segments hnames
  case leaf =>
    intro t hgroup hbox hbound hgrouped hattributed hreceiver hnode hpath
    rw [tree]
    · exact .pure
    all_goals assumption
  case bare => exact fun i => .pure
  case args =>
    intro i a ih
    exact ih.bind fun _ => .pure
  case nil => exact fun part hpart => by cases hpart
  case body =>
    intro d attrs body ts attrs' notes hattrs body' notes' hbody ihattrs ihbody ihts
    have hfront := ihattrs.run
    have hrest := (notesHonestly_noteParts ihbody).run
    simp only [hattrs] at hfront
    simp only [hbody] at hrest
    simp only [trees, hattrs, hbody, List.forall_mem_cons]
    exact ⟨⟨hfront, hrest⟩, ihts⟩
  case cons =>
    intro t ts hbody t' notes hrun iht ihts
    have ht := iht.run
    simp only [hrun] at ht
    rw [trees]
    · simp only [hrun, List.forall_mem_cons]
      exact ⟨⟨isHonest_empty, ht⟩, ihts⟩
    · assumption
  case noNames => exact fun a ha => by cases ha
  case names =>
    intro s ss hs hss
    simp only [names, List.forall_mem_cons]
    exact ⟨hs.run, hss⟩

end Steps

/-- What is noted of an anchored type as unreachable has no visible path. -/
theorem isHonest_anchor {p : Place} (hself : p.SelfHonest) (t : Tree) :
    (p.anchor t).notes.IsHonest p.registry := ((notesHonestly_all hself).1 t).run

/-- The path that stands for `Self` is anchored where `Self` stands for nothing. -/
theorem selfHonest_withSelf (p : Place) (path : Code.Path) : (p.withSelf path).SelfHonest := by
  have hbare : SelfHonest { p with self := none } := fun _ h => by cases h
  rintro self hself a ha
  obtain rfl := Option.some.inj hself
  obtain ⟨s, -, rfl⟩ := List.mem_map.mp ha
  exact ((notesHonestly_all hbare).2.2.1 s).run

end Place

namespace FieldChain

variable {r : Registry}

/-! ## Why a struct gets no chain -/

/-- The complaint is not about a path that is in fact visible. -/
def BlamesHidden (r : Registry) (typeName : String) (e : BuilderFailure) : Prop :=
  ∀ t path, e = .notReachable t path → t = typeName ∧ ∃ segments,
    path = ModulePath.displaySegments segments ∧ r.visiblePath? segments = none

theorem blamesHidden_foldlM {typeName : String} {d : Declaration} (fs : List DeclaredField)
    {c : FieldChain} {e : BuilderFailure}
    (h : fs.foldlM (addField (place r d) typeName d) c = .error e) :
    BlamesHidden r typeName e := by
  obtain ⟨f, -, path, hpath, rfl⟩ := foldlM_addField_error fs h
  have hhonest : ((place r d).anchor f.type).notes.IsHonest r :=
    Place.isHonest_anchor (Place.selfHonest_withSelf { registry := r, module := d.module } _) f.type
  intro t path' hfailure
  obtain ⟨rfl, rfl⟩ := BuilderFailure.notReachable.inj hfailure
  exact ⟨rfl, hhonest path hpath⟩

/-- A parent is refused for other reasons. -/
theorem blamesHidden_ancestor {typeName : String} {d : Declaration} {link : Tree}
    {e : BuilderFailure} (h : ancestor r d link = .error e) : BlamesHidden r typeName e := by
  rintro t path rfl
  unfold ancestor at h
  split at h
  · cases h
  · split at h
    · cases h
    · split at h
      · cases h
      · split at h <;> cases h

/-- Every level of a walk blames only what has no visible path. -/
theorem blamesHidden_extend {typeName : String} (fuel : Nat) {d : Declaration} {c : FieldChain}
    {e : BuilderFailure} (h : extend r typeName fuel c d = .error e) :
    BlamesHidden r typeName e := by
  induction fuel generalizing d c with
  | zero =>
      obtain rfl := Except.error.inj h
      exact fun _ _ h => by cases h
  | succ fuel ih =>
      by_cases hagain : d.pathString ∈ c.chain
      · have hcontains : c.chain.contains d.pathString = true := by simpa using hagain
        simp only [extend, hcontains, if_true] at h
        obtain rfl := Except.error.inj h
        exact fun _ _ h => by cases h
      · rw [extend_succ r hagain] at h
        rcases bind_eq_error h with hfields | ⟨c₁, -, hrest⟩
        · exact blamesHidden_foldlM d.fields hfields
        · cases hlink : d.parent with
          | none =>
              simp only [hlink] at hrest
              cases hrest
          | some link =>
              simp only [hlink] at hrest
              rcases bind_eq_error hrest with hparent | ⟨parent, -, habove⟩
              · exact blamesHidden_ancestor hparent
              · exact ih habove

/-- A struct that is refused a chain because of a type that cannot be reached is refused it because
of one without a visible path. -/
theorem hidden_of_notReachable {d : Declaration} {typeName path : String}
    (h : ofDecl r d = .error (.notReachable typeName path)) : typeName = d.pathString
      ∧ ∃ segments, path = ModulePath.displaySegments segments ∧ r.visiblePath? segments = none := by
  unfold ofDecl at h
  split at h
  · cases h
  · split at h
    · next hreach =>
        obtain ⟨rfl, rfl⟩ := BuilderFailure.notReachable.inj (Except.error.inj h)
        exact ⟨rfl, d.segments, d.pathString_eq_displaySegments, Option.map_eq_none_iff.mp hreach⟩
    · exact blamesHidden_extend _ h _ _ rfl

end FieldChain

end BuilderForge
