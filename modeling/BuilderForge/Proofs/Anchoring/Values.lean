import BuilderForge.Proofs.Anchoring.Shape

set_option autoImplicit false

/-! # What an anchored type looks like

What anchoring leads to does not depend on the notes it makes, and here it is told without them. A
path becomes one of the names of its *opening*, with the arguments that stay (`anchor_path`); every
node but two is anchored part by part (`anchor_node_parts`); of a receiver without a type only the
attributes matter (`anchor_receiver`).
-/

namespace BuilderForge

open Code (Tree Kind Segment Path PathRole Ident)

namespace Place

variable (p : Place)

/-! ## Arguments of names -/

/-- A name with its arguments anchored. -/
def anchorSegment : Segment → Segment
  | .mk i args => .mk i (args.map fun a => (p.anchor a).type)

theorem map_names (segments : List Segment) :
    (p.names segments).map (·.1) = segments.map p.anchorSegment := by
  induction segments with
  | nil => rfl
  | cons s segments ih =>
      rw [names, List.map_cons, List.map_cons, ih]
      obtain ⟨i, args⟩ := s
      cases args <;> rfl

theorem ident_anchorSegment (segments : List Segment) :
    (segments.map p.anchorSegment).map Segment.ident = segments.map Segment.ident := by
  rw [List.map_map]
  exact List.map_congr_left fun ⟨_, _⟩ _ => rfl

theorem anchorSegment_ofIdent (idents : List Ident) :
    (idents.map Segment.ofIdent).map p.anchorSegment = idents.map Segment.ofIdent := by
  rw [List.map_map]
  rfl

/-- The arguments of the last name of a path. -/
def lastArguments? (segments : List Segment) : Option Tree :=
  segments.getLast?.bind Segment.arguments

theorem fst_lastArguments (anchored : List (Segment × AnchorNotes)) (n : AnchorNotes) :
    ((lastArguments anchored).run n).1 = lastArguments? (anchored.map (·.1)) := by
  rw [lastArguments, lastArguments?, List.getLast?_map]
  cases anchored.getLast? <;> rfl

/-! ## Paths -/

/-- What stands for the first names of a path: so many of them are skipped, and these names are put
in their place. -/
structure Opening where
  leading : Bool
  names : List Ident
  skipped : Nat

/-- What stands for the first names of a path of these names, and what becomes of the path then.
Only `Self` is ever skipped, where it stands for a path. -/
def opening (role : PathRole) (leading : Bool) (names : List Ident) : Opening × PathChange :=
  let same : Opening := ⟨leading, [], 0⟩
  if role = .other || leading then (same, .keep)
  else
    match beginsWithSelf (names.map Segment.ofIdent), p.self with
    | true, none => (same, .keep)
    | false, _ => (same, (p.change false (names.map Segment.ofIdent)).1)
    | true, some self =>
        let front := self.segments.map fun s => s.1.ident
        (⟨self.leading, front, 1⟩,
          (p.change self.leading ((front ++ names.drop 1).map Segment.ofIdent)).1)

/-- What becomes of a path with such an opening, given its names with their arguments anchored. -/
def reopened (role : PathRole) (o : Opening × PathChange) (anchored : List Segment) : Tree :=
  match o.2 with
  | .keep => .path role o.1.leading (o.1.names.map Segment.ofIdent ++ anchored.drop o.1.skipped)
  | .replace leading names =>
      .path role leading (rebuilt names (lastArguments? (anchored.drop o.1.skipped)))

/-- No name of the path that `Self` stands for has arguments. -/
def SelfPlain (p : Place) : Prop :=
  ∀ self, p.self = some self → ∀ s ∈ self.segments, s.1.arguments = none

/-- What becomes of a path does not depend on the arguments of its names. -/
theorem change_congr {segments segments' : List Segment}
    (h : segments.map Segment.ident = segments'.map Segment.ident) (leading : Bool) :
    p.change leading segments = p.change leading segments' := by
  have hnames : segments.map (fun s => s.ident.name) = segments'.map fun s => s.ident.name := by
    have hmap := congrArg (List.map Ident.name) h
    rwa [List.map_map, List.map_map] at hmap
  have htexts : segments.map (fun s => s.ident.text) = segments'.map fun s => s.ident.text := by
    have hmap := congrArg (List.map Ident.text) h
    rwa [List.map_map, List.map_map] at hmap
  have hpath : p.registry.resolvePath p.module ⟨leading, segments⟩
      = p.registry.resolvePath p.module ⟨leading, segments'⟩ := by
    rw [Registry.resolvePath, Registry.resolvePath, Path.names, Path.names, hnames]
  rw [change, change, hpath, written, written, htexts]

theorem beginsWithSelf_congr {segments segments' : List Segment}
    (h : segments.map Segment.ident = segments'.map Segment.ident) :
    beginsWithSelf segments = beginsWithSelf segments' := by
  cases segments with
  | nil =>
      cases segments' with
      | nil => rfl
      | cons => cases h
  | cons s segments =>
      cases segments' with
      | nil => cases h
      | cons s' segments' =>
          obtain ⟨i, args⟩ := s
          obtain ⟨i', args'⟩ := s'
          obtain rfl : i = i' := (List.cons.inj h).1
          rfl

theorem map_ident_ofIdent (idents : List Ident) :
    (idents.map Segment.ofIdent).map Segment.ident = idents := by
  rw [List.map_map]
  exact List.map_id _

/-- Names without arguments are told by their identifiers. -/
theorem eq_map_ofIdent {segments : List Segment} (h : ∀ s ∈ segments, s.arguments = none) :
    segments = (segments.map Segment.ident).map Segment.ofIdent := by
  rw [List.map_map]
  refine (List.map_id _).symm.trans (List.map_congr_left fun s hs => ?_)
  obtain ⟨i, args⟩ := s
  obtain rfl : args = none := h _ hs
  rfl

variable {p}

theorem front_eq (hplain : p.SelfPlain) {self : SelfPath} (hself : p.self = some self) :
    self.segments.map (·.1)
      = (self.segments.map fun s => s.1.ident).map Segment.ofIdent := by
  have hall := eq_map_ofIdent (List.forall_mem_map.mpr (hplain self hself))
  exact hall.trans (congrArg (List.map Segment.ofIdent) List.map_map)

/-- The word `Self` becomes the path that it stands for. -/
theorem fst_selfType (hplain : p.SelfPlain) {self : SelfPath} (hself : p.self = some self)
    (role : PathRole) (n : AnchorNotes) :
    ((p.selfType self role).run n).1
      = match (p.change self.leading (self.segments.map (·.1))).1 with
        | .keep => .path role self.leading (self.segments.map (·.1))
        | .replace leading names => .path role leading (rebuilt names none) := by
  obtain ⟨change, notes, hchange⟩ : ∃ change notes,
      p.change self.leading (self.segments.map (·.1)) = (change, notes) := ⟨_, _, rfl⟩
  simp only [selfType, hchange]
  cases change with
  | keep => rfl
  | replace leading names =>
      have hlast : (self.segments.getLast?.bind fun s => s.1.arguments) = none := by
        cases hlast : self.segments.getLast? with
        | none => rfl
        | some s => exact hplain self hself s (List.mem_of_getLast? hlast)
      rw [hlast]
      rfl

/-- A path that begins with `Self` becomes one that begins with what `Self` stands for. -/
theorem fst_path_self (hplain : p.SelfPlain) {self : SelfPath} (hself : p.self = some self)
    (between : AnchorNotes) {role : PathRole} (hrole : role ≠ .other) {segments : List Segment}
    (hb : beginsWithSelf segments = true) (n : AnchorNotes) :
    let front := self.segments.map fun s => s.1.ident
    ((p.path between role false segments (p.names segments)).run n).1
      = reopened role (⟨self.leading, front, 1⟩, (p.change self.leading
          ((front ++ (segments.map Segment.ident).drop 1).map Segment.ofIdent)).1)
        (segments.map p.anchorSegment) := by
  intro front
  have hfront : self.segments.map (·.1) = front.map Segment.ofIdent := front_eq hplain hself
  have hother : ¬(role = .other || false) = true := by simpa using hrole
  rw [path, if_neg hother, hb, hself]
  cases segments with
  | nil => cases hb
  | cons s segments =>
      cases segments with
      | nil =>
          -- the word `Self` by itself
          show ((p.selfType self role).run (n.append between)).1 = _
          rw [fst_selfType hplain hself, hfront]
          simp only [List.map_cons, List.map_nil, List.drop_succ_cons, List.drop_nil,
            List.append_nil]
          cases (p.change self.leading (front.map Segment.ofIdent)).1 with
          | keep => simp [reopened]
          | replace leading names => simp [reopened, lastArguments?]
      | cons s' rest =>
          -- the names behind `Self` come behind the path that it stands for
          have hnames : (self.segments.map (·.1) ++ (s :: s' :: rest).drop 1).map Segment.ident
              = ((front ++ ((s :: s' :: rest).map Segment.ident).drop 1).map Segment.ofIdent).map
                  Segment.ident := by
            rw [map_ident_ofIdent, List.map_append, List.map_map, List.map_drop]
            rfl
          obtain ⟨change, notes, hchange⟩ : ∃ change notes,
              p.change self.leading (self.segments.map (·.1) ++ (s :: s' :: rest).drop 1)
                = (change, notes) := ⟨_, _, rfl⟩
          simp only [← p.change_congr hnames, hchange]
          cases change with
          | keep =>
              show Tree.path role self.leading (self.segments.map (·.1)
                ++ ((p.names (s :: s' :: rest)).drop 1).map (·.1)) = _
              rw [List.map_drop, p.map_names, hfront]
              rfl
          | replace leading names =>
              show Tree.path role leading (rebuilt names ((lastArguments
                (p.names (s :: s' :: rest))).run (n.append (notes.append between))).1) = _
              rw [fst_lastArguments, p.map_names]
              rfl

/-- **What becomes of a path**, whatever is to be said about what stands in front of it. -/
theorem fst_path (hplain : p.SelfPlain) (between : AnchorNotes) (role : PathRole) (leading : Bool)
    (segments : List Segment) (n : AnchorNotes) :
    ((p.path between role leading segments (p.names segments)).run n).1
      = reopened role (p.opening role leading (segments.map Segment.ident))
        (segments.map p.anchorSegment) := by
  have hidents := map_ident_ofIdent (segments.map Segment.ident)
  rw [opening]
  by_cases hother : (role = .other || leading) = true
  · rw [path, if_pos hother, if_pos hother]
    show Tree.path role leading ((p.names segments).map (·.1)) = _
    rw [p.map_names]
    rfl
  rw [if_neg hother, beginsWithSelf_congr hidents]
  obtain ⟨hrole, rfl⟩ : role ≠ .other ∧ leading = false := by simpa using hother
  cases hb : beginsWithSelf segments with
  | false =>
      obtain ⟨change, notes, hchange⟩ : ∃ change notes,
          p.change false segments = (change, notes) := ⟨_, _, rfl⟩
      rw [path, if_neg hother, hb]
      simp only [p.change_congr hidents, hchange]
      cases change with
      | keep =>
          show Tree.path role false ((p.names segments).map (·.1)) = _
          rw [p.map_names]
          rfl
      | replace leading names =>
          show Tree.path role leading (rebuilt names
            ((lastArguments (p.names segments)).run (n.append (notes.append between))).1) = _
          rw [fst_lastArguments, p.map_names]
          rfl
  | true =>
      cases hself : p.self with
      | none =>
          rw [path, if_neg hother, hb, hself]
          show Tree.path role false ((p.names segments).map (·.1)) = _
          rw [p.map_names]
          rfl
      | some self => exact fst_path_self hplain hself between hrole hb n

theorem anchor_path (hplain : p.SelfPlain) (role : PathRole) (leading : Bool)
    (segments : List Segment) :
    (p.anchor (.path role leading segments)).type
      = reopened role (p.opening role leading (segments.map Segment.ident))
        (segments.map p.anchorSegment) := by
  rw [anchor_type, tree]
  exact fst_path hplain {} role leading segments {}

/-! ## Nodes -/

/-- A node is anchored part by part, unless it is of one of two kinds. -/
theorem anchor_node_parts (hplain : p.SelfPlain) {k : Kind} (hk : k ∉ [.boxPattern, .receiver])
    (parts : List Tree) :
    (p.anchor (.node k parts)).type = .node k (parts.map fun t => (p.anchor t).type) := by
  -- what is noted in front of a name makes no difference to what the name becomes
  have hpath : ∀ between role leading segments n,
      ((p.path between role leading segments (p.names segments)).run n).1
        = (p.anchor (.path role leading segments)).type := fun between role leading segments n => by
    rw [fst_path hplain, anchor_path hplain]
  simp only [List.mem_cons, List.not_mem_nil, or_false, not_or] at hk
  rw [anchor_type, tree.eq_def]
  split
  · next heq => cases heq
  · next heq => cases heq; exact absurd rfl hk.1
  · next heq =>
      cases heq
      exact congrArg (fun e => Code.Tree.node .traitBound [_, _, _, _, e]) (hpath _ _ _ _ _)
  · next heq =>
      cases heq
      rw [List.map_singleton, anchor_group, map_tree_trees]
      exact congrArg (fun e => Code.Tree.node .traitBound [.group _ [_, _, _, _, e]]) (hpath _ _ _ _ _)
  · next heq =>
      cases heq
      exact congrArg (fun e => Code.Tree.node .attributed [_, e]) (hpath _ _ _ _ _)
  · next heq => cases heq; exact absurd rfl hk.2
  · next heq =>
      cases heq
      rw [← map_tree_trees]
      rfl
  · next heq => cases heq
  · next hnode _ => exact absurd rfl (hnode _ _)

/-- A path without arguments, or a reference to one. -/
inductive Plain : Tree → Prop
  | path (role : PathRole) (leading : Bool) (idents : List Ident) :
      Plain (.path role leading (idents.map Segment.ofIdent))
  | reference (ampersand lifetime isMutable : Tree) {type : Tree} (h : Plain type) :
      Plain (.node .referenceType [ampersand, lifetime, isMutable, type])

theorem rebuilt_none (names : List String) :
    rebuilt names none = (names.map identFor).map Segment.ofIdent := by
  induction names with
  | nil => rfl
  | cons name more ih =>
      cases more with
      | nil => rfl
      | cons =>
          rw [rebuilt, ih]
          · rfl
          · exact fun h => by cases h

/-- What the word `Self` becomes has no arguments. -/
theorem plain_selfType (hplain : p.SelfPlain) {self : SelfPath} (hself : p.self = some self)
    (role : PathRole) (n : AnchorNotes) : Plain ((p.selfType self role).run n).1 := by
  rw [fst_selfType hplain hself]
  split
  · rw [front_eq hplain hself]
    exact .path _ _ _
  · rw [rebuilt_none]
    exact .path _ _ _

theorem fst_receiver (hplain : p.SelfPlain) (ampersand name isMutable word : Tree)
    (n : AnchorNotes) : ∃ colon type,
      ((p.receiver ampersand name isMutable word).run n).1
        = [ampersand, name, isMutable, word, colon, type]
      ∧ (colon = Tree.absent ∨ Plain type) := by
  unfold receiver
  cases hself : p.self with
  | none => exact ⟨_, _, rfl, .inl rfl⟩
  | some self =>
      have htype := plain_selfType hplain hself .type n
      show ∃ colon type, ((ite (isSelfWord ((p.selfType self .type).run n).1 = true)
          (pure [ampersand, name, isMutable, word, Tree.absent, Tree.absent])
          _ : StateM AnchorNotes (List Tree)).run ((p.selfType self .type).run n).2).1 = _ ∧ _
      split
      · exact ⟨_, _, rfl, .inl rfl⟩
      · refine ⟨_, _, rfl, .inr ?_⟩
        split
        · exact htype
        · exact .reference _ _ _ htype

/-- Of a receiver without a type the attributes are anchored. If it is given a type, this is what
the word `Self` becomes. -/
theorem anchor_receiver (hplain : p.SelfPlain)
    (attrs ampersand name isMutable word implied : Tree) :
    ∃ ampersand' name' isMutable' word' colon type,
      (p.anchor (.node .receiver
          [attrs, ampersand, name, isMutable, word, .node .absent [], implied])).type
        = .node .receiver
          [(p.anchor attrs).type, ampersand', name', isMutable', word', colon, type]
      ∧ (colon = Tree.absent ∨ Plain type) := by
  let attrs' := (p.tree attrs).run {}
  let ampersand' := (p.tree ampersand).run attrs'.2
  let name' := (p.tree name).run ampersand'.2
  let isMutable' := (p.tree isMutable).run name'.2
  let word' := (p.tree word).run isMutable'.2
  obtain ⟨colon, type, hrun, htype⟩ :=
    fst_receiver hplain ampersand'.1 name'.1 isMutable'.1 word'.1 word'.2
  refine ⟨ampersand'.1, name'.1, isMutable'.1, word'.1, colon, type, ?_, htype⟩
  rw [anchor_type, tree]
  exact congrArg (fun parts => Code.Tree.node .receiver (attrs'.1 :: parts)) hrun

/-- A receiver with a type is anchored part by part. -/
theorem anchor_typed_receiver {parts : List Tree}
    (htyped : ∀ attrs ampersand name isMutable word implied,
      parts ≠ [attrs, ampersand, name, isMutable, word, .node .absent [], implied]) :
    (p.anchor (.node .receiver parts)).type
      = .node .receiver (parts.map fun t => (p.anchor t).type) := by
  rw [anchor_type, tree.eq_def]
  split
  · next heq => cases heq
  · next heq => cases heq
  · next heq => cases heq
  · next heq => cases heq
  · next heq => cases heq
  · next heq => cases heq; exact absurd rfl (htyped _ _ _ _ _ _)
  · next heq =>
      cases heq
      rw [← map_tree_trees]
      rfl
  · next heq => cases heq
  · next hnode _ => exact absurd rfl (hnode _ _)

end Place

end BuilderForge
