import BuilderForge.Anchoring
import BuilderForge.Proofs.Anchoring.Mentions

set_option autoImplicit false

/-! # How a type is anchored

Anchoring goes through a tree and makes notes on the way. `Yields` says what a piece of it leads to
and what it notes, whatever has been noted before, so that statements about pieces can be put
together. A tree keeps its shape: a node is anchored part by part, and stays a node of its kind
(`anchor_node`), and a path that names something else than a type, a value or a trait keeps its
names. So the paths that stand apart from the parts of a node are left as they are (`apart_anchor`).
-/

namespace BuilderForge

open Code (Tree Kind Segment Path PathRole Mention)

/-! ## Notes that are made on the way -/

namespace AnchorNotes

theorem append_assoc (l m n : AnchorNotes) : (l.append m).append n = l.append (m.append n) := by
  simp [append]

theorem append_empty (n : AnchorNotes) : n.append {} = n := by simp [append]

end AnchorNotes

namespace Place

/-- What a piece of anchoring leads to, and what it notes about names without a known meaning,
whatever has been noted before. -/
def Yields {α : Type} (c : StateM AnchorNotes α) (Q : α → List String → Prop) : Prop :=
  ∀ n, ∃ a more, c.run n = (a, n.append more) ∧ Q a more.unresolved

namespace Yields

variable {α β : Type} {c : StateM AnchorNotes α} {Q : α → List String → Prop}

theorem imp {R : α → List String → Prop} (h : Yields c Q) (himp : ∀ a u, Q a u → R a u) :
    Yields c R := by
  intro n
  obtain ⟨a, more, hrun, hQ⟩ := h n
  exact ⟨a, more, hrun, himp a _ hQ⟩

theorem pure {a : α} (h : Q a []) : Yields (pure a) Q :=
  fun n => ⟨a, {}, by rw [n.append_empty]; rfl, h⟩

theorem bind {f : α → StateM AnchorNotes β} {R : β → List String → Prop} (h : Yields c Q)
    (hf : ∀ a u, Q a u → Yields (f a) fun b v => R b (u ++ v)) : Yields (c >>= f) R := by
  intro n
  obtain ⟨a, more, hrun, hQ⟩ := h n
  obtain ⟨b, more', hrun', hR⟩ := hf a _ hQ (n.append more)
  refine ⟨b, more.append more', ?_, hR⟩
  rw [← AnchorNotes.append_assoc, ← hrun', StateT.run_bind, hrun]
  rfl

theorem map {f : α → β} {R : β → List String → Prop} (h : Yields c Q)
    (hf : ∀ a u, Q a u → R (f a) u) : Yields (c >>= fun a => Pure.pure (f a)) R := by
  refine h.bind fun a u hQ => .pure ?_
  rw [List.append_nil]
  exact hf a u hQ

/-- What it leads to from no notes on. -/
theorem run (h : Yields c Q) : Q (c.run {}).1 (c.run {}).2.unresolved := by
  obtain ⟨a, more, hrun, hQ⟩ := h {}
  rw [hrun]
  exact hQ

end Yields

theorem yields_note (n : AnchorNotes) : Yields (note n) fun _ u => u = n.unresolved :=
  fun _ => ⟨(), n, rfl, rfl⟩

theorem yields_forM_note {α : Type} (notes : α → AnchorNotes) (l : List α) :
    Yields (l.forM fun a => note (notes a)) fun _ u => ∀ a ∈ l, (notes a).unresolved ⊆ u := by
  induction l with
  | nil => exact .pure (List.forall_mem_nil _)
  | cons a l ih =>
      refine (yields_note (notes a)).bind ?_
      rintro _ _ rfl
      refine ih.imp fun _ u hu => List.forall_mem_cons.mpr ⟨List.subset_append_left _ _, ?_⟩
      exact fun b hb => List.Subset.trans (hu b hb) (List.subset_append_right _ _)

theorem yields_noteAll {α : Type} (found : List (α × AnchorNotes)) :
    Yields (noteAll found) fun as u =>
      as = found.map (·.1) ∧ ∀ a ∈ found, a.2.unresolved ⊆ u := by
  refine (yields_forM_note (·.2) found).map ?_
  exact fun _ _ hu => ⟨rfl, hu⟩

theorem yields_noteParts (parts : List Part) :
    Yields (noteParts parts) fun ts u => ts = parts.map Part.tree
      ∧ ∀ t ∈ parts, t.attributes.unresolved ++ t.notes.unresolved ⊆ u := by
  refine (yields_forM_note (fun t : Part => t.attributes.append t.notes) parts).map ?_
  exact fun _ _ hu => ⟨rfl, hu⟩

theorem yields_lastArguments (anchored : List (Segment × AnchorNotes)) :
    Yields (lastArguments anchored) fun args u => ∀ a, args = some a →
      ∃ x ∈ anchored, x.1.arguments = some a ∧ x.2.unresolved ⊆ u := by
  unfold lastArguments
  cases hlast : anchored.getLast? with
  | none => exact .pure (by simp)
  | some x =>
      refine (yields_note x.2).map ?_
      rintro _ _ rfl a ha
      exact ⟨x, List.mem_of_getLast? hlast, ha, List.Subset.refl _⟩

/-! ## What anchoring keeps -/

/-- What a tree is: a node of a kind, a path in a role, or something else. -/
def sort? : Tree → Option (Kind ⊕ PathRole)
  | .node k _ => some (.inl k)
  | .path role _ _ => some (.inr role)
  | _ => none

section Keeps

variable (p : Place)

theorem sort?_selfType (self : SelfPath) (role : PathRole) (n : AnchorNotes) :
    sort? ((p.selfType self role).run n).1 = some (.inr role) := by
  obtain ⟨change, notes, hchange⟩ : ∃ change notes,
      p.change self.leading (self.segments.map (·.1)) = (change, notes) := ⟨_, _, rfl⟩
  simp only [selfType, hchange]
  cases change <;> rfl

theorem sort?_path (between : AnchorNotes) (role : PathRole) (leading : Bool)
    (segments : List Segment) (anchored : List (Segment × AnchorNotes)) (n : AnchorNotes) :
    sort? ((p.path between role leading segments anchored).run n).1 = some (.inr role) := by
  unfold path
  split
  · rfl
  · split
    · rfl
    · obtain ⟨change, notes, hchange⟩ : ∃ change notes,
          p.change false segments = (change, notes) := ⟨_, _, rfl⟩
      simp only [hchange]
      cases change <;> rfl
    · next self _ _ =>
        split
        · exact p.sort?_selfType self role _
        · obtain ⟨change, notes, hchange⟩ : ∃ change notes,
              p.change self.leading (self.segments.map (·.1) ++ segments.drop 1)
                = (change, notes) := ⟨_, _, rfl⟩
          simp only [hchange]
          cases change <;> rfl

theorem anchor_type (t : Tree) : (p.anchor t).type = ((p.tree t).run {}).1 := rfl

/-- A node stays a node of its kind, and a path stays one in its role. -/
theorem sort?_anchor (t : Tree) : sort? (p.anchor t).type = sort? t := by
  rw [anchor_type, tree.eq_def]
  split
  case h_8 => exact p.sort?_path _ _ _ _ _ _
  all_goals rfl

theorem anchor_group (d : Code.Delimiter) (body : List Tree) :
    (p.anchor (.group d body)).type = .group d ((p.trees body).map Part.tree) := by
  rw [anchor_type, tree]
  exact congrArg (Tree.group d) (yields_noteParts (p.trees body)).run.1

/-- The trees of parts. -/
theorem map_tree_trees (ts : List Tree) :
    (p.trees ts).map Part.tree = ts.map fun t => (p.anchor t).type := by
  induction ts with
  | nil => rfl
  | cons t ts ih =>
      rw [trees.eq_def]
      split
      · next heq => cases heq
      · next d attrs body ts' heq =>
          cases heq
          have hbody := (yields_noteParts (p.trees body)).run.1
          show Tree.group d (((p.tree (.node .attributes attrs)).run {}).1
            :: ((noteParts (p.trees body)).run {}).1) :: (p.trees ts).map Part.tree = _
          rw [hbody, ih, List.map_cons, anchor_group, trees]
          · rfl
          · exact fun _ _ _ h => by cases h
      · next heq =>
          cases heq
          show ((p.tree t).run {}).1 :: (p.trees ts).map Part.tree = _
          rw [ih, List.map_cons, anchor_type]

/-- A node is anchored part by part, unless it is of one of four kinds. -/
theorem anchor_node {k : Kind} (hk : k ∉ [.boxPattern, .traitBound, .attributed, .receiver])
    (parts : List Tree) :
    (p.anchor (.node k parts)).type = .node k (parts.map fun t => (p.anchor t).type) := by
  simp only [List.mem_cons, not_or] at hk
  rw [anchor_type, ← map_tree_trees]
  rw [tree]
  · rfl
  · exact hk.1
  · exact fun _ _ _ _ _ _ _ h => absurd h hk.2.1
  · exact fun _ _ _ _ _ _ _ _ h => absurd h hk.2.1
  · exact fun _ _ _ _ h => absurd h hk.2.2.1
  · exact fun _ _ _ _ _ _ h => absurd h hk.2.2.2.1

theorem idents_names (segments : List Segment) :
    (p.names segments).map (fun a => a.1.ident) = segments.map Segment.ident := by
  induction segments with
  | nil => rfl
  | cons s ss ih =>
      rw [names, List.map_cons, List.map_cons, ih]
      obtain ⟨i, args⟩ := s
      cases args <;> simp only [arguments] <;> rfl

theorem anchor_other (leading : Bool) (segments : List Segment) :
    (p.anchor (.path .other leading segments)).type
      = .path .other leading ((p.names segments).map (·.1)) := by
  rw [anchor_type, tree, path, if_pos (by rfl)]
  exact congrArg (Tree.path .other leading) (yields_noteAll (p.names segments)).run.1

/-- Which path of that role was written, by the one that is emitted. -/
theorem exists_of_anchor_other {t : Tree} {leading : Bool} {emitted : List Segment}
    (h : (p.anchor t).type = .path .other leading emitted) : ∃ segments,
      t = .path .other leading segments
        ∧ segments.map Segment.ident = emitted.map Segment.ident := by
  have hsort := p.sort?_anchor t
  rw [h] at hsort
  cases t with
  | path role leading' segments =>
      obtain rfl : PathRole.other = role := by simpa [sort?] using hsort
      rw [anchor_other] at h
      obtain ⟨-, rfl, rfl⟩ := Tree.path.inj h
      refine ⟨segments, rfl, ?_⟩
      rw [List.map_map]
      exact (p.idents_names segments).symm
  | _ => simp [sort?] at hsort

theorem exists_of_anchor_node {t : Tree} {k : Kind} {emitted : List Tree}
    (hk : k ∉ [.boxPattern, .traitBound, .attributed, .receiver])
    (h : (p.anchor t).type = .node k emitted) : ∃ parts,
      t = .node k parts ∧ (parts.map fun t => (p.anchor t).type) = emitted := by
  have hsort := p.sort?_anchor t
  rw [h] at hsort
  cases t with
  | node k' parts =>
      obtain rfl : k = k' := by simpa [sort?] using hsort
      rw [anchor_node p hk] at h
      exact ⟨parts, rfl, (Tree.node.inj h).2⟩
  | _ => simp [sort?] at hsort

/-- The path of a node that stands apart from its parts is kept. -/
theorem apart_anchor (k : Kind) (parts : List Tree) :
    Tree.apart k (parts.map fun t => (p.anchor t).type) ⊆ Tree.apart k parts := by
  intro x hx
  unfold Tree.apart at hx
  split at hx
  case h_1 leading trait _ _ _ rest heq =>
    -- the trait of a type in angle brackets, and the names behind it
    simp only [List.map_eq_cons_iff, List.map_eq_nil_iff] at heq
    obtain ⟨_, _, rfl, -, _, _, rfl, -, c, _, rfl, hc, _, _, rfl, -, _, _, rfl, -, f, _, rfl, hf,
      rfl⟩ := heq
    obtain ⟨parts, rfl, hparts⟩ := p.exists_of_anchor_node (by decide) hc
    simp only [List.map_eq_cons_iff, List.map_eq_nil_iff] at hparts
    obtain ⟨_, _, rfl, -, q, _, rfl, hq, rfl⟩ := hparts
    obtain ⟨trait', rfl, htrait⟩ := p.exists_of_anchor_other hq
    obtain ⟨rest', rfl, hrest⟩ := p.exists_of_anchor_other hf
    rw [List.mem_singleton] at hx
    rw [hx, Tree.apart, Mention.ofPath, Mention.ofPath, List.map_append, List.map_append, htrait,
      hrest]
    exact List.mem_cons_self
  case h_2 rest heq =>
    -- the names behind a type in angle brackets
    simp only [List.map_eq_cons_iff, List.map_eq_nil_iff] at heq
    obtain ⟨_, _, rfl, -, _, _, rfl, -, c, _, rfl, hc, _, _, rfl, -, _, _, rfl, -, f, _, rfl, hf,
      rfl⟩ := heq
    obtain ⟨parts, rfl, hparts⟩ := p.exists_of_anchor_node (by decide) hc
    rw [List.map_eq_nil_iff] at hparts
    subst hparts
    obtain ⟨rest', rfl, hrest⟩ := p.exists_of_anchor_other hf
    rw [List.mem_singleton] at hx
    rw [hx, Tree.apart, Mention.ofPath, Mention.ofPath, hrest]
    exact List.mem_cons_self
  case h_3 leading segments _ heq =>
    -- the path in front of the fields of a struct
    simp only [List.map_eq_cons_iff, List.map_eq_nil_iff] at heq
    obtain ⟨h, _, rfl, hh, _, _, rfl, -, rfl⟩ := heq
    obtain ⟨segments', rfl, hsegments⟩ := p.exists_of_anchor_other hh
    rw [List.mem_singleton] at hx
    rw [hx, Tree.apart, Mention.ofPath, Mention.ofPath, hsegments]
    exact List.mem_cons_self
  case h_4 => cases hx

end Keeps

end Place

end BuilderForge
