import BuilderForge.Proofs.Anchoring.Values
import BuilderForge.Proofs.FieldChain.Lineage
import Mathlib.Data.List.Forall2

set_option autoImplicit false

/-! # Arguments of the names of an anchored type

A name in a path can have arguments, as `Vec` has in `Vec<Color>`. Anchoring replaces the path and
anchors the arguments, which then belong to the name at the same place, counted from the end of the
path. Where the path is replaced, only those of its last name have such a place, and the rest are
*cut off*, with all that stands in them. What is left is in one-to-one correspondence with what
stands in the anchored type (`keepsArguments_iff`).
-/

namespace BuilderForge

namespace Code

/-- A name of a path with the arguments that are written behind it. -/
structure Application where
  role : PathRole
  leading : Bool
  /-- All names of the path. -/
  names : List Ident
  /-- How many of them stand behind the one with the arguments. -/
  behind : Nat
  arguments : Tree

/-- The path by itself, without any arguments. -/
def Application.path (x : Application) : Tree :=
  .path x.role x.leading (x.names.map Segment.ofIdent)

namespace Tree

section Applications

variable (cut : Application → Bool)

mutual

/-- The names with arguments in a tree, at any depth, without those that are cut off and what stands
in their arguments. A box pattern is taken as it is written, like what is handed to a macro, and the
marks of a reference or a receiver hold no paths. -/
def applications : Tree → List Application
  | .group _ body => applicationsAll body
  | .node .boxPattern _ => []
  | .node .receiver [attrs, _, _, _, _, .node .absent [], _] => applications attrs
  | .node .receiver [attrs, _, _, _, _, _, type] => applications attrs ++ applications type
  | .node .referenceType [_, _, _, type] => applications type
  | .node _ parts => applicationsAll parts
  | .path role leading segments =>
      segmentApplications role leading (segments.map Segment.ident) segments
  | _ => []

/-- The names with arguments in trees. -/
def applicationsAll : List Tree → List Application
  | [] => []
  | t :: ts => applications t ++ applicationsAll ts

/-- The names with arguments at the end of a path of these names. -/
def segmentApplications (role : PathRole) (leading : Bool) (names : List Ident) :
    List Segment → List Application
  | [] => []
  | .mk _ none :: ss => segmentApplications role leading names ss
  | .mk _ (some a) :: ss =>
      let x : Application := ⟨role, leading, names, ss.length, a⟩
      (if cut x then [] else x :: applications a) ++ segmentApplications role leading names ss

end

/-- What stands in front can be left out where all of it is cut off. -/
theorem segmentApplications_append (role : PathRole) (leading : Bool) (names : List Ident)
    (front back : List Segment)
    (h : ∀ s ∈ front, ∀ a, s.arguments = some a → ∀ n, back.length ≤ n →
      cut ⟨role, leading, names, n, a⟩ = true) :
    segmentApplications cut role leading names (front ++ back)
      = segmentApplications cut role leading names back := by
  induction front with
  | nil => rfl
  | cons s front ih =>
      obtain ⟨hs, hfront⟩ := List.forall_mem_cons.mp h
      obtain ⟨i, args⟩ := s
      cases args with
      | none => exact ih hfront
      | some a =>
          rw [List.cons_append, segmentApplications, ih hfront,
            if_pos (hs a rfl _ (by rw [List.length_append]; omega))]
          rfl

theorem segmentApplications_ofIdent (role : PathRole) (leading : Bool) (names idents : List Ident) :
    segmentApplications cut role leading names (idents.map Segment.ofIdent) = [] := by
  have h := segmentApplications_append cut role leading names (idents.map Segment.ofIdent) []
    (by simp [Segment.ofIdent, Segment.arguments])
  rwa [List.append_nil] at h

theorem applications_typed (attrs ampersand name isMutable word : Tree) {colon : Tree}
    (hcolon : colon ≠ .node .absent []) (type : Tree) :
    applications cut (.node .receiver [attrs, ampersand, name, isMutable, word, colon, type])
      = applications cut attrs ++ applications cut type := by
  rw [applications]
  exact hcolon

theorem applications_node {k : Kind} {parts : List Tree} (hbox : k ≠ .boxPattern)
    (hreceiver : k = .receiver → parts.length ≠ 7)
    (hreference : k = .referenceType → parts.length ≠ 4) :
    applications cut (.node k parts) = applicationsAll cut parts := by
  rw [applications]
  · exact hbox
  · exact fun _ _ _ _ _ _ hk hparts => hreceiver hk (by rw [hparts]; rfl)
  · exact fun _ _ _ _ _ _ _ hk hparts => hreceiver hk (by rw [hparts]; rfl)
  · exact fun _ _ _ _ hk hparts => hreference hk (by rw [hparts]; rfl)

end Applications

/-! ## Cutting off -/

/-- What is left of names with arguments when some are cut off. -/
structure Trimmed (cut : Application → Bool) (kept all : List Application) : Prop where
  sublist : kept.Sublist all
  uncut : ∀ x ∈ kept, cut x = false
  whole : (∀ x ∈ all, cut x = false) → kept = all

namespace Trimmed

variable {cut : Application → Bool} {kept kept' all all' : List Application}

theorem nil : Trimmed cut [] [] := ⟨.slnil, List.forall_mem_nil _, fun _ => rfl⟩

theorem append (h : Trimmed cut kept all) (h' : Trimmed cut kept' all') :
    Trimmed cut (kept ++ kept') (all ++ all') where
  sublist := h.sublist.append h'.sublist
  uncut := List.forall_mem_append.mpr ⟨h.uncut, h'.uncut⟩
  whole hall := by
    obtain ⟨hleft, hright⟩ := List.forall_mem_append.mp hall
    rw [h.whole hleft, h'.whole hright]

theorem cons (x : Application) (h : Trimmed cut kept all) :
    Trimmed cut (if cut x then [] else x :: kept) (x :: all) := by
  cases hx : cut x with
  | true =>
      refine ⟨List.nil_sublist _, List.forall_mem_nil _, fun hall => ?_⟩
      exact absurd (hall x List.mem_cons_self) (by rw [hx]; decide)
  | false =>
      refine ⟨h.sublist.cons_cons x, List.forall_mem_cons.mpr ⟨hx, h.uncut⟩, fun hall => ?_⟩
      exact congrArg (x :: ·) (h.whole (List.forall_mem_cons.mp hall).2)

end Trimmed

/-- All names with arguments in a tree. -/
def allApplications (t : Tree) : List Application := t.applications fun _ => false

/-- The induction is on the way that names with arguments are found. -/
theorem trimmed_all (cut : Application → Bool) :
    (∀ t : Tree, Trimmed cut (t.applications cut) t.allApplications)
    ∧ (∀ role leading names ss, Trimmed cut (segmentApplications cut role leading names ss)
        (segmentApplications (fun _ => false) role leading names ss))
    ∧ ∀ ts, Trimmed cut (applicationsAll cut ts) (applicationsAll (fun _ => false) ts) := by
  refine applications.mutual_induct _ _ _ ?group ?boxPattern ?receiver ?typed ?reference ?node ?path
    ?leaf ?nil ?cons ?noNames ?bare ?args
  case group => exact fun d body ih => ih
  case boxPattern => exact fun parts => .nil
  case receiver => exact fun attrs _ _ _ _ _ ih => ih
  case typed =>
    intro attrs _ _ _ _ colon type hcolon hattrs htype
    rw [allApplications, applications, applications]
    · exact hattrs.append htype
    all_goals exact hcolon
  case reference => exact fun _ _ _ type ih => ih
  case node =>
    intro k parts hbox hreceiver htyped hreference ih
    rw [allApplications, applications, applications]
    · exact ih
    all_goals assumption
  case path => exact fun role leading segments ih => ih
  case leaf =>
    intro t hgroup hbox hreceiver htyped hreference hnode hpath
    rw [allApplications, applications, applications]
    · exact .nil
    all_goals assumption
  case nil => exact .nil
  case cons => exact fun t ts ht hts => ht.append hts
  case noNames => exact fun role leading names => .nil
  case bare => exact fun role leading names i ss ih => ih
  case args =>
    intro role leading names i a ss ha hss
    exact (ha.cons ⟨role, leading, names, ss.length, a⟩).append hss

end Tree

end Code

open Code (Application Ident PathRole Segment Tree)

/-! ## What is cut off -/

namespace Place

variable (p : Place)

/-- Whether arguments are cut off: those of `Self` where it stands for a path, and those of every
name but the last where the path is replaced. -/
def cuts (x : Application) : Bool :=
  let o := p.opening x.role x.leading x.names
  x.names.length < x.behind + 1 + o.1.skipped || match o.2 with
    | .keep => false
    | .replace _ names => x.behind ≠ 0 || names.isEmpty

/-- The arguments `y` are the arguments `x`, anchored. They belong to the name at the same place of
the anchored path. -/
structure Rewrites (x y : Application) : Prop where
  path : y.path = (p.anchor x.path).type
  behind : y.behind = x.behind
  arguments : y.arguments = (p.anchor x.arguments).type

/-- The names with arguments that are not cut off are those of the anchored tree. -/
def KeepsUncut (t : Tree) : Prop :=
  List.Forall₂ p.Rewrites (t.applications p.cuts) (p.anchor t).type.allApplications

/-! ## Paths -/

theorem idents_rebuilt (names : List String) (args : Option Tree) :
    (rebuilt names args).map Segment.ident = names.map identFor := by
  induction names with
  | nil => rfl
  | cons name more ih =>
      cases more with
      | nil => rfl
      | cons =>
          rw [rebuilt, List.map_cons, ih]
          · rfl
          · exact fun h => by cases h

/-- Only the last name of a new path has arguments. -/
theorem segmentApplications_rebuilt (cut : Application → Bool) (role : PathRole) (leading : Bool)
    (idents : List Ident) {names : List String} (hnames : names ≠ []) (i : Ident)
    (args : Option Tree) :
    Tree.segmentApplications cut role leading idents (rebuilt names args)
      = Tree.segmentApplications cut role leading idents [.mk i args] := by
  induction names with
  | nil => exact absurd rfl hnames
  | cons name more ih =>
      cases more with
      | nil => cases args <;> rfl
      | cons =>
          rw [rebuilt]
          · exact ih (List.cons_ne_nil _ _)
          · exact fun h => by cases h

/-- They are those of the last name of the path that is replaced. -/
theorem segmentApplications_rebuilt_append (cut : Application → Bool) (role : PathRole)
    (leading : Bool) (idents : List Ident) {names : List String} (hnames : names ≠ [])
    (front : List Segment) (last : Segment) :
    Tree.segmentApplications cut role leading idents
        (rebuilt names (lastArguments? (front ++ [last])))
      = Tree.segmentApplications cut role leading idents [last] := by
  rw [lastArguments?, List.getLast?_concat]
  obtain ⟨i, args⟩ := last
  exact segmentApplications_rebuilt cut role leading idents hnames i args

variable {p}

/-- Names that stay with their arguments. `names` are those of the path that they are part of, and
`names'` are those of the anchored path, which they are at the end of, too. -/
theorem forall₂_kept (role : PathRole) {leading leading' : Bool} {names names' : List Ident}
    (hpath : Tree.path role leading' (names'.map Segment.ofIdent)
      = (p.anchor (.path role leading (names.map Segment.ofIdent))).type)
    (segments : List Segment)
    (hcuts : ∀ n < segments.length, ∀ a, p.cuts ⟨role, leading, names, n, a⟩ = false)
    (hargs : ∀ s ∈ segments, ∀ a, s.arguments = some a → p.KeepsUncut a) :
    List.Forall₂ p.Rewrites (Tree.segmentApplications p.cuts role leading names segments)
      (Tree.segmentApplications (fun _ => false) role leading' names'
        (segments.map p.anchorSegment)) := by
  induction segments with
  | nil => exact .nil
  | cons s segments ih =>
      obtain ⟨hs, hrest⟩ := List.forall_mem_cons.mp hargs
      have ih := ih (fun n hn => hcuts n (Nat.lt_succ_of_lt hn)) hrest
      obtain ⟨i, args⟩ := s
      cases args with
      | none => exact ih
      | some a =>
          -- as many names are behind this one in both paths
          rw [List.map_cons, anchorSegment, Option.map_some, Tree.segmentApplications,
            Tree.segmentApplications, hcuts _ (Nat.lt_succ_self _), List.length_map]
          refine List.rel_append (List.Forall₂.cons ⟨hpath, rfl, rfl⟩ (hs a rfl)) ih

/-- What becomes of a path does not depend on its arguments. -/
theorem anchor_bare (hplain : p.SelfPlain) (role : PathRole) (leading : Bool)
    (idents : List Ident) :
    (p.anchor (.path role leading (idents.map Segment.ofIdent))).type
      = reopened role (p.opening role leading idents) (idents.map Segment.ofIdent) := by
  rw [anchor_path hplain, map_ident_ofIdent, p.anchorSegment_ofIdent]

theorem cuts_of_skipped {role : PathRole} {leading : Bool} {names : List Ident} {n : Nat}
    (h : names.length < n + 1 + (p.opening role leading names).1.skipped) (a : Tree) :
    p.cuts ⟨role, leading, names, n, a⟩ = true := by
  rw [cuts, decide_eq_true h, Bool.true_or]

theorem cuts_of_keep {role : PathRole} {leading : Bool} {names : List Ident} {n : Nat}
    (hkeep : (p.opening role leading names).2 = .keep)
    (h : n + (p.opening role leading names).1.skipped < names.length) (a : Tree) :
    p.cuts ⟨role, leading, names, n, a⟩ = false := by
  simp only [cuts, hkeep, Bool.or_false, decide_eq_false_iff_not]
  omega

theorem cuts_of_replace {role : PathRole} {leading leading' : Bool} {names : List Ident}
    {new : List String} {n : Nat}
    (hreplace : (p.opening role leading names).2 = .replace leading' new)
    (h : n ≠ 0 ∨ new = []) (a : Tree) : p.cuts ⟨role, leading, names, n, a⟩ = true := by
  simpa [cuts, hreplace] using Or.inr h

theorem cuts_of_last {role : PathRole} {leading leading' : Bool} {names : List Ident}
    {new : List String} (hreplace : (p.opening role leading names).2 = .replace leading' new)
    (hnew : new ≠ []) (h : (p.opening role leading names).1.skipped < names.length) (a : Tree) :
    p.cuts ⟨role, leading, names, 0, a⟩ = false := by
  simp only [cuts, hreplace, ne_eq, not_true_eq_false, decide_false, Bool.false_or,
    Bool.or_eq_false_iff, decide_eq_false_iff_not, List.isEmpty_eq_false_iff]
  exact ⟨by omega, hnew⟩

/-- The arguments of skipped names are cut off. -/
theorem segmentApplications_drop (role : PathRole) (leading : Bool) (segments : List Segment) :
    let idents := segments.map Segment.ident
    Tree.segmentApplications p.cuts role leading idents segments
      = Tree.segmentApplications p.cuts role leading idents
          (segments.drop (p.opening role leading idents).1.skipped) := by
  intro idents
  have hlength : idents.length = segments.length := List.length_map _
  have h := Tree.segmentApplications_append p.cuts role leading idents
    (segments.take (p.opening role leading idents).1.skipped)
    (segments.drop (p.opening role leading idents).1.skipped) fun _ _ a _ n hn => by
      rw [List.length_drop] at hn
      exact cuts_of_skipped (by omega) a
  rwa [List.take_append_drop] at h

/-- A path that stays, but for what stands for `Self`, keeps all arguments behind that. -/
theorem keepsUncut_of_keep (hplain : p.SelfPlain) (role : PathRole) (leading : Bool)
    (segments : List Segment) (hargs : ∀ s ∈ segments, ∀ a, s.arguments = some a → p.KeepsUncut a)
    (hkeep : (p.opening role leading (segments.map Segment.ident)).2 = .keep) :
    p.KeepsUncut (.path role leading segments) := by
  have hlength : (segments.map Segment.ident).length = segments.length := List.length_map _
  have hbare := anchor_bare hplain role leading (segments.map Segment.ident)
  rw [KeepsUncut, anchor_path hplain, Tree.applications, segmentApplications_drop]
  rw [reopened, hkeep] at hbare ⊢
  obtain ⟨o, ho⟩ : ∃ o, (p.opening role leading (segments.map Segment.ident)).1 = o := ⟨_, rfl⟩
  rw [ho, ← List.map_drop] at hbare ⊢
  rw [← List.map_append] at hbare
  have hfront : (o.names.map Segment.ofIdent
        ++ (segments.drop o.skipped).map p.anchorSegment).map Segment.ident
      = o.names ++ (segments.map Segment.ident).drop o.skipped := by
    rw [List.map_append, map_ident_ofIdent, ident_anchorSegment, List.map_drop]
  rw [Tree.allApplications, Tree.applications, hfront, Tree.segmentApplications_append]
  · refine forall₂_kept role hbare.symm _ (fun n hn a => cuts_of_keep hkeep ?_ a) fun s hs =>
      hargs s (List.mem_of_mem_drop hs)
    rw [List.length_drop] at hn
    rw [ho]
    omega
  · -- what stands for `Self` has no arguments
    intro s hs a ha
    obtain ⟨i, -, rfl⟩ := List.mem_map.mp hs
    cases ha

theorem lastArguments?_ofIdent (idents : List Ident) :
    lastArguments? (idents.map Segment.ofIdent) = none := by
  rw [lastArguments?, List.getLast?_map]
  cases idents.getLast? <;> rfl

/-- A path that is replaced keeps the arguments of its last name. -/
theorem keepsUncut_of_replace (hplain : p.SelfPlain) (role : PathRole) (leading : Bool)
    (segments : List Segment) (hargs : ∀ s ∈ segments, ∀ a, s.arguments = some a → p.KeepsUncut a)
    {leading' : Bool} {new : List String}
    (hreplace : (p.opening role leading (segments.map Segment.ident)).2 = .replace leading' new) :
    p.KeepsUncut (.path role leading segments) := by
  have hlength : (segments.map Segment.ident).length = segments.length := List.length_map _
  have hbare := anchor_bare hplain role leading (segments.map Segment.ident)
  rw [KeepsUncut, anchor_path hplain, Tree.applications, segmentApplications_drop]
  rw [reopened, hreplace] at hbare ⊢
  rw [← List.map_drop] at hbare ⊢
  obtain ⟨o, ho⟩ : ∃ o, (p.opening role leading (segments.map Segment.ident)).1 = o := ⟨_, rfl⟩
  simp only [lastArguments?_ofIdent, rebuilt_none] at hbare
  rw [ho, Tree.allApplications, Tree.applications, idents_rebuilt]
  by_cases hnew : new = []
  · -- there is no name that could have them
    subst hnew
    rw [← List.append_nil (segments.drop o.skipped), Tree.segmentApplications_append]
    · exact .nil
    · exact fun _ _ a _ n _ => cuts_of_replace hreplace (.inr rfl) a
  obtain hnil | ⟨front, last, hdrop⟩ := List.eq_nil_or_concat (segments.drop o.skipped)
  · -- all of its names are skipped
    rw [hnil, List.map_nil, lastArguments?, List.getLast?_nil, Option.bind_none, rebuilt_none,
      Tree.segmentApplications_ofIdent]
    exact .nil
  rw [List.concat_eq_append] at hdrop
  have hmem : last ∈ segments := List.mem_of_mem_drop (by rw [hdrop]; simp)
  have hskipped : o.skipped < segments.length := by
    have h := congrArg List.length hdrop
    rw [List.length_drop, List.length_append, List.length_singleton] at h
    omega
  rw [hdrop, List.map_append, List.map_singleton, segmentApplications_rebuilt_append _ _ _ _ hnew,
    Tree.segmentApplications_append]
  · refine forall₂_kept role hbare.symm [last] (fun n hn a => ?_) fun s hs => ?_
    · obtain rfl : n = 0 := Nat.lt_one_iff.mp hn
      exact cuts_of_last hreplace hnew (by rw [ho, hlength]; exact hskipped) a
    · rw [List.mem_singleton.mp hs]
      exact hargs last hmem
  · -- every other name has the last one behind it
    exact fun _ _ a _ n hn => cuts_of_replace hreplace (.inl (Nat.ne_of_gt hn)) a

theorem keepsUncut_path (hplain : p.SelfPlain) (role : PathRole) (leading : Bool)
    (segments : List Segment)
    (hargs : ∀ s ∈ segments, ∀ a, s.arguments = some a → p.KeepsUncut a) :
    p.KeepsUncut (.path role leading segments) := by
  cases h : (p.opening role leading (segments.map Segment.ident)).2 with
  | keep => exact keepsUncut_of_keep hplain role leading segments hargs h
  | replace => exact keepsUncut_of_replace hplain role leading segments hargs h

/-! ## Nodes -/

theorem applications_plain (cut : Application → Bool) {t : Tree} (h : Plain t) :
    t.applications cut = [] := by
  induction h with
  | path role leading idents => exact Tree.segmentApplications_ofIdent cut role leading _ idents
  | reference _ _ _ _ ih => exact ih

/-- The attributes of a receiver without a type are anchored, and the type it is given has no
arguments. -/
theorem keepsUncut_receiver (hplain : p.SelfPlain)
    {attrs : Tree} (hattrs : p.KeepsUncut attrs) (ampersand name isMutable word implied : Tree) :
    p.KeepsUncut
      (.node .receiver [attrs, ampersand, name, isMutable, word, .node .absent [], implied]) := by
  obtain ⟨_, _, _, _, colon, type, htype, hcolon⟩ :=
    p.anchor_receiver hplain attrs ampersand name isMutable word implied
  rw [KeepsUncut, htype]
  by_cases habsent : colon = .node .absent []
  · rw [habsent]
    exact hattrs
  · rw [Tree.allApplications, Tree.applications_typed _ _ _ _ _ _ habsent,
      applications_plain _ (hcolon.resolve_left habsent), List.append_nil]
    exact hattrs

/-- What is anchored to a missing part is one. -/
theorem anchor_eq_absent {t : Tree} (h : (p.anchor t).type = .node .absent []) :
    t = .node .absent [] := by
  obtain ⟨parts, rfl, hparts⟩ := p.exists_of_anchor_node (by decide) h
  rw [List.map_eq_nil_iff.mp hparts]

theorem keepsUncut_typed {attrs type colon : Tree} (hattrs : p.KeepsUncut attrs)
    (htype : p.KeepsUncut type) (hcolon : colon ≠ .node .absent [])
    (ampersand name isMutable word : Tree) :
    p.KeepsUncut (.node .receiver [attrs, ampersand, name, isMutable, word, colon, type]) := by
  rw [KeepsUncut, Tree.applications_typed _ _ _ _ _ _ hcolon, anchor_typed_receiver,
    Tree.allApplications]
  · simp only [List.map_cons, List.map_nil]
    rw [Tree.applications_typed _ _ _ _ _ _ fun h => hcolon (anchor_eq_absent h)]
    exact List.rel_append hattrs htype
  · exact fun _ _ _ _ _ _ h => hcolon (by simp at h; exact h.2.2.2.2.2.1)

/-- A node is anchored part by part. -/
theorem keepsUncut_node (hplain : p.SelfPlain) {k : Code.Kind} {parts : List Tree}
    (hbox : k ≠ .boxPattern) (hreceiver : k = .receiver → parts.length ≠ 7)
    (hreference : k = .referenceType → parts.length ≠ 4)
    (hparts : List.Forall₂ p.Rewrites (Tree.applicationsAll p.cuts parts)
      (Tree.applicationsAll (fun _ => false) (parts.map fun t => (p.anchor t).type))) :
    p.KeepsUncut (.node k parts) := by
  have hanchor : (p.anchor (.node k parts)).type
      = .node k (parts.map fun t => (p.anchor t).type) := by
    by_cases hk : k = .receiver
    · subst hk
      exact p.anchor_typed_receiver fun _ _ _ _ _ _ h => hreceiver rfl (by rw [h]; rfl)
    · exact p.anchor_node_parts hplain (by simp [hbox, hk]) parts
  rw [KeepsUncut, hanchor, Tree.applications_node _ hbox hreceiver hreference,
    Tree.allApplications, Tree.applications_node _ hbox (by rwa [List.length_map])
      (by rwa [List.length_map])]
  exact hparts

/-- Every tree keeps what is not cut off. The induction is on the way that names with arguments are
found. -/
theorem keepsUncut_all (hplain : p.SelfPlain) : (∀ t, p.KeepsUncut t)
    ∧ (∀ (_ : PathRole) (_ : Bool) (_ : List Ident) (ss : List Segment),
        ∀ s ∈ ss, ∀ a, s.arguments = some a → p.KeepsUncut a)
    ∧ ∀ ts, List.Forall₂ p.Rewrites (Tree.applicationsAll p.cuts ts)
        (Tree.applicationsAll (fun _ => false) (ts.map fun t => (p.anchor t).type)) := by
  refine Code.Tree.applications.mutual_induct _ _ _ ?group ?boxPattern ?receiver ?typed ?reference
    ?node ?path ?leaf ?nil ?cons ?noNames ?bare ?args
  case group =>
    intro d body ih
    rw [KeepsUncut, anchor_group, map_tree_trees]
    exact ih
  case boxPattern => exact fun parts => .nil
  case receiver =>
    exact fun attrs ampersand name isMutable word implied hattrs =>
      keepsUncut_receiver hplain hattrs ampersand name isMutable word implied
  case typed =>
    exact fun attrs ampersand name isMutable word colon type hcolon hattrs htype =>
      keepsUncut_typed hattrs htype hcolon ampersand name isMutable word
  case reference =>
    intro _ _ _ type ih
    rw [KeepsUncut, p.anchor_node_parts hplain (by decide)]
    exact ih
  case node =>
    intro k parts hbox _ htyped hreference ih
    refine keepsUncut_node hplain hbox (fun hk hlength => ?_) (fun hk hlength => ?_) ih
    · match parts, hlength with
      | [_, _, _, _, _, _, _], _ => exact htyped _ _ _ _ _ _ _ hk rfl
    · match parts, hlength with
      | [_, _, _, _], _ => exact hreference _ _ _ _ hk rfl
  case path => exact fun role leading segments ih => keepsUncut_path hplain role leading segments ih
  case leaf =>
    intro t hgroup _ _ _ _ hnode hpath
    cases t with
    | group d body => exact absurd rfl (hgroup d body)
    | node k parts => exact absurd rfl (hnode k parts)
    | path role leading segments => exact absurd rfl (hpath role leading segments)
    | word | op | lifetime | literal | raw => exact .nil
  case nil => exact .nil
  case cons => exact fun t ts ht hts => List.rel_append ht hts
  case noNames => exact fun role leading names => List.forall_mem_nil _
  case bare =>
    exact fun role leading names i ss ih => List.forall_mem_cons.mpr ⟨fun a h => (by cases h), ih⟩
  case args =>
    intro role leading names i a ss ha hss
    refine List.forall_mem_cons.mpr ⟨fun a' h => ?_, hss⟩
    obtain rfl := Option.some.inj h
    exact ha

/-! ## Places without arguments for `Self` -/

theorem selfPlain_withSelf {path : Code.Path} (hplain : path.isPlain = true) :
    (p.withSelf path).SelfPlain := by
  intro self hself s hs
  obtain rfl := Option.some.inj hself
  obtain ⟨s, hmem, rfl⟩ := List.mem_map.mp hs
  have hnone := List.all_eq_true.mp hplain s hmem
  obtain ⟨i, args⟩ := s
  cases args with
  | none => rfl
  | some => cases hnone

/-- The types of fields are anchored at such places. -/
theorem selfPlain_place (r : Registry) (d : Declaration) : (FieldChain.place r d).SelfPlain := by
  refine selfPlain_withSelf ?_
  rw [Declaration.typePath]
  split
  · rfl
  · refine List.all_eq_true.mpr fun s hs => ?_
    obtain ⟨i, -, rfl⟩ := List.mem_map.mp hs
    rfl

/-- **Arguments are kept exactly where none is cut off.** -/
theorem keepsArguments_iff (p : Place) (hplain : p.SelfPlain) (t : Tree) :
    List.Forall₂ p.Rewrites (t.applications p.cuts) (p.anchor t).type.allApplications
    ∧ (t.applications p.cuts).Sublist t.allApplications
    ∧ (List.Forall₂ p.Rewrites t.allApplications (p.anchor t).type.allApplications
        ↔ ∀ x ∈ t.allApplications, p.cuts x = false) := by
  have hkept := (keepsUncut_all hplain).1 t
  have htrimmed := (Tree.trimmed_all p.cuts).1 t
  refine ⟨hkept, htrimmed.sublist, fun hall => ?_, fun huncut => ?_⟩
  · have hlength := hkept.length_eq.trans hall.length_eq.symm
    rw [← htrimmed.sublist.eq_of_length hlength]
    exact htrimmed.uncut
  · rw [← htrimmed.whole huncut]
    exact hkept

/-! ## Arguments of an inner name

The crate has a type `Size`. -/

def sizeSources : SourceSet where
  files := [⟨"src/lib.rs", .root, [], [.unitStruct .everywhere "Size"]⟩]

def sizeType : Declaration :=
  (Declaration.ofStruct .root ⟨"Size", false⟩ [] false .unit).1

/-- Arguments in angle brackets. -/
def angleArgs (colons argument : Tree) : Tree :=
  .node .angleArgs [colons, .op "<", .node .parameters [argument], .op ">"]

/-- The type `Vec<Size<Self>>`. -/
def nestedSizes : Tree :=
  .path .type false [.mk ⟨"Vec", false⟩ (some (angleArgs Tree.absent
    (.path .type false [.mk ⟨"Size", false⟩ (some (angleArgs Tree.absent
      (.path .type false [.ofIdent ⟨"Self", false⟩])))])))]

/-- The type `[u8; Size::<4>::LEN]`. -/
def sizedArray : Tree :=
  .node .arrayType [.group .bracket [
    .path .type false [.ofIdent ⟨"u8", false⟩], .op ";",
    .path .value false [
      .mk ⟨"Size", false⟩ (some (angleArgs (.op "::") (.node .constArg [.literal "4"]))),
      .ofIdent ⟨"LEN", false⟩]]]

/-- Arguments of last names are kept, also those in arguments. -/
theorem rewrites_nestedSizes :
    let p := FieldChain.place (.ofSources sizeSources) sizeType
    (p.anchor nestedSizes).type.display = "Vec < crate :: Size < crate :: Size > >"
    ∧ p.SelfPlain
    ∧ List.Forall₂ p.Rewrites nestedSizes.allApplications
        (p.anchor nestedSizes).type.allApplications := by
  intro p
  have hplain : p.SelfPlain := selfPlain_place _ _
  obtain ⟨-, -, hiff⟩ := keepsArguments_iff p hplain nestedSizes
  have huncut : ∀ x ∈ nestedSizes.allApplications, p.cuts x = false := by decide +kernel
  exact ⟨by decide +kernel, hplain, hiff.mpr huncut⟩

/-- Those of the inner name of a constant are lost. -/
theorem not_rewrites_sizedArray :
    ¬ ∀ (r : Registry) (m : ModulePath) (t : Tree),
      let p : Place := ⟨r, m, none⟩
      List.Forall₂ p.Rewrites t.allApplications (p.anchor t).type.allApplications := by
  intro hall
  have hlength := (hall (.ofSources sizeSources) .root sizedArray).length_eq
  revert hlength
  decide +kernel

end Place

end BuilderForge
