import BuilderForge.Anchoring

set_option autoImplicit false

/-! # What anchoring depends on

Of the place where a type is written, anchoring asks what becomes of paths (`Place.change`) and what
`Self` stands for. Two places that answer alike anchor every type alike (`Place.ChangesAlike.anchor_eq`).
-/

namespace BuilderForge

open Code (Tree Segment Path PathRole)

namespace Place

/-- The same becomes of every path at both places, and `Self` stands for the same. -/
structure ChangesAlike (p p' : Place) : Prop where
  self : p'.self = p.self
  change : ∀ leading segments, p'.change leading segments = p.change leading segments

namespace ChangesAlike

variable {p p' : Place} (h : p.ChangesAlike p')

include h

theorem selfType_eq (self : SelfPath) (role : PathRole) :
    p'.selfType self role = p.selfType self role := by
  simp only [selfType, h.change]

theorem receiver_eq (ampersand name isMutable word : Tree) :
    p'.receiver ampersand name isMutable word = p.receiver ampersand name isMutable word := by
  simp only [receiver, h.self, h.selfType_eq]

theorem path_eq (between : AnchorNotes) (role : PathRole) (leading : Bool)
    (segments : List Segment) (anchored : List (Segment × AnchorNotes)) :
    p'.path between role leading segments anchored
      = p.path between role leading segments anchored := by
  simp only [path, h.self, h.change, h.selfType_eq]

/-- Trees, names, arguments and the parts of a node become the same. The induction is on the way that
anchoring takes at `p`. -/
theorem all_eq : (∀ t, p'.tree t = p.tree t) ∧ (∀ segments, p'.names segments = p.names segments)
    ∧ (∀ s, p'.arguments s = p.arguments s) ∧ ∀ ts, p'.trees ts = p.trees ts := by
  refine Place.tree.mutual_induct p _ _ _ _ ?group ?boxPattern ?traitBound ?grouped ?attributed
    ?receiver ?node ?path ?leaf ?bare ?args ?nil ?body ?cons ?noNames ?names
  case group =>
    intro d body ih
    simp only [tree, ih]
  case boxPattern =>
    intro parts
    simp only [tree]
  case traitBound =>
    intro early mark question late role leading segments hnames hearly hmark hquestion hlate
    simp only [tree, hearly, hmark, hquestion, hlate, hnames, h.path_eq]
  case grouped =>
    intro d early mark question late role leading segments hnames hearly hmark hquestion hlate
    simp only [tree, hearly, hmark, hquestion, hlate, hnames, h.path_eq]
  case attributed =>
    intro attrs role leading segments _ _ _ hattrs hnames
    simp only [tree, hattrs, hnames, h.path_eq]
  case receiver =>
    intro attrs ampersand name isMutable word type hattrs hampersand hname hmutable hword
    simp only [tree, hattrs, hampersand, hname, hmutable, hword, h.receiver_eq]
  case node =>
    intro k parts hbox hbound hgrouped hattributed hreceiver ih
    rw [tree, tree, ih] <;> assumption
  case path =>
    intro role leading segments hnames
    simp only [tree, hnames, h.path_eq]
  case leaf =>
    intro t hgroup hbox hbound hgrouped hattributed hreceiver hnode hpath
    rw [tree, tree] <;> assumption
  case bare => exact fun i => rfl
  case args =>
    intro i a ih
    simp only [arguments, ih]
  case nil => rfl
  case body =>
    intro d attrs body ts _ _ _ _ _ _ hattrs hbody hts
    simp only [trees, hattrs, hbody, hts]
  case cons =>
    intro t ts hbody _ _ _ ht hts
    rw [trees, trees, ht, hts] <;> assumption
  case noNames => rfl
  case names =>
    intro s ss hs hss
    simp only [names, hs, hss]

theorem anchor_eq (t : Tree) : p'.anchor t = p.anchor t := by
  rw [anchor, anchor, h.all_eq.1]

end ChangesAlike

end Place

end BuilderForge
