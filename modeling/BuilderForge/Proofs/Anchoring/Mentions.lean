import BuilderForge.Code.Tree
import Mathlib.Data.List.Basic

set_option autoImplicit false

/-! # The paths in code

The paths that name a type, a value or the trait of a bound, read off a tree (`mentions`). Two sorts
of path count among them that stand apart in the tree: one behind a type in angle brackets, as in
`<Car as Paint>::Color`, and one in front of the fields of a struct. A box pattern is taken as it is
written, like what is handed to a macro.
-/

namespace BuilderForge.Code

/-- A path as it stands in code, without the arguments of its names. -/
structure Mention where
  leading : Bool
  idents : List Ident
  /-- Whether it stands behind a type in angle brackets or in front of the fields of a struct. -/
  apart : Bool
  deriving DecidableEq, Repr

namespace Mention

def ofPath (apart leading : Bool) (segments : List Segment) : Mention :=
  ⟨leading, segments.map Segment.ident, apart⟩

/-- The path by itself. -/
def path (x : Mention) : Path := ⟨x.leading, x.idents.map Segment.ofIdent⟩

/-- How the names of the path are written. -/
def written (x : Mention) : String := "::".intercalate (x.idents.map Ident.text)

/-- Whether the first name is written as `s`. -/
def beginsWith (x : Mention) (s : String) : Bool := x.idents.head?.any fun i => i.isWritten s

/-- Whether the path means the same in every module: it begins with `::` or with `crate`. -/
def isAbsolute (x : Mention) : Bool := x.leading || x.beginsWith "crate"

end Mention

namespace Tree

/-- The path of a node that holds one apart from the paths inside of its parts. The trait of a type
in angle brackets is in front of the names behind it; without one the path begins with `::`. -/
def apart : Kind → List Tree → List Mention
  | .qualified, [_, _, .node .asTrait [_, .path .other leading trait], _, _, .path .other _ rest] =>
      [.ofPath true leading (trait ++ rest)]
  | .qualified, [_, _, .node .absent [], _, _, .path .other _ rest] => [.ofPath true true rest]
  | .structExpr, [.path .other leading segments, _] => [.ofPath true leading segments]
  | _, _ => []

mutual

/-- The paths in a tree. -/
def mentions : Tree → List Mention
  | .group _ body => mentionsAll body
  | .node k parts => if k = .boxPattern then [] else apart k parts ++ mentionsAll parts
  | .path role leading segments =>
      (if role = .other then [] else [.ofPath false leading segments]) ++ segmentMentions segments
  | _ => []

/-- The paths in trees. -/
def mentionsAll : List Tree → List Mention
  | [] => []
  | t :: ts => mentions t ++ mentionsAll ts

/-- The paths in the arguments of a name. -/
def argumentMentions : Segment → List Mention
  | .mk _ none => []
  | .mk _ (some a) => mentions a

/-- The paths in the arguments of names. -/
def segmentMentions : List Segment → List Mention
  | [] => []
  | s :: ss => argumentMentions s ++ segmentMentions ss

end

theorem apart_of_mem_apart {x : Mention} {k : Kind} {parts : List Tree} (h : x ∈ apart k parts) :
    x.apart = true := by
  unfold apart at h
  split at h
  case h_4 => cases h
  all_goals
    obtain rfl := List.mem_singleton.mp h
    rfl

theorem mem_mentionsAll {x : Mention} {ts : List Tree} :
    x ∈ mentionsAll ts ↔ ∃ t ∈ ts, x ∈ mentions t := by
  induction ts with
  | nil => simp [mentionsAll]
  | cons t ts ih => rw [mentionsAll, List.mem_append, ih, List.exists_mem_cons_iff]

theorem mem_segmentMentions {x : Mention} {ss : List Segment} :
    x ∈ segmentMentions ss ↔ ∃ s ∈ ss, x ∈ argumentMentions s := by
  induction ss with
  | nil => simp [segmentMentions]
  | cons s ss ih => rw [segmentMentions, List.mem_append, ih, List.exists_mem_cons_iff]

theorem mentions_subset_group {t : Tree} {body : List Tree} (h : t ∈ body) (d : Delimiter) :
    t.mentions ⊆ mentions (.group d body) := by
  intro x hx
  rw [mentions]
  exact mem_mentionsAll.mpr ⟨t, h, hx⟩

theorem mentions_subset_node {t : Tree} {k : Kind} {parts : List Tree} (h : t ∈ parts)
    (hk : k ≠ .boxPattern) : t.mentions ⊆ mentions (.node k parts) := by
  intro x hx
  rw [mentions, if_neg hk]
  exact List.mem_append_right _ (mem_mentionsAll.mpr ⟨t, h, hx⟩)

end Tree

end BuilderForge.Code
