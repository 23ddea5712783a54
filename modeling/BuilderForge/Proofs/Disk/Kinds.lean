import BuilderForge.Disk
import Mathlib.Data.List.Basic

set_option autoImplicit false

/-! # What stands where on a disk

Of a node it is only asked what stands at the end of some names: a file with its content, a
directory, or nothing (`kindAt?`). To put a node into a directory changes what stands at its own
names and below them, and nothing else (`Node.kindAt?_put`). So an operation on the disk is told by
what stands where behind it: it puts one thing somewhere (`Puts`).
-/

namespace BuilderForge

/-- What a node is, without what a directory holds. -/
inductive NodeKind where
  | file (content : Content)
  | directory
  deriving DecidableEq, Repr

namespace Node

def kind : Node → NodeKind
  | .file c => .file c
  | .directory _ => .directory

/-- What stands below a node at the end of these names. -/
def kindAt? (n : Node) (names : List String) : Option NodeKind := (n.get? names).map kind

/-! ## Names one by one -/

theorem kindAt?_nil (n : Node) : n.kindAt? [] = some n.kind := by
  rw [kindAt?, get?]
  rfl

theorem kindAt?_cons (n : Node) (name : String) (names : List String) :
    n.kindAt? (name :: names) = (n.child? name).bind fun c => c.kindAt? names := by
  rw [kindAt?, get?]
  exact Option.map_bind

theorem kindAt?_file_cons (c : Content) (name : String) (names : List String) :
    (file c).kindAt? (name :: names) = none := kindAt?_cons _ name names

theorem kindAt?_directory_cons (entries : List (String × Node)) (name : String)
    (names : List String) : (directory entries).kindAt? (name :: names)
      = (entries.lookup name).bind fun c => c.kindAt? names := kindAt?_cons _ name names

theorem kindAt?_append (p q : List String) (n : Node) :
    n.kindAt? (p ++ q) = (n.get? p).bind fun c => c.kindAt? q := by
  induction p generalizing n with
  | nil =>
      rw [get?]
      rfl
  | cons x p ih =>
      rw [List.cons_append, kindAt?_cons, get?, Option.bind_assoc]
      exact congrArg _ (funext ih)

/-- What holds something is a directory. -/
theorem kindAt?_of_append {n : Node} {name : String} : ∀ {p q : List String},
    n.kindAt? (p ++ name :: q) ≠ none → n.kindAt? p = some .directory
  | [], q, h => by
      cases n with
      | file c => exact absurd (kindAt?_file_cons c name q) h
      | directory entries => exact kindAt?_nil _
  | x :: p, q, h => by
      rw [List.cons_append, kindAt?_cons] at h
      rw [kindAt?_cons]
      cases hchild : n.child? x with
      | none => exact absurd (by rw [hchild]; rfl) h
      | some c =>
          rw [hchild] at h
          exact kindAt?_of_append h

/-! ## Putting a node -/

theorem lookup_putEntry (name : String) (new : Node) (x : String) :
    ∀ entries : List (String × Node),
      (putEntry name new entries).lookup x = if x = name then some new else entries.lookup x
  | [] => by
      rw [putEntry]
      by_cases hx : x = name
      · simp [hx]
      · simp [hx, List.lookup_cons, beq_eq_false_iff_ne.mpr hx]
  | (k, m) :: rest => by
      rw [putEntry]
      by_cases hk : k = name
      · subst hk
        by_cases hx : x = k
        · simp [hx]
        · simp [hx, List.lookup_cons, beq_eq_false_iff_ne.mpr hx]
      · rw [if_neg hk]
        by_cases hx : x = k
        · subst hx
          simp [hk]
        · simp [List.lookup_cons, beq_eq_false_iff_ne.mpr hx, lookup_putEntry name new x rest]

/-- A node that is put into a directory stands there with all that it holds, and nothing else is
changed. -/
theorem kindAt?_put {new : Node} {name : String} : ∀ {n : Node} {p : List String},
    n.kindAt? p = some .directory → ∀ q, (n.put (p ++ [name]) new).kindAt? q
      = if p ++ [name] <+: q then new.kindAt? (q.drop (p.length + 1)) else n.kindAt? q
  | .file c, p, h, q => by
      cases p with
      | nil => cases h
      | cons x p => cases (kindAt?_file_cons c x p).symm.trans h
  | .directory entries, [], _, q => by
      rw [List.nil_append, put]
      cases q with
      | nil => simp [kindAt?_nil, kind]
      | cons y q =>
          rw [kindAt?_directory_cons, kindAt?_directory_cons, lookup_putEntry]
          by_cases hy : y = name
          · simp [hy]
          · have hne : ¬ [name] <+: y :: q := by simp [Ne.symm hy]
            simp [hy, hne]
  | .directory entries, x :: p, h, q => by
      rw [kindAt?_directory_cons] at h
      cases hchild : entries.lookup x with
      | none => rw [hchild] at h; cases h
      | some c =>
          rw [hchild] at h
          have hput : (directory entries).put (x :: p ++ [name]) new
              = directory (putEntry x (c.put (p ++ [name]) new) entries) := by
            cases p <;> simp [put, hchild]
          rw [hput]
          cases q with
          | nil => simp [kindAt?_nil, kind]
          | cons y q =>
              rw [kindAt?_directory_cons, kindAt?_directory_cons, lookup_putEntry]
              by_cases hy : y = x
              · subst hy
                simp only [if_true, hchild, Option.bind_some, List.cons_append, List.cons_prefix_cons,
                  true_and, List.length_cons, List.drop_succ_cons]
                exact kindAt?_put h q
              · have hne : ¬ x :: p ++ [name] <+: y :: q := fun h =>
                  hy (List.cons_prefix_cons.mp h).1.symm
                rw [if_neg hy, if_neg hne]

end Node

namespace Disk

/-- What stands on the disk at the end of these names. -/
def kindAt? (d : Disk) (names : List String) : Option NodeKind := d.root.kindAt? names

/-- The disk `d'` has this at the end of these names, and is else as `d`. -/
structure Puts (d d' : Disk) (names : List String) (k : NodeKind) : Prop where
  current : d'.current = d.current
  limits : d'.limits = d.limits
  kindAt? : ∀ q, d'.kindAt? q = if q = names then some k else d.kindAt? q

/-- Something that holds nothing can be put where no directory stands. -/
theorem puts_put {d : Disk} {dir : List String} {name : String} {new : Node}
    (hdir : d.kindAt? dir = some .directory) (hplace : d.kindAt? (dir ++ [name]) ≠ some .directory)
    (hnew : ∀ x q, new.kindAt? (x :: q) = none) :
    d.Puts { d with root := d.root.put (dir ++ [name]) new } (dir ++ [name]) new.kind := by
  refine ⟨rfl, rfl, fun q => ?_⟩
  refine (Node.kindAt?_put hdir q).trans ?_
  by_cases hbegins : dir ++ [name] <+: q
  · have hrest := hbegins
    obtain ⟨rest, rfl⟩ := hrest
    cases rest with
    | nil => simp [Node.kindAt?_nil]
    | cons x rest =>
        -- there was nothing below, as there was no directory
        have hnone : d.kindAt? (dir ++ [name] ++ x :: rest) = none := by
          by_contra h
          exact hplace (Node.kindAt?_of_append h)
        have hdrop : (dir ++ [name] ++ x :: rest).drop (dir.length + 1) = x :: rest :=
          List.drop_left' (by simp)
        rw [if_pos hbegins, hdrop, hnew, if_neg (by simp), hnone]
  · have hne : q ≠ dir ++ [name] := fun h => hbegins (h ▸ List.prefix_rfl)
    rw [if_neg hbegins, if_neg hne]
    rfl

end Disk

end BuilderForge
