import BuilderForge.Registry.Scope

set_option autoImplicit false

/-! # The walk through an import

The walk keeps one list of the names above the branch at hand. The list is the same behind a branch
as in front of it (`Walk.add_eq`), so the walk is a recursion that is handed the names (`addTree`),
and it is this recursion that other facts about imports are proved by.
-/

namespace BuilderForge

open Code (UseTree)

namespace Scope

mutual

/-- Adds what an import brings in below the names `above`. -/
def addTree (s : Scope) (leading exported : Bool) (above : List String) : UseTree → Scope
  | .path i rest => addTree s leading exported (above ++ [i.name]) rest
  | .name i => addLeaf s leading exported above i none
  | .rename i j => addLeaf s leading exported above i (some j)
  | .glob => addGlob s exported ⟨leading, above⟩
  | .group ts _ => addTrees s leading exported above ts

/-- Adds what the branches of an import bring in below the names `above`. -/
def addTrees (s : Scope) (leading exported : Bool) (above : List String) : List UseTree → Scope
  | [] => s
  | t :: ts => addTrees (addTree s leading exported above t) leading exported above ts

end

mutual

/-- The names above a branch are the same behind it as in front of it. -/
theorem Walk.add_eq (leading exported : Bool) : ∀ (t : UseTree) (w : Walk),
    w.add leading exported t = ⟨w.scope.addTree leading exported w.above t, w.above⟩
  | .path i rest, w => by
      rw [Walk.add, Walk.add_eq leading exported rest, addTree]
      simp
  | .name i, w => by rw [Walk.add, addTree]
  | .rename i j, w => by rw [Walk.add, addTree]
  | .glob, w => by rw [Walk.add, addTree]
  | .group ts _, w => by rw [Walk.add, Walk.addAll_eq leading exported ts, addTree]

theorem Walk.addAll_eq (leading exported : Bool) : ∀ (ts : List UseTree) (w : Walk),
    w.addAll leading exported ts = ⟨w.scope.addTrees leading exported w.above ts, w.above⟩
  | [], w => by rw [Walk.addAll, addTrees]
  | t :: ts, w => by
      rw [Walk.addAll, Walk.add_eq leading exported t, Walk.addAll_eq leading exported ts, addTrees]

end

/-- A `use` item is walked through from the root of its tree. -/
theorem addUse_eq (s : Scope) (leading exported : Bool) (t : UseTree) :
    s.addUse leading exported t = s.addTree leading exported [] t := by
  rw [addUse, Walk.add_eq]

end Scope

end BuilderForge
