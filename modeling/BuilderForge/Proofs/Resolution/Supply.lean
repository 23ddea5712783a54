import BuilderForge.Proofs.Resolution.Visible

set_option autoImplicit false

/-! # Where the first name of a path comes from

What a path means is decided by its first name. Apart from the keywords, which need no scope, a name
is an item of the module, or else an import of it, or else the first glob whose module has it
supplies it, or else nothing in the module supplies it. There is one lemma for each of these cases
(`resolveIn_local` to `resolveIn_unsupplied`), so that no proof has to open the resolution of paths.
-/

namespace BuilderForge

/-! ## Names and keywords -/

/-- Whether a path that begins with the name means the same whatever is in scope. -/
def isPathKeyword (name : String) : Bool := ["crate", "self", "super"].contains name

theorem isPathKeyword_iff (name : String) :
    isPathKeyword name = true ↔ name = "crate" ∨ name = "self" ∨ name = "super" := by
  simp [isPathKeyword]

theorem ne_of_not_isPathKeyword {name : String} (h : isPathKeyword name = false) :
    name ≠ "crate" ∧ name ≠ "self" ∧ name ≠ "super" := by
  have hnot : ¬ (name = "crate" ∨ name = "self" ∨ name = "super") := by
    rw [← isPathKeyword_iff, h]
    exact Bool.false_ne_true
  rwa [not_or, not_or] at hnot

namespace Scope

theorem declares_eq_false_iff (s : Scope) (name : String) :
    s.declares name = false ↔ s.hasLocal name = false ∧ s.import? name = none := by
  simp [declares, Option.isNone_iff_eq_none]

theorem declares_of_hasLocal {s : Scope} {name : String} (h : s.hasLocal name = true) :
    s.declares name = true := by
  rw [declares, h, Bool.true_or]

theorem declares_of_import {s : Scope} {name : String} {path : ImportPath}
    (h : s.import? name = some path) : s.declares name = true := by
  rw [declares, h, Option.isSome_some, Bool.or_true]

end Scope

namespace Resolution

@[simp] theorem append_nil (x : Resolution) : x.append [] = x := by
  cases x <;> simp [append]

end Resolution

namespace Registry

variable (r : Registry)

/-! ## Suppliers -/

/-- The module that a glob leads to, if that module has the name itself. -/
def gives? (fuel : Nat) (m : ModulePath) (name : String) (glob : ImportPath) :
    Option (List String) :=
  match r.resolveIn fuel m glob.leadingColon glob.segments .import with
  | .crate target =>
      match r.scope? ⟨target⟩ with
      | some s => if s.declares name then some target else none
      | none => none
  | _ => none

/-- The module that the globs of a module supply a name from: that of the first glob whose module
has the name itself. -/
def supplier? (fuel : Nat) (m : ModulePath) (name : String) : Option (List String) :=
  (r.scope? m).bind fun s => s.globs.findSome? (r.gives? fuel m name)

variable {r} {fuel : Nat} {m : ModulePath} {s : Scope} {name : String}

theorem gives?_eq_some_iff {glob : ImportPath} {target : List String} :
    r.gives? fuel m name glob = some target
      ↔ r.resolveIn fuel m glob.leadingColon glob.segments .import = .crate target
        ∧ ∃ s, r.scope? ⟨target⟩ = some s ∧ s.declares name = true := by
  unfold gives?
  cases hresolve : r.resolveIn fuel m glob.leadingColon glob.segments .import with
  | crate found =>
      rw [Resolution.crate.injEq]
      constructor
      · intro h
        cases hscope : r.scope? ⟨found⟩ with
        | none => simp [hscope] at h
        | some s =>
            simp only [hscope, Option.ite_none_right_eq_some, Option.some.injEq] at h
            obtain ⟨hdeclares, rfl⟩ := h
            exact ⟨rfl, s, hscope, hdeclares⟩
      · rintro ⟨rfl, s, hscope, hdeclares⟩
        simp [hscope, hdeclares]
  | external | builtin | unresolved => simp

theorem supplier?_of_scope (hs : r.scope? m = some s) :
    r.supplier? fuel m name = s.globs.findSome? (r.gives? fuel m name) := by
  rw [supplier?, hs, Option.bind_some]

/-- The module that supplies a name has it. -/
theorem declares_of_supplier? {target : List String} (h : r.supplier? fuel m name = some target) :
    ∃ s, r.scope? ⟨target⟩ = some s ∧ s.declares name = true := by
  obtain ⟨s, -, hfind⟩ := Option.bind_eq_some_iff.mp h
  obtain ⟨glob, -, hgives⟩ := List.exists_of_findSome?_eq_some hfind
  exact (gives?_eq_some_iff.mp hgives).2

/-! ## One step of a resolution -/

section OneStep

variable {rest segments : List String} {use : PathUse}

theorem resolveIn_leading : r.resolveIn (fuel + 1) m true segments use = .external segments := by
  rw [resolveIn.eq_def]
  exact if_pos rfl

/-- A path that begins with a keyword means the same whatever the crate has. -/
theorem resolveIn_keyword (r' : Registry) (h : isPathKeyword name = true) :
    r.resolveIn (fuel + 1) m false (name :: rest) use
      = r'.resolveIn (fuel + 1) m false (name :: rest) use := by
  rcases (isPathKeyword_iff name).mp h with rfl | rfl | rfl <;> rfl

/-- A path that begins with a keyword leads into the crate or nowhere. -/
theorem resolveIn_keyword_ne_builtin (h : isPathKeyword name = true) :
    r.resolveIn fuel m false (name :: rest) use ≠ .builtin := by
  cases fuel with
  | zero => exact Resolution.noConfusion
  | succ fuel =>
      rcases (isPathKeyword_iff name).mp h with rfl | rfl | rfl
      · exact Resolution.noConfusion
      · exact Resolution.noConfusion
      · rcases hclimb : climb m.parent? rest with ⟨_ | target, names⟩ <;>
          simp [resolveIn, hclimb]

theorem resolveIn_name (hname : isPathKeyword name = false) :
    r.resolveIn (fuel + 1) m false (name :: rest) use =
      match r.scope? m with
      | none => resolveUnscoped (name :: rest) use
      | some s =>
          if s.hasLocal name then .crate (m.segments ++ name :: rest)
          else
            match s.import? name with
            | some path =>
                (r.resolveIn fuel m path.leadingColon path.segments .import).append rest
            | none =>
                match r.supplier? fuel m name with
                | some target => r.resolveIn fuel ⟨target⟩ false (name :: rest) use
                | none => resolveUnscoped (name :: rest) use := by
  obtain ⟨hcrate, hself, hsuper⟩ := ne_of_not_isPathKeyword hname
  rw [resolveIn, if_neg Bool.false_ne_true]
  · cases hs : r.scope? m with
    | none => rfl
    | some s =>
        rw [supplier?_of_scope hs]
        rfl
  · exact hcrate
  · exact hself
  · exact hsuper

variable (hname : isPathKeyword name = false)

include hname

theorem resolveIn_unscoped (hs : r.scope? m = none) :
    r.resolveIn (fuel + 1) m false (name :: rest) use = resolveUnscoped (name :: rest) use := by
  rw [resolveIn_name hname, hs]

variable (hs : r.scope? m = some s)

include hs

/-- An item of the module. -/
theorem resolveIn_local (hlocal : s.hasLocal name = true) :
    r.resolveIn (fuel + 1) m false (name :: rest) use = .crate (m.segments ++ name :: rest) := by
  rw [resolveIn_name hname, hs]
  exact if_pos hlocal

/-- An import of the module. -/
theorem resolveIn_import (hlocal : s.hasLocal name = false) {path : ImportPath}
    (himport : s.import? name = some path) :
    r.resolveIn (fuel + 1) m false (name :: rest) use
      = (r.resolveIn fuel m path.leadingColon path.segments .import).append rest := by
  rw [resolveIn_name hname, hs]
  simp only [hlocal, Bool.false_eq_true, if_false, himport]

/-- A name that a glob supplies. -/
theorem resolveIn_supplied (hdeclares : s.declares name = false) {target : List String}
    (hsupplier : r.supplier? fuel m name = some target) :
    r.resolveIn (fuel + 1) m false (name :: rest) use
      = r.resolveIn fuel ⟨target⟩ false (name :: rest) use := by
  obtain ⟨hlocal, himport⟩ := (s.declares_eq_false_iff name).mp hdeclares
  rw [resolveIn_name hname, hs]
  simp only [hlocal, Bool.false_eq_true, if_false, himport, hsupplier]

/-- A name that nothing in the module supplies. -/
theorem resolveIn_unsupplied (hdeclares : s.declares name = false)
    (hsupplier : r.supplier? fuel m name = none) :
    r.resolveIn (fuel + 1) m false (name :: rest) use = resolveUnscoped (name :: rest) use := by
  obtain ⟨hlocal, himport⟩ := (s.declares_eq_false_iff name).mp hdeclares
  rw [resolveIn_name hname, hs]
  simp only [hlocal, Bool.false_eq_true, if_false, himport, hsupplier]

end OneStep

/-- A single name that nothing supplies leads nowhere in the crate. -/
theorem crate?_resolveUnscoped (segments : List String) (use : PathUse) :
    (resolveUnscoped segments use).crate? = none := by
  unfold resolveUnscoped
  split
  · rfl
  · split
    · rfl
    · split <;> rfl

end Registry

end BuilderForge
