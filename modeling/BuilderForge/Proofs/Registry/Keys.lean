import BuilderForge.Proofs.Registry.Building
import Mathlib.Data.List.Induction

set_option autoImplicit false

/-! # The texts that types are kept under

A type is kept under the text of its path, in which two colons stand in front of every name. No
colon stands in an identifier, so in a crate whose modules and types go by identifiers the text
tells the path (`segments_of_get?`), and a name that no item of a module has is no type of the
module (`get?_eq_none_of_not_local`).
-/

namespace BuilderForge

open Code (Item)

/-- No colon stands in the name, as in no identifier. -/
def IsPlain (name : String) : Prop := ':' ∉ name.toList

instance (name : String) : Decidable (IsPlain name) :=
  inferInstanceAs (Decidable (':' ∉ name.toList))

/-- No colon stands in the name of a module or of a type. -/
structure SourceSet.IsPlain (sources : SourceSet) : Prop where
  modules : ∀ body ∈ sources.bodies, ∀ name ∈ body.1.segments, BuilderForge.IsPlain name
  types : ∀ body ∈ sources.bodies, ∀ i ∈ body.2, ∀ d ∈ i.declaration? body.1,
    BuilderForge.IsPlain d.ident.name

namespace ModulePath

/-- What is written of the names of a path, each behind two colons. -/
def textOf (segments : List String) : List Char :=
  segments.flatMap fun name => ':' :: ':' :: name.toList

theorem textOf_cons (name : String) (segments : List String) :
    textOf (name :: segments) = ':' :: ':' :: (name.toList ++ textOf segments) := rfl

theorem toList_displaySegments (segments : List String) :
    (displaySegments segments).toList = "crate".toList ++ textOf segments := by
  induction segments using List.reverseRecOn with
  | nil => exact (List.append_nil _).symm
  | append_singleton above name ih =>
      have hlast : textOf (above ++ [name]) = textOf above ++ ':' :: ':' :: name.toList := by
        simp [textOf]
      rw [displaySegments_concat, String.toList_append, String.toList_append, ih, hlast]
      simp

/-- A name ends where the next colon stands. -/
theorem takeWhile_textOf {name : String} (hname : IsPlain name) (segments : List String) :
    (name.toList ++ textOf segments).takeWhile (· != ':') = name.toList := by
  have hall : ∀ c ∈ name.toList, (c != ':') = true := by
    intro c hc
    have hne : c ≠ ':' := fun h => hname (h ▸ hc)
    simpa using hne
  rw [List.takeWhile_append_of_pos hall]
  cases segments with
  | nil => simp [textOf]
  | cons next rest => simp [textOf_cons]

theorem textOf_inj : ∀ {a b : List String}, (∀ name ∈ a, IsPlain name) →
    (∀ name ∈ b, IsPlain name) → textOf a = textOf b → a = b
  | [], [], _, _, _ => rfl
  | [], name :: b, _, _, h => by
      rw [textOf_cons] at h
      cases h
  | name :: a, [], _, _, h => by
      rw [textOf_cons] at h
      cases h
  | x :: a, y :: b, ha, hb, h => by
      have hx : IsPlain x := ha x List.mem_cons_self
      have hy : IsPlain y := hb y List.mem_cons_self
      -- both texts begin with the first name, and what follows it is the text of the rest
      have htext : x.toList ++ textOf a = y.toList ++ textOf b := by
        simpa [textOf_cons] using h
      have hfirst : x.toList = y.toList := by
        rw [← takeWhile_textOf hx a, htext, takeWhile_textOf hy b]
      have hrest : textOf a = textOf b := by
        rw [hfirst] at htext
        exact List.append_cancel_left htext
      have ih := textOf_inj (fun name h => ha name (List.mem_cons_of_mem _ h))
        (fun name h => hb name (List.mem_cons_of_mem _ h)) hrest
      rw [String.toList_inj.mp hfirst, ih]

/-- The text of a path tells the path. -/
theorem displaySegments_inj {a b : List String} (ha : ∀ name ∈ a, IsPlain name)
    (hb : ∀ name ∈ b, IsPlain name) (h : displaySegments a = displaySegments b) : a = b := by
  have htext := congrArg String.toList h
  rw [toList_displaySegments, toList_displaySegments] at htext
  exact textOf_inj ha hb (List.append_cancel_left htext)

end ModulePath

namespace Registry

section OfSources

variable {sources : SourceSet} (hplain : sources.IsPlain)

include hplain

/-- The path of a type of the registry is one of plain names. -/
theorem isPlain_segments_of_get? {path : String} {d : Declaration}
    (h : (ofSources sources).get? path = some d) : ∀ name ∈ d.segments, IsPlain name := by
  obtain ⟨-, body, hbody, hmodule, i, hi, hd⟩ := mem_types_ofSources (mem_of_lookup h)
  intro name hname
  rcases List.mem_append.mp hname with hname | hname
  · rw [hmodule] at hname
    exact hplain.modules body hbody name hname
  · rw [List.mem_singleton.mp hname]
    exact hplain.types body hbody i hi d hd

/-- The type that is kept under the text of a path is the one declared at that path. -/
theorem segments_of_get? {segments : List String} (hsegments : ∀ name ∈ segments, IsPlain name)
    {d : Declaration}
    (h : (ofSources sources).get? (ModulePath.displaySegments segments) = some d) :
    d.segments = segments := by
  have htext : ModulePath.displaySegments d.segments = ModulePath.displaySegments segments := by
    rw [← Declaration.pathString_eq_displaySegments]
    exact pathString_of_get? h
  exact ModulePath.displaySegments_inj (isPlain_segments_of_get? hplain h) hsegments htext

/-- A module with a scope goes by plain names. -/
theorem isPlain_of_scope? {m : ModulePath} {s : Scope}
    (hs : (ofSources sources).scope? m = some s) : ∀ name ∈ m.segments, IsPlain name := by
  have hkeys : ∀ k ∈ (ofSources sources).scopes.map (·.1), ∃ body ∈ sources.bodies, body.1 = k := by
    refine ofSources_induction (P := fun r => ∀ k ∈ r.scopes.map (·.1),
      ∃ body ∈ sources.bodies, body.1 = k) sources ?_ ?_
    · intro k hk
      cases hk
    · intro r body hbody ih k hk
      rw [addBody, addItems, keys_addScope, foldl_addItem_scopes] at hk
      split at hk
      · exact ih k hk
      · rcases List.mem_append.mp hk with hk | hk
        · exact ih k hk
        · exact ⟨body, hbody, (List.mem_singleton.mp hk).symm⟩
  obtain ⟨body, hbody, rfl⟩ := hkeys m (List.mem_map_of_mem (mem_of_lookup hs))
  exact hplain.modules body hbody

/-- What a name of a module with a scope is kept under tells the module and the name. -/
theorem segments_of_get?_concat {m : ModulePath} {s : Scope}
    (hs : (ofSources sources).scope? m = some s) {name : String} (hname : IsPlain name)
    {d : Declaration}
    (h : (ofSources sources).get? (ModulePath.displaySegments (m.segments ++ [name])) = some d) :
    d.segments = m.segments ++ [name] := by
  refine segments_of_get? hplain ?_ h
  intro x hx
  rcases List.mem_append.mp hx with hx | hx
  · exact isPlain_of_scope? hplain hs x hx
  · rw [List.mem_singleton.mp hx]
    exact hname

/-- A type of a module is an item of the module. -/
theorem get?_eq_none_of_not_local {m : ModulePath} {s : Scope}
    (hs : (ofSources sources).scope? m = some s) {name : String} (hname : IsPlain name)
    (hlocal : s.hasLocal name = false) :
    (ofSources sources).get? (ModulePath.displaySegments (m.segments ++ [name])) = none := by
  cases hget : (ofSources sources).get? (ModulePath.displaySegments (m.segments ++ [name])) with
  | none => rfl
  | some d =>
      have hsegments := segments_of_get?_concat hplain hs hname hget
      obtain ⟨habove, hlast⟩ := List.append_inj' hsegments rfl
      have hmodule : d.module = m := congrArg ModulePath.mk habove
      have hident : d.ident.name = name := (List.cons.inj hlast).1
      -- the type is an item of the very scope that has no item of the name
      obtain ⟨s', hs', hitem⟩ := hasLocal_of_mem_types (mem_of_lookup hget)
      rw [hmodule] at hs'
      obtain rfl := Option.some.inj (hs.symm.trans hs')
      rw [hident, hlocal] at hitem
      cases hitem

end OfSources

end Registry

end BuilderForge
