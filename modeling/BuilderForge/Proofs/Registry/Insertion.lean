import BuilderForge.Proofs.Registry.Additions
import BuilderForge.Proofs.Resolution.Supply

set_option autoImplicit false

/-! # Crates that differ in one item

We compare the registry of a crate with that of the crate in which a module has one item more. If
the item brings in one name that the module does not have yet, the scope of the module *gains* that
name, as an item or as an import of some path, and all other scopes stay as they are, but for
modules inside of the new item (`gains_of_inserts`). The item may stand anywhere in the module: what
comes after it are additions (`IsAddition`), and they change both scopes alike.
-/

namespace BuilderForge

open Code (Ident UseTree Item)

/-! ## Scopes with one name more -/

namespace Scope

/-- The scope `s'` has what `s` has, and one name more: an import of the path, or an item if there
is no path. -/
structure Gains (s s' : Scope) (name : String) (what : Option ImportPath) : Prop where
  absent : s.declares name = false
  item : s'.hasLocal name = what.isNone
  imported : s'.import? name = what
  sameItems : ∀ x, x ≠ name → s'.hasLocal x = s.hasLocal x
  sameImports : ∀ x, x ≠ name → s'.import? x = s.import? x
  sameGlobs : s'.globs = s.globs

variable {s s' : Scope} {name : String} {what : Option ImportPath}

theorem Gains.declares (h : s.Gains s' name what) : s'.declares name = true := by
  rw [Scope.declares, h.item, h.imported]
  cases what <;> rfl

/-- A name that is there stays after an addition. -/
theorem IsAddition.declares_of_declares {f : Scope → Scope} (hf : IsAddition f)
    (h : s.declares name = true) : (f s).declares name = true := by
  obtain ⟨a, ha⟩ := hf
  rw [Scope.declares, Bool.or_eq_true] at h ⊢
  rw [ha.ofItems, ha.ofImports]
  rcases h with h | h
  · exact Or.inl (by rw [h, Bool.true_or])
  · refine Or.inr ?_
    cases hreplacing : a.replacing name with
    | some path => rfl
    | none =>
        obtain ⟨path, hpath⟩ := Option.isSome_iff_exists.mp h
        rw [hpath]
        rfl

/-- An addition to both scopes leaves the one name between them, unless it brings that name itself.
-/
theorem IsAddition.gains {f : Scope → Scope} (hf : IsAddition f)
    (h : s.declares name = false → s.Gains s' name what) (habsent : (f s).declares name = false) :
    (f s).Gains (f s') name what := by
  have hbefore : s.declares name = false := by
    by_contra hdeclares
    rw [Bool.not_eq_false] at hdeclares
    rw [hf.declares_of_declares hdeclares] at habsent
    cases habsent
  have hgains := h hbefore
  obtain ⟨a, ha⟩ := hf
  -- what the addition brings under the name is nothing
  have hnothing : a.items name = false ∧ a.replacing name = none ∧ a.filling name = none := by
    have hfree := (declares_eq_false_iff _ _).mp habsent
    rw [ha.ofItems, ha.ofImports, Bool.or_eq_false_iff, Option.or_eq_none_iff,
      Option.or_eq_none_iff] at hfree
    exact ⟨hfree.1.2, hfree.2.1, hfree.2.2.2⟩
  obtain ⟨hitems, hreplacing, hfilling⟩ := hnothing
  refine ⟨habsent, ?_, ?_, ?_, ?_, ?_⟩
  · rw [ha.ofItems, hitems, Bool.or_false, hgains.item]
  · rw [ha.ofImports, hreplacing, hfilling, Option.none_or, Option.or_none, hgains.imported]
  · intro x hx
    rw [ha.ofItems, ha.ofItems, hgains.sameItems x hx]
  · intro x hx
    rw [ha.ofImports, ha.ofImports, hgains.sameImports x hx]
  · rw [ha.ofGlobs, ha.ofGlobs, hgains.sameGlobs]

/-! ## One operation that brings a name -/

variable (hname : s.declares name = false)

include hname

theorem gains_addLocal {i : Ident} (hi : i.name = name) : s.Gains (s.addLocal i) name none := by
  refine ⟨hname, ?_, ((declares_eq_false_iff s name).mp hname).2, ?_, fun _ _ => rfl, rfl⟩
  · rw [hasLocal_addLocal, hi, beq_self_eq_true, Bool.or_true]
    rfl
  · intro x hx
    rw [hasLocal_addLocal, hi, beq_eq_false_iff_ne.mpr hx, Bool.or_false]

theorem gains_bind (path : ImportPath) : s.Gains (s.bind name path) name (some path) := by
  obtain ⟨hlocal, himport⟩ := (declares_eq_false_iff s name).mp hname
  refine ⟨hname, ?_, ?_, ?_, ?_, globs_bind s name path⟩
  · rw [hasLocal_bind, hlocal]
    rfl
  · rw [import?_bind, himport, if_pos rfl]
    rfl
  · exact fun x _ => hasLocal_bind s name x path
  · intro x hx
    rw [import?_bind, if_neg hx, Option.or_none]

theorem gains_addLeaf {leading exported : Bool} {above : List String} {i : Ident}
    {rename : Option Ident} (hbound : boundName? above i rename = some name) :
    s.Gains (s.addLeaf leading exported above i rename) name
      (some ⟨leading, if i.name == "self" then above else above ++ [i.name]⟩) := by
  rw [addLeaf, hbound]
  -- which names are exported has no part in it
  cases exported with
  | false => exact gains_bind hname _
  | true =>
      have hgains := gains_bind (s := { s with exports := withNew s.exports name }) hname
        ⟨leading, if i.name == "self" then above else above ++ [i.name]⟩
      exact ⟨hname, hgains.item, hgains.imported, hgains.sameItems, hgains.sameImports,
        hgains.sameGlobs⟩

end Scope

/-! ## Items that bring one name -/

namespace Code

/-- The name that an import binds and the path it binds it to, if it binds one name only. -/
def UseTree.binding? (above : List String) : UseTree → Option (String × List String)
  | .path i rest => rest.binding? (above ++ [i.name])
  | .name i => leaf above i none
  | .rename i j => leaf above i (some j)
  | .glob => none
  | .group [t] _ => t.binding? above
  | .group _ _ => none
where
  /-- The name that a leaf binds and its path. -/
  leaf (above : List String) (i : Ident) (rename : Option Ident) :
      Option (String × List String) :=
    (Scope.boundName? above i rename).map fun name =>
      (name, if i.name == "self" then above else above ++ [i.name])

namespace Item

/-- The name that an item brings in, and the path if it is an import. -/
def binding? : Item → Option (String × Option ImportPath)
  | .struct _ _ i .. | .enum _ _ i .. | .union _ _ i .. | .named _ i _ | .module _ _ _ i _ =>
      some (i.name, none)
  | .use _ _ leading tree => (tree.binding? []).map fun b => (b.1, some ⟨leading, b.2⟩)
  | .externCrate .. | .other _ => none

/-- Whether the item is visible only in the module it stands in and inside of that module. -/
def isPrivate : Item → Bool
  | .struct _ vis .. | .enum _ vis .. | .union _ vis .. | .named vis .. | .use _ vis ..
  | .externCrate _ vis .. | .module _ vis .. => vis.isInherited
  | .other _ => false

end Item

theorem UseTree.gains_of_binding? {s : Scope} {name : String} (hname : s.declares name = false)
    {leading exported : Bool} : ∀ {t : UseTree} {above segments : List String},
    t.binding? above = some (name, segments) →
    s.Gains (s.addTree leading exported above t) name (some ⟨leading, segments⟩)
  | .path i rest, above, segments, h => by
      rw [Scope.addTree]
      exact gains_of_binding? hname h
  | .name i, above, segments, h => by
      obtain ⟨x, hbound, heq⟩ := Option.map_eq_some_iff.mp h
      obtain ⟨rfl, rfl⟩ := Prod.mk.inj heq
      rw [Scope.addTree]
      exact Scope.gains_addLeaf hname hbound
  | .rename i j, above, segments, h => by
      obtain ⟨x, hbound, heq⟩ := Option.map_eq_some_iff.mp h
      obtain ⟨rfl, rfl⟩ := Prod.mk.inj heq
      rw [Scope.addTree]
      exact Scope.gains_addLeaf hname hbound
  | .glob, _, _, h => by cases h
  | .group [] _, _, _, h => by cases h
  | .group [t] _, above, segments, h => by
      rw [Scope.addTree, Scope.addTrees, Scope.addTrees]
      exact gains_of_binding? hname h
  | .group (_ :: _ :: _) _, _, _, h => by cases h

namespace Item

/-- The scope with one item more has one name more. -/
theorem gains_addTo {i : Item} {name : String} {what : Option ImportPath}
    (hbinding : i.binding? = some (name, what)) (m : ModulePath) {s : Scope}
    (hname : s.declares name = false) : s.Gains (i.addTo m s) name what := by
  cases i with
  | struct | enum | union | named | module =>
      obtain ⟨hi, rfl⟩ := Prod.mk.inj (Option.some.inj hbinding)
      exact Scope.gains_addLocal hname hi
  | use _ vis leading tree =>
      obtain ⟨⟨x, path⟩, htree, heq⟩ := Option.map_eq_some_iff.mp hbinding
      obtain ⟨rfl, rfl⟩ := Prod.mk.inj heq
      rw [addTo, Registry.addItem, Scope.addUse_eq]
      exact UseTree.gains_of_binding? hname htree
  | externCrate | other => cases hbinding

/-! ### Modules inside of an item -/

mutual

theorem prefix_of_mem_bodies (m : ModulePath) :
    ∀ i : Item, ∀ body ∈ i.bodies m, m.segments <+: body.1.segments
  | .module _ _ _ i (some items), body, h => by
      have hchild : m.segments <+: (m.child i.name).segments := List.prefix_append _ _
      rw [bodies] at h
      rcases List.mem_cons.mp h with rfl | h
      · exact hchild
      · exact hchild.trans (prefix_of_mem_bodiesAll (m.child i.name) items body h)
  | .module _ _ _ _ none, _, h => by cases h
  | .struct .., _, h => by cases h
  | .enum .., _, h => by cases h
  | .union .., _, h => by cases h
  | .named .., _, h => by cases h
  | .use .., _, h => by cases h
  | .externCrate .., _, h => by cases h
  | .other _, _, h => by cases h

theorem prefix_of_mem_bodiesAll (m : ModulePath) :
    ∀ is : List Item, ∀ body ∈ bodiesAll m is, m.segments <+: body.1.segments
  | [], _, h => by cases h
  | i :: is, body, h => by
      rw [bodiesAll] at h
      rcases List.mem_append.mp h with h | h
      · exact prefix_of_mem_bodies m i body h
      · exact prefix_of_mem_bodiesAll m is body h

end

/-- The bodies inside of an item are those of modules at or below its name. -/
theorem below_of_mem_bodies {i : Item} {name : String} {what : Option ImportPath}
    (hbinding : i.binding? = some (name, what)) {m : ModulePath} {body : ModulePath × List Item}
    (h : body ∈ i.bodies m) : m.segments ++ [name] <+: body.1.segments := by
  cases i with
  | module _ _ _ i content =>
      obtain ⟨rfl, -⟩ := Prod.mk.inj (Option.some.inj hbinding)
      cases content with
      | none => cases h
      | some items =>
          rw [bodies] at h
          rcases List.mem_cons.mp h with rfl | h
          · exact List.prefix_rfl
          · exact prefix_of_mem_bodiesAll (m.child i.name) items body h
  | struct | enum | union | named | use | externCrate | other => cases h

end Item

end Code

/-! ## Crates with one item more -/

/-- The crate `sources'` is `sources` with one more item in a module. -/
def SourceSet.Inserts (sources sources' : SourceSet) (m : ModulePath) (i : Item) : Prop :=
  ∃ front before after middle back,
    sources.bodies = front ++ (m, before ++ after) :: (middle ++ back)
      ∧ sources'.bodies = front ++ (m, before ++ i :: after) :: (middle ++ i.bodies m ++ back)

namespace Registry

/-- The module `t` of `r'` has one name more than that of `r`; other modules are the same, apart
from those inside of what has the new name. -/
structure Gains (r r' : Registry) (t : ModulePath) (name : String) (what : Option ImportPath) :
    Prop where
  scope : ∃ s s', r.scope? t = some s ∧ r'.scope? t = some s' ∧ s.Gains s' name what
  elsewhere : ∀ k, k ≠ t → ¬ t.segments ++ [name] <+: k.segments → r'.scope? k = r.scope? k

/-- As `Gains`, as long as the module does not have the name already. -/
structure GainsIfNew (r r' : Registry) (t : ModulePath) (name : String)
    (what : Option ImportPath) : Prop where
  scope : ∃ s s', r.scope? t = some s ∧ r'.scope? t = some s'
    ∧ (s.declares name = false → s.Gains s' name what)
  elsewhere : ∀ k, k ≠ t → ¬ t.segments ++ [name] <+: k.segments → r'.scope? k = r.scope? k

variable {r r' : Registry} {t : ModulePath} {name : String} {what : Option ImportPath}

/-- The body with the new item. -/
theorem gainsIfNew_addBody {i : Item} (hbinding : i.binding? = some (name, what)) (r : Registry)
    (t : ModulePath) (before after : List Item) :
    (r.addBody (t, before ++ after)).GainsIfNew (r.addBody (t, before ++ i :: after)) t name
      what := by
  -- what comes after the item, and the parts of the scope that were there before, are additions
  have hafter : Scope.IsAddition fun s => ((r.scope? t).getD {}).merge
      (after.foldl (fun s i => i.addTo t s) s) :=
    (Scope.isAddition_mergeInto _).comp
      (Scope.isAddition_foldl after fun i _ => Item.isAddition_addTo t i)
  refine ⟨⟨_, _, by rw [scope?_addBody, if_pos rfl], by rw [scope?_addBody, if_pos rfl], ?_⟩, ?_⟩
  · intro habsent
    rw [Item.scopeOf, List.foldl_append] at habsent
    simp only [Item.scopeOf, List.foldl_append, List.foldl_cons]
    exact hafter.gains (fun hname => Item.gains_addTo hbinding t hname) habsent
  · intro k hk _
    rw [scope?_addBody, if_neg hk, scope?_addBody, if_neg hk]

/-- A body that both crates have. -/
theorem GainsIfNew.addBody (h : r.GainsIfNew r' t name what) (body : ModulePath × List Item) :
    (r.addBody body).GainsIfNew (r'.addBody body) t name what := by
  obtain ⟨⟨s, s', hs, hs', hgains⟩, helsewhere⟩ := h
  refine ⟨?_, fun k hk hbelow => ?_⟩
  · by_cases hbody : t = body.1
    · refine ⟨_, _, by rw [scope?_addBody, if_pos hbody, hs],
        by rw [scope?_addBody, if_pos hbody, hs'], ?_⟩
      exact (Scope.isAddition_merge _).gains hgains
    · exact ⟨s, s', by rw [scope?_addBody, if_neg hbody, hs],
        by rw [scope?_addBody, if_neg hbody, hs'], hgains⟩
  · rw [scope?_addBody, scope?_addBody, helsewhere k hk hbelow]

/-- A module does not lie inside of what it declares. -/
theorem not_below_self (t : ModulePath) (name : String) :
    ¬ t.segments ++ [name] <+: t.segments := by
  intro hprefix
  have hlength := hprefix.length_le
  rw [List.length_append, List.length_singleton] at hlength
  omega

/-- A body inside of the new item. -/
theorem GainsIfNew.addBody_below (h : r.GainsIfNew r' t name what)
    {body : ModulePath × List Item} (hbody : t.segments ++ [name] <+: body.1.segments) :
    r.GainsIfNew (r'.addBody body) t name what := by
  obtain ⟨⟨s, s', hs, hs', hgains⟩, helsewhere⟩ := h
  have hne : ∀ k : ModulePath, ¬ t.segments ++ [name] <+: k.segments → k ≠ body.1 := by
    rintro k hk rfl
    exact hk hbody
  refine ⟨⟨s, s', hs, ?_, hgains⟩, fun k hk hbelow => ?_⟩
  · rw [scope?_addBody, if_neg (hne t (not_below_self t name)), hs']
  · rw [scope?_addBody, if_neg (hne k hbelow), helsewhere k hk hbelow]

theorem GainsIfNew.foldl_addBody (h : r.GainsIfNew r' t name what)
    (bodies : List (ModulePath × List Item)) :
    (bodies.foldl Registry.addBody r).GainsIfNew (bodies.foldl Registry.addBody r') t name
      what := by
  induction bodies generalizing r r' with
  | nil => exact h
  | cons body bodies ih => exact ih (h.addBody body)

theorem GainsIfNew.foldl_addBody_below (h : r.GainsIfNew r' t name what)
    {bodies : List (ModulePath × List Item)}
    (hbodies : ∀ body ∈ bodies, t.segments ++ [name] <+: body.1.segments) :
    r.GainsIfNew (bodies.foldl Registry.addBody r') t name what := by
  induction bodies generalizing r' with
  | nil => exact h
  | cons body bodies ih =>
      exact ih (h.addBody_below (hbodies body List.mem_cons_self))
        fun b hb => hbodies b (List.mem_cons_of_mem _ hb)

/-- **A new item adds its name and nothing else.** If a module does not have the name that an item
brings in, the crate with this item differs from the crate without it in this name of the module. -/
theorem gains_of_inserts {sources sources' : SourceSet} {i : Item}
    (hinserts : sources.Inserts sources' t i) (hbinding : i.binding? = some (name, what))
    (habsent : ∀ s, (ofSources sources).scope? t = some s → s.declares name = false) :
    (ofSources sources).Gains (ofSources sources') t name what := by
  obtain ⟨front, before, after, middle, back, hbodies, hbodies'⟩ := hinserts
  have hgains : (ofSources sources).GainsIfNew (ofSources sources') t name what := by
    rw [ofSources_eq_foldl, ofSources_eq_foldl, hbodies, hbodies']
    simp only [List.foldl_append, List.foldl_cons]
    refine GainsIfNew.foldl_addBody ?_ back
    refine GainsIfNew.foldl_addBody_below ?_ fun body h => Item.below_of_mem_bodies hbinding h
    exact (gainsIfNew_addBody hbinding _ t before after).foldl_addBody middle
  obtain ⟨s, s', hs, hs', hscope⟩ := hgains.scope
  exact ⟨⟨s, s', hs, hs', hscope (habsent s hs)⟩, hgains.elsewhere⟩

end Registry

end BuilderForge
