import BuilderForge.Proofs.Registry.Contents
import BuilderForge.Proofs.Resolution.Lookups

set_option autoImplicit false

/-! # Files in another order

Types and modules are registered in the order of the files, and where a path or a module comes twice
the first one counts. If every module has one body and every path of a type is declared once, there
is nothing to choose: the same types and the same scopes are found whatever the order of the files
is, and so every path means the same (`resolution_of_perm`).
-/

namespace BuilderForge

open Code (Item)

/-! ## Lists with keys -/

section Keys

variable {α κ : Type} [DecidableEq κ] {key : α → κ} {l l' : List α}

/-- Of elements that have different keys, those with one key are the same in every order. -/
theorem filter_eq_of_perm (hperm : l.Perm l') (hkeys : (l.map key).Nodup) (k : κ) :
    (l'.filter fun a => key a = k) = l.filter fun a => key a = k := by
  have hfilter := hperm.filter fun a => decide (key a = k)
  have hsame : ∀ a ∈ l.filter fun a => decide (key a = k), key a = k := fun a ha =>
    of_decide_eq_true (List.mem_filter.mp ha).2
  have hnodup : ((l.filter fun a => key a = k).map key).Nodup :=
    hkeys.sublist (List.filter_sublist.map key)
  cases hfound : l.filter fun a => decide (key a = k) with
  | nil =>
      rw [hfound] at hfilter
      exact hfilter.nil_eq.symm
  | cons a found =>
      cases found with
      | nil =>
          rw [hfound] at hfilter
          exact List.perm_singleton.mp hfilter.symm
      | cons b found =>
          -- two of them would have the same key
          rw [hfound] at hsame hnodup
          have hab : key a = key b := (hsame a (by simp)).trans (hsame b (by simp)).symm
          simp [hab] at hnodup

end Keys

/-! ## Sources without rivals -/

namespace SourceSet

/-- Every module has one body, and no two types are declared at one path. -/
structure HasNoRivals (s : SourceSet) : Prop where
  modules : (s.bodies.map (·.1)).Nodup
  types : (s.declared.map Declaration.pathString).Nodup

variable {sources sources' : SourceSet} (hfiles : sources.files.Perm sources'.files)

include hfiles

theorem perm_bodies : sources.bodies.Perm sources'.bodies :=
  hfiles.flatMap_right _

theorem perm_declared : sources.declared.Perm sources'.declared :=
  (perm_bodies hfiles).flatMap_right _

end SourceSet

namespace Registry

variable {sources sources' : SourceSet} (hrivals : sources.HasNoRivals)
  (hfiles : sources.files.Perm sources'.files)

include hrivals hfiles

theorem get?_of_perm (path : String) :
    (ofSources sources').get? path = (ofSources sources).get? path := by
  have hfilter := filter_eq_of_perm (SourceSet.perm_declared hfiles) hrivals.types path
  have hfind : ∀ ds : List Declaration, ds.find? (·.pathString == path)
      = (ds.filter fun d => d.pathString = path).head? := fun ds => List.head?_filter.symm
  rw [get?_ofSources, get?_ofSources, hfind, hfind, hfilter]

theorem scope?_of_perm (m : ModulePath) :
    (ofSources sources').scope? m = (ofSources sources).scope? m := by
  have hparts : sources'.partsOf m = sources.partsOf m := by
    rw [SourceSet.partsOf, SourceSet.partsOf,
      filter_eq_of_perm (SourceSet.perm_bodies hfiles) hrivals.modules m]
  rw [scope?_ofSources, scope?_ofSources, hparts]

theorem looksUpAlike_of_perm : (ofSources sources).LooksUpAlike (ofSources sources') where
  types := get?_of_perm hrivals hfiles
  scopes m := by
    have hscope := scope?_of_perm hrivals hfiles m
    cases hs : (ofSources sources).scope? m with
    | none => exact Or.inl ⟨rfl, hscope.trans hs⟩
    | some s => exact Or.inr ⟨s, s, rfl, hscope.trans hs, .refl s⟩

/-- **Paths mean the same in every order of the files.** If no module has two bodies and no two
types are declared at one path, the files of a crate can be put in any order: the same types are
found, the scopes of all modules have the same items, imports and globs, and every path and every
type that is written in a module means the same. -/
theorem resolution_of_perm : (ofSources sources).LooksUpAlike (ofSources sources')
    ∧ (∀ m path, (ofSources sources').resolvePath m path = (ofSources sources).resolvePath m path)
    ∧ ∀ m type, (ofSources sources').resolveDecl? m type
        = (ofSources sources).resolveDecl? m type := by
  have halike := looksUpAlike_of_perm hrivals hfiles
  exact ⟨halike, halike.resolvePath_eq, halike.resolveDecl?_eq⟩

end Registry

/-! ## A crate in two orders -/

/-- The module `shop` has a glob of `stock`, which stands with its body in the file of the root. -/
def shelfFiles : List SourceFile := [
  ⟨"src/lib.rs", .root, [], [.outlined .everywhere "shop",
    .module [] .everywhere false ⟨"stock", false⟩ (some [.unitStruct .everywhere "Color"])]⟩,
  ⟨"src/shop.rs", ⟨["shop"]⟩, [], [.globOf "stock", .unitStruct .everywhere "Till"]⟩]

namespace Registry

/-- The type of `stock` is found in both orders. -/
theorem resolution_of_perm_shelf : (⟨shelfFiles, []⟩ : SourceSet).HasNoRivals
    ∧ shelfFiles.Perm shelfFiles.reverse
    ∧ ∃ d, d.segments = ["stock", "Color"]
      ∧ (ofSources ⟨shelfFiles, []⟩).resolveDecl? ⟨["shop"]⟩
        (.path .type false [.ofIdent ⟨"Color", false⟩]) = some d
      ∧ (ofSources ⟨shelfFiles.reverse, []⟩).resolveDecl? ⟨["shop"]⟩
        (.path .type false [.ofIdent ⟨"Color", false⟩]) = some d := by
  have hrivals : (⟨shelfFiles, []⟩ : SourceSet).HasNoRivals :=
    ⟨by decide +kernel, by decide +kernel⟩
  have hfiles : (⟨shelfFiles, []⟩ : SourceSet).files.Perm
      (⟨shelfFiles.reverse, []⟩ : SourceSet).files := (List.reverse_perm shelfFiles).symm
  obtain ⟨-, -, hdecl⟩ := resolution_of_perm hrivals hfiles
  refine ⟨hrivals, hfiles, _, ?_, rfl, (hdecl _ _).trans rfl⟩
  rfl

end Registry

end BuilderForge
