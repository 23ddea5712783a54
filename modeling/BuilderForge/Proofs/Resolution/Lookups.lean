import BuilderForge.Proofs.Resolution.Supply

set_option autoImplicit false

/-! # What a resolution looks at

To find out what a path means, the types are looked up by their paths and the scopes by their
modules, and of a scope only its items, its imports and its globs are asked for. In which order types
and modules are listed, and what a module exports, has no part in it. So two crates in which the same
is found (`LooksUpAlike`) give the same meaning to every path and every type
(`LooksUpAlike.resolvePath_eq`, `LooksUpAlike.resolveDecl?_eq`).
-/

namespace BuilderForge

/-- The same is found in both scopes: the same items and imports, and the same globs in the same
order. -/
structure Scope.LooksUpAlike (s s' : Scope) : Prop where
  items : ∀ x, s'.hasLocal x = s.hasLocal x
  imports : ∀ x, s'.import? x = s.import? x
  globs : s'.globs = s.globs

theorem Scope.LooksUpAlike.refl (s : Scope) : s.LooksUpAlike s := ⟨fun _ => rfl, fun _ => rfl, rfl⟩

theorem Scope.LooksUpAlike.declares_eq {s s' : Scope} (h : s.LooksUpAlike s') (x : String) :
    s'.declares x = s.declares x := by
  rw [Scope.declares, Scope.declares, h.items, h.imports]

namespace Registry

/-- The same is found in both crates: the same types, and modules whose scopes are alike. -/
structure LooksUpAlike (r r' : Registry) : Prop where
  types : ∀ path, r'.get? path = r.get? path
  scopes : ∀ m, r.scope? m = none ∧ r'.scope? m = none
    ∨ ∃ s s', r.scope? m = some s ∧ r'.scope? m = some s' ∧ s.LooksUpAlike s'

namespace LooksUpAlike

variable {r r' : Registry} (h : r.LooksUpAlike r')

include h

theorem resolveIn_eq (fuel : Nat) :
    ∀ (m : ModulePath) (leading : Bool) (segments : List String) (use : PathUse),
      r'.resolveIn fuel m leading segments use = r.resolveIn fuel m leading segments use := by
  induction fuel with
  | zero => exact fun _ _ _ _ => rfl
  | succ fuel ih =>
      intro m leading segments use
      cases leading with
      | true => rw [resolveIn_leading, resolveIn_leading]
      | false =>
          cases segments with
          | nil => rfl
          | cons name rest =>
              by_cases hname : isPathKeyword name = true
              · exact resolveIn_keyword r hname
              rw [Bool.not_eq_true] at hname
              rw [resolveIn_name hname, resolveIn_name hname]
              rcases h.scopes m with ⟨hs, hs'⟩ | ⟨s, s', hs, hs', hscope⟩
              · rw [hs, hs']
              · have hsupplier : r'.supplier? fuel m name = r.supplier? fuel m name := by
                  rw [supplier?_of_scope hs, supplier?_of_scope hs', hscope.globs]
                  congr 1
                  funext glob
                  rw [gives?, gives?, ih]
                  cases r.resolveIn fuel m glob.leadingColon glob.segments .import with
                  | crate target =>
                      rcases h.scopes ⟨target⟩ with ⟨ht, ht'⟩ | ⟨t, t', ht, ht', htarget⟩
                      · simp only [ht, ht']
                      · simp only [ht, ht', htarget.declares_eq]
                  | external | builtin | unresolved => rfl
                simp only [hs, hs', hscope.items, hscope.imports, hsupplier, ih]

theorem resolveImport_eq (m : ModulePath) (path : ImportPath) :
    r'.resolveImport m path = r.resolveImport m path := h.resolveIn_eq _ m _ _ _

/-- Every path has the same meaning. -/
theorem resolvePath_eq (m : ModulePath) (path : Code.Path) :
    r'.resolvePath m path = r.resolvePath m path := h.resolveIn_eq _ m _ _ _

theorem findWithin_eq (fuel : Nat) :
    ∀ path, r'.findWithin fuel path = r.findWithin fuel path := by
  induction fuel with
  | zero =>
      intro path
      rw [findWithin, findWithin, h.types]
  | succ fuel ih =>
      intro path
      rcases List.eq_nil_or_concat' path with rfl | ⟨above, name, rfl⟩
      · rw [findWithin, findWithin, h.types]
        simp only [List.getLast?_nil]
      · have hfound : r'.importTarget? above name = r.importTarget? above name
            ∧ r'.globbed? fuel above name = r.globbed? fuel above name := by
          rw [importTarget?, importTarget?, globbed?, globbed?]
          rcases h.scopes ⟨above⟩ with ⟨hs, hs'⟩ | ⟨s, s', hs, hs', hscope⟩
          · simp only [hs, hs', Option.bind_none, and_self]
          · simp only [hs, hs', Option.bind_some, hscope.imports, hscope.globs,
              h.resolveImport_eq, ih, and_self]
        rw [findWithin_concat, findWithin_concat, h.types, hfound.1, hfound.2]
        simp only [ih]

theorem find?_eq (path : List String) : r'.find? path = r.find? path := h.findWithin_eq _ path

/-- Every type names the same declaration. -/
theorem resolveDecl?_eq (m : ModulePath) (type : Code.Tree) :
    r'.resolveDecl? m type = r.resolveDecl? m type := by
  have hfind : r'.find? = r.find? := funext h.find?_eq
  unfold resolveDecl?
  cases type with
  | path self leading segments => simp only [h.resolvePath_eq, hfind]
  | _ => rfl

end LooksUpAlike

end Registry

end BuilderForge
