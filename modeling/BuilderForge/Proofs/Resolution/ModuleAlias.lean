import BuilderForge.FieldChain
import BuilderForge.Proofs.Anchoring.Meaning
import BuilderForge.Proofs.Resolution.OwnImport
import BuilderForge.Proofs.Resolution.Precedence

set_option autoImplicit false

/-! # Modules under another name

A `use` can give a module another name, and a path that leads through this name should mean what it
means with the module's own path in its place. For the first name of a path this holds in every
module: the whole path means what its first name means, with the other names behind it
(`resolveIn_append`), however many imports and globs lie between the name and the module. At every
other place of a path it fails: the look-up reads all names but the last one as the path of a
module, and the alias of a module is not one (`find?_eq_none_of_unscoped`).

So a path that goes through an alias behind `crate` leads where it should exactly if a module that
happens to stand at that very path supplies the same types (`resolveDecl?_alias_iff`).
-/

namespace BuilderForge

open Code (Tree Segment Path PathRole)

namespace Registry

variable (r : Registry)

/-! ## The first name of a path -/

theorem resolveUnscoped_append {name : String} {rest : List String} (hrest : rest ≠ [])
    (use : PathUse) :
    resolveUnscoped (name :: rest) use = (resolveUnscoped [name] .import).append rest := by
  rw [resolveUnscoped_eq_intoCrate fun _ => hrest,
    resolveUnscoped_eq_intoCrate fun h => PathUse.noConfusion h, Resolution.append_intoCrate,
    List.nil_append]

/-- A path means what its first name means, with the other names behind it. -/
theorem resolveIn_append {name : String} (hname : isPathKeyword name = false) {rest : List String}
    (hrest : rest ≠ []) (fuel : Nat) :
    ∀ (m : ModulePath) (use : PathUse), r.resolveIn fuel m false (name :: rest) use
      = (r.resolveIn fuel m false [name] .import).append rest := by
  -- a glob hands the path on to another module, where the same holds with one step less
  induction fuel with
  | zero => exact fun _ _ => rfl
  | succ fuel ih =>
      intro m use
      cases hs : r.scope? m with
      | none =>
          rw [resolveIn_unscoped hname hs, resolveIn_unscoped hname hs]
          exact resolveUnscoped_append hrest use
      | some s =>
          by_cases hlocal : s.hasLocal name = true
          · rw [resolveIn_local hname hs hlocal, resolveIn_local hname hs hlocal,
              Resolution.append, List.append_assoc, List.singleton_append]
          rw [Bool.not_eq_true] at hlocal
          cases himport : s.import? name with
          | some path =>
              rw [resolveIn_import hname hs hlocal himport,
                resolveIn_import hname hs hlocal himport, Resolution.append_nil]
          | none =>
              have hfree : s.declares name = false :=
                (s.declares_eq_false_iff name).mpr ⟨hlocal, himport⟩
              cases hsupplier : r.supplier? fuel m name with
              | some target =>
                  rw [resolveIn_supplied hname hs hfree hsupplier,
                    resolveIn_supplied hname hs hfree hsupplier]
                  exact ih ⟨target⟩ use
              | none =>
                  rw [resolveIn_unsupplied hname hs hfree hsupplier,
                    resolveIn_unsupplied hname hs hfree hsupplier]
                  exact resolveUnscoped_append hrest use

/-- Behind a first name that means a module, a path goes on in this module. -/
theorem resolveDecl?_of_means {m : ModulePath} {first name : String}
    (hfirst : isPathKeyword first = false) {t : List String}
    (hmeans : r.resolveImport m ⟨false, [first]⟩ = .crate t) {role : PathRole}
    {segments : List Segment} (hnames : segments.map (fun s => s.ident.name) = [first, name]) :
    r.resolveDecl? m (.path role false segments) = r.find? (t ++ [name]) := by
  have hpath : r.resolvePath m ⟨false, segments⟩ = .crate (t ++ [name]) := by
    calc r.resolvePath m ⟨false, segments⟩
        = r.resolveIn (importDepth + 1) m false [first, name] .type := by
          rw [resolvePath, show Path.names ⟨false, segments⟩ = [first, name] from hnames]
      _ = (r.resolveIn (importDepth + 1) m false [first] .import).append [name] :=
          r.resolveIn_append hfirst (List.cons_ne_nil _ _) _ m .type
      _ = .crate (t ++ [name]) := by
          rw [show r.resolveIn (importDepth + 1) m false [first] .import = .crate t from hmeans]
          rfl
  rw [resolveDecl?, hpath]
  rfl

/-- The alias of a module means this module where it is written. -/
theorem resolveImport_alias {p : ModulePath} {s : Scope} {name : String} {path : ImportPath}
    (hname : isPathKeyword name = false) (hs : r.scope? p = some s)
    (hlocal : s.hasLocal name = false) (himport : s.import? name = some path) {t : List String}
    (hleads : r.resolveIn importDepth p path.leadingColon path.segments .import = .crate t) :
    r.resolveImport p ⟨false, [name]⟩ = .crate t := by
  rw [resolveImport, resolveIn_import hname hs hlocal himport, hleads, Resolution.append_nil]

/-! ## The other names of a path -/

section OfSources

variable {sources : SourceSet}

/-- No type is registered below a path that is not the path of a module. -/
theorem get?_eq_none_of_unscoped (hplain : sources.IsPlain) {above : List String} {name : String}
    (hplainPath : ∀ x ∈ above ++ [name], IsPlain x)
    (hunscoped : (ofSources sources).scope? ⟨above⟩ = none) :
    (ofSources sources).get? (ModulePath.displaySegments (above ++ [name])) = none := by
  cases hget : (ofSources sources).get? (ModulePath.displaySegments (above ++ [name])) with
  | none => rfl
  | some d =>
      -- the module of a registered type has a scope, and it is the one in question
      have hsegments := segments_of_get? hplain hplainPath hget
      have hmodule : d.module = ⟨above⟩ :=
        congrArg ModulePath.mk (List.append_inj' hsegments rfl).1
      obtain ⟨s, hs, -⟩ := hasLocal_of_mem_types (mem_of_lookup hget)
      rw [hmodule, hunscoped] at hs
      cases hs

/-- A path leads nowhere if the names before the last one are not the path of a module. -/
theorem find?_eq_none_of_unscoped (hplain : sources.IsPlain) {above : List String} {name : String}
    (hplainPath : ∀ x ∈ above ++ [name], IsPlain x)
    (hunscoped : (ofSources sources).scope? ⟨above⟩ = none) :
    (ofSources sources).find? (above ++ [name]) = none := by
  have himport : (ofSources sources).importTarget? above name = none := by
    rw [importTarget?, hunscoped]
    rfl
  have hglobs : (ofSources sources).globbed? (reexportDepth - 1) above name = none := by
    rw [globbed?, hunscoped]
    rfl
  rw [find?, show reexportDepth = reexportDepth - 1 + 1 from rfl,
    findWithin_of_get?_none _ (get?_eq_none_of_unscoped hplain hplainPath hunscoped),
    behind?_of_no_target _ himport, hglobs]

/-! ## Paths through an alias -/

/-- Under a name, a module at the path of an alias supplies what the module `t` supplies. If there
is no such module, `t` supplies nothing. -/
def SuppliesAs (r : Registry) (aliased : ModulePath) (t : List String) (name : String) : Prop :=
  ∀ d, r.Unshadowed d t name
    ↔ (r.scope? aliased).isSome = true ∧ r.Unshadowed d aliased.segments name

variable (hplain : sources.IsPlain) {p : ModulePath} {s : Scope} {x name : String}
  {path : ImportPath} {t : List String} (hs : (ofSources sources).scope? p = some s)
  (hlocal : s.hasLocal x = false) (himport : s.import? x = some path)
  (hx : IsPlain x) (hname : IsPlain name)

include hplain hs hx hname

theorem isPlain_of_mem_alias : ∀ y ∈ (p.child x).segments ++ [name], IsPlain y := by
  intro y hy
  rw [ModulePath.child, List.append_assoc, List.mem_append] at hy
  rcases hy with hy | hy
  · exact isPlain_of_scope? hplain hs y hy
  · rcases List.mem_cons.mp hy with rfl | hy
    · exact hx
    · rw [List.mem_singleton.mp hy]
      exact hname

/-- The look-up comes to the alias only as the path of a module. -/
theorem find?_eq_iff_suppliesAs :
    (ofSources sources).find? ((p.child x).segments ++ [name])
        = (ofSources sources).find? (t ++ [name])
      ↔ (ofSources sources).SuppliesAs (p.child x) t name := by
  have hscoped : ∀ d, (ofSources sources).Unshadowed d (p.child x).segments name →
      ((ofSources sources).scope? (p.child x)).isSome = true := by
    intro d hd
    by_contra hnone
    rw [Option.not_isSome_iff_eq_none] at hnone
    have hnowhere := find?_eq_none_of_unscoped hplain
      (isPlain_of_mem_alias hplain hs hx hname) hnone
    rw [(find?_concat_iff _ _ _ _).mpr hd] at hnowhere
    cases hnowhere
  constructor
  · intro heq d
    rw [← find?_concat_iff, ← find?_concat_iff, ← heq]
    exact ⟨fun h => ⟨hscoped d ((find?_concat_iff _ _ _ _).mp h), h⟩, fun h => h.2⟩
  · intro h
    refine Option.ext fun d => ?_
    rw [find?_concat_iff, find?_concat_iff, h d]
    exact ⟨fun hd => ⟨hscoped d hd, hd⟩, fun hd => hd.2⟩

include hlocal himport

/-- **The alias of a module is followed as the first name of a path and at no other place.** A path
through an alias behind `crate` names what the path of the module itself names exactly if a module
at the path of the alias supplies the same; without such a module, only what does not exist is named
alike, and the link to a parent is refused. In a module where a name means the aliased module, by
whatever imports, paths that begin with this name go on there; the alias itself is such a name in
the module that it stands in. -/
theorem resolveDecl?_alias_iff :
    (∀ (m m' : ModulePath) (role role' : PathRole) (through direct : List Segment),
      through.map (fun s => s.ident.name) = "crate" :: ((p.child x).segments ++ [name]) →
      direct.map (fun s => s.ident.name) = "crate" :: (t ++ [name]) →
      ((ofSources sources).resolveDecl? m (.path role false through)
          = (ofSources sources).resolveDecl? m' (.path role' false direct)
        ↔ (ofSources sources).SuppliesAs (p.child x) t name))
    ∧ ((ofSources sources).scope? (p.child x) = none →
      ((ofSources sources).SuppliesAs (p.child x) t name
        ↔ (ofSources sources).find? (t ++ [name]) = none)
      ∧ ∀ (child : Declaration) (role : PathRole) (through : List Segment),
        through.map (fun s => s.ident.name) = "crate" :: ((p.child x).segments ++ [name]) →
        FieldChain.ancestor (ofSources sources) child (.path role false through)
          = .error (.unresolvedAncestor child.pathString
            (FieldChain.compact (.path role false through))))
    ∧ (∀ (m : ModulePath) (first : String) (role : PathRole) (segments : List Segment),
      isPathKeyword first = false →
      (ofSources sources).resolveImport m ⟨false, [first]⟩ = .crate t →
      segments.map (fun s => s.ident.name) = [first, name] →
      (ofSources sources).resolveDecl? m (.path role false segments)
        = (ofSources sources).find? (t ++ [name]))
    ∧ (isPathKeyword x = false →
      (ofSources sources).resolveIn importDepth p path.leadingColon path.segments .import
        = .crate t →
      (ofSources sources).resolveImport p ⟨false, [x]⟩ = .crate t) := by
  refine ⟨?_, fun hunscoped => ⟨?_, ?_⟩, ?_, ?_⟩
  · intro m m' role role' through direct hthrough hdirect
    rw [resolveDecl?_crate _ m hthrough, resolveDecl?_crate _ m' hdirect]
    exact find?_eq_iff_suppliesAs hplain hs hx hname
  · have hnowhere := find?_eq_none_of_unscoped hplain
      (isPlain_of_mem_alias hplain hs hx hname) hunscoped
    rw [← find?_eq_iff_suppliesAs hplain hs hx hname, hnowhere]
    exact eq_comm
  · intro child role through hthrough
    have hnowhere := find?_eq_none_of_unscoped hplain
      (isPlain_of_mem_alias hplain hs hx hname) hunscoped
    rw [FieldChain.ancestor, resolveDecl?_crate _ _ hthrough, hnowhere]
  · intro m first role segments hfirst hmeans hnames
    exact resolveDecl?_of_means _ hfirst hmeans hnames
  · exact fun hkeyword hleads => resolveImport_alias _ hkeyword hs hlocal himport hleads

end OfSources

/-! ## Paint under another name

The module `shop` exports the module `paint` as `colors`. -/

def colorsSources : SourceSet where
  files := [
    ⟨"src/lib.rs", .root, [], ["paint", "shop"].map (.outlined .everywhere)⟩,
    ⟨"src/paint.rs", ⟨["paint"]⟩, [], [.unitStruct .everywhere "Color"]⟩,
    ⟨"src/shop.rs", ⟨["shop"]⟩, [], [.use [] .everywhere false
      (.path ⟨"crate", false⟩ (.rename ⟨"paint", false⟩ ⟨"colors", false⟩))]⟩]

/-- The names `colors::Color`. -/
def colorsColor : List Segment := [.ofIdent ⟨"colors", false⟩, .ofIdent ⟨"Color", false⟩]

/-- The names `crate::shop::colors::Color`. -/
def shopColorsColor : List Segment :=
  .ofIdent ⟨"crate", false⟩ :: .ofIdent ⟨"shop", false⟩ :: colorsColor

/-- In `shop`, the color of `colors` is that of `paint`. Behind `crate::shop` it is none, and a
struct cannot have it for a parent; what `paint` does not have is the same either way. -/
theorem suppliesAs_colors :
    (ofSources colorsSources).resolveDecl? ⟨["shop"]⟩ (.path .type false colorsColor)
        = some paintColor
      ∧ ¬ (ofSources colorsSources).SuppliesAs ⟨["shop", "colors"]⟩ ["paint"] "Color"
      ∧ FieldChain.ancestor (ofSources colorsSources) paintColor (.path .type false shopColorsColor)
        = .error (.unresolvedAncestor "crate::paint::Color" "crate::shop::colors::Color")
      ∧ (ofSources colorsSources).SuppliesAs ⟨["shop", "colors"]⟩ ["paint"] "Size" := by
  have hplain : colorsSources.IsPlain := ⟨by decide +kernel, by decide +kernel⟩
  have hcolors : IsPlain "colors" := by decide +kernel
  have hkeyword : isPathKeyword "colors" = false := by decide +kernel
  have hcolor := @resolveDecl?_alias_iff _ hplain ⟨["shop"]⟩ _ "colors" "Color" _ ["paint"] rfl rfl
    rfl hcolors (by decide +kernel)
  have hsize := @resolveDecl?_alias_iff _ hplain ⟨["shop"]⟩ _ "colors" "Size" _ ["paint"] rfl rfl
    rfl hcolors (by decide +kernel)
  obtain ⟨-, hmissing, hfollowed, hmeans⟩ := hcolor
  have hlink : FieldChain.compact (.path .type false shopColorsColor)
      = "crate::shop::colors::Color" := by decide +kernel
  refine ⟨?_, ?_, ?_, ?_⟩
  · exact hfollowed _ "colors" .type colorsColor hkeyword (hmeans hkeyword rfl) rfl
  · intro hsupplies
    have hnowhere := (hmissing rfl).1.mp hsupplies
    cases hnowhere
  · rw [(hmissing rfl).2 paintColor .type shopColorsColor rfl, hlink]
    rfl
  · exact (hsize.2.1 rfl).1.mpr rfl

/-- A path through the exported alias of a module is not followed. -/
theorem not_suppliesAs_alias :
    ¬ ∀ (sources : SourceSet) (p m : ModulePath) (s u : Scope) (x name : String)
        (path : ImportPath) (t : List String) (through direct : List Segment),
      sources.IsPlain → IsPlain x → IsPlain name →
      (ofSources sources).scope? p = some s → x ∈ s.exports → s.hasLocal x = false →
      s.import? x = some path → (ofSources sources).resolveImport p path = .crate t →
      (ofSources sources).scope? ⟨t⟩ = some u →
      through.map (fun s => s.ident.name) = "crate" :: (p.segments ++ [x, name]) →
      direct.map (fun s => s.ident.name) = "crate" :: (t ++ [name]) →
      (ofSources sources).resolveDecl? m (.path .type false through)
        = (ofSources sources).resolveDecl? m (.path .type false direct) := by
  intro h
  have hplain : colorsSources.IsPlain := ⟨by decide +kernel, by decide +kernel⟩
  have hsame := h colorsSources ⟨["shop"]⟩ .root _ _ "colors" "Color" _ ["paint"] shopColorsColor
    [.ofIdent ⟨"crate", false⟩, .ofIdent ⟨"paint", false⟩, .ofIdent ⟨"Color", false⟩] hplain
    (by decide +kernel) (by decide +kernel) rfl List.mem_cons_self rfl rfl rfl rfl rfl rfl
  have hthrough : (ofSources colorsSources).resolveDecl? .root (.path .type false shopColorsColor)
      = none := rfl
  have hdirect : (ofSources colorsSources).resolveDecl? .root (.path .type false
      [.ofIdent ⟨"crate", false⟩, .ofIdent ⟨"paint", false⟩, .ofIdent ⟨"Color", false⟩])
      = some paintColor := rfl
  rw [hthrough, hdirect] at hsame
  cases hsame

end Registry

end BuilderForge
