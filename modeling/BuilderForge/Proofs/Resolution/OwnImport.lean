import BuilderForge.Proofs.Registry.Insertion

set_option autoImplicit false

/-! # A crate imported under its own name

A module that writes `use c;` for a crate `c` says no more than that there is this crate, and paths
that begin with `c` should go on to lead into it. But the path of the import begins with `c` as
well, which the import itself now supplies: the name leads to itself until no import is followed any
more, and every path by way of it leads nowhere. Written `use ::c;`, the path of the import needs no
look-up, and all goes on as before.

We show that this is the whole difference (`keepsCratePaths_iff`): the paths of the module into the
crate are kept exactly if the import is written with leading colons.
-/

namespace BuilderForge

open Code (Item)

/-! ## Imports of a module -/

namespace Scope

/-- The scope `s'` has the items and imports of `s`, and an import of `c` under its own name, which
`s` does not have. More imports and globs may come with it. -/
structure ImportsItself (s s' : Scope) (c : String) (leading : Bool) : Prop where
  absent : s.declares c = false
  binds : s'.import? c = some ⟨leading, [c]⟩
  sameItems : ∀ x, s'.hasLocal x = s.hasLocal x
  keepsImports : ∀ x path, s.import? x = some path → s'.import? x = some path

/-- From the first name of a path one comes to the name `c` by following this many imports of the
module, and the rest of the path, with what the imports add to it, stands behind `c`. -/
inductive Reaches (s : Scope) (c : String) : Nat → List String → List String → Prop
  | here {more : List String} : Reaches s c 0 (c :: more) more
  | through {n : Nat} {x : String} {path : ImportPath} {more rest : List String}
      (hx : isPathKeyword x = false) (hlocal : s.hasLocal x = false)
      (himport : s.import? x = some path) (hleading : path.leadingColon = false)
      (h : Reaches s c n path.segments more) : Reaches s c (n + 1) (x :: rest) (more ++ rest)

variable {s s' : Scope} {c : String} {leading : Bool}

theorem Gains.importsItself (h : s.Gains s' c (some ⟨leading, [c]⟩)) :
    s.ImportsItself s' c leading := by
  obtain ⟨hlocal, himport⟩ := (declares_eq_false_iff s c).mp h.absent
  refine ⟨h.absent, h.imported, fun x => ?_, fun x path hpath => ?_⟩
  · by_cases hx : x = c
    · rw [hx, hlocal, h.item]
      rfl
    · exact h.sameItems x hx
  · have hx : x ≠ c := by
      rintro rfl
      rw [himport] at hpath
      cases hpath
    rw [h.sameImports x hx, hpath]

/-- The imports on the way to the name are still there. -/
theorem ImportsItself.reaches (h : s.ImportsItself s' c leading) {n : Nat}
    {segments more : List String} (hreach : s.Reaches c n segments more) :
    s'.Reaches c n segments more := by
  induction hreach with
  | here => exact .here
  | through hx hlocal himport hleading _ ih =>
      exact .through hx ((h.sameItems _).trans hlocal) (h.keepsImports _ _ himport) hleading ih

end Scope

/-! ## What the paths lead to -/

namespace Resolution

/-- What a path into the crate `c` means in a module that does not have the name `c`. -/
def intoCrate (c : String) (more : List String) : Resolution :=
  if builtinNames.contains c then .builtin else .external (c :: more)

/-- A path out of the crate stays the same path, and one that leads somewhere goes on to do so. -/
structure IsKept (before after : Resolution) : Prop where
  sameExternal : ∀ segments, before = .external segments → after = .external segments
  resolved : before ≠ .unresolved → after ≠ .unresolved

theorem append_intoCrate (c : String) (more rest : List String) :
    (intoCrate c more).append rest = intoCrate c (more ++ rest) := by
  unfold intoCrate
  split <;> rfl

theorem intoCrate_ne_unresolved (c : String) (more : List String) :
    intoCrate c more ≠ .unresolved := by
  unfold intoCrate
  split <;> exact Resolution.noConfusion

theorem isKept_external (c : String) (more : List String) :
    (intoCrate c more).IsKept (.external (c :: more)) := by
  refine ⟨fun segments h => ?_, fun _ => Resolution.noConfusion⟩
  unfold intoCrate at h
  split at h
  · cases h
  · exact h

theorem not_isKept_unresolved (c : String) (more : List String) :
    ¬ (intoCrate c more).IsKept .unresolved := fun h =>
  h.resolved (intoCrate_ne_unresolved c more) rfl

end Resolution

open Resolution (intoCrate)

namespace Registry

variable {r r' : Registry} {m : ModulePath} {s s' : Scope} {c : String} {leading : Bool}

theorem resolveUnscoped_eq_intoCrate {c : String} {more : List String} {use : PathUse}
    (hlong : use = .type → more ≠ []) : resolveUnscoped (c :: more) use = intoCrate c more := by
  rw [resolveUnscoped, intoCrate]
  have hcrate : (use = .import || !more.isEmpty) = true := by
    cases use with
    | type =>
        rw [Bool.or_eq_true, Bool.not_eq_true', List.isEmpty_eq_false_iff]
        exact Or.inr (hlong rfl)
    | _ => rfl
  rw [if_pos hcrate]

/-- **Without the import**, a path that comes to the name leads into the crate. -/
theorem resolveIn_of_reaches (hc : isPathKeyword c = false) (hs : r.scope? m = some s)
    (habsent : s.declares c = false) {n : Nat} {segments more : List String}
    (hreach : s.Reaches c n segments more) (fuel : Nat) (hsupplier : r.supplier? fuel m c = none)
    {use : PathUse} (hlong : n = 0 → use = .type → more ≠ []) :
    r.resolveIn (fuel + 1 + n) m false segments use = intoCrate c more := by
  induction hreach generalizing use with
  | here =>
      rw [Nat.add_zero, resolveIn_unsupplied hc hs habsent hsupplier]
      exact resolveUnscoped_eq_intoCrate (hlong rfl)
  | @through n x path more rest hx hlocal himport hleading _ ih =>
      have hpath : r.resolveIn (fuel + 1 + n) m false path.segments .import = intoCrate c more :=
        ih fun _ => PathUse.noConfusion
      rw [← Nat.add_assoc, resolveIn_import hx hs hlocal himport, hleading, hpath,
        Resolution.append_intoCrate]

/-- With the import, the name leads to itself; it only comes to an end by leading colons. -/
theorem resolveIn_ownImport (hc : isPathKeyword c = false) (hs' : r'.scope? m = some s')
    (hlocal : s'.hasLocal c = false) (himport : s'.import? c = some ⟨leading, [c]⟩) (fuel : Nat) :
    ∀ (more : List String) (use : PathUse), r'.resolveIn fuel m false (c :: more) use
      = if leading = true ∧ 2 ≤ fuel then .external (c :: more) else .unresolved := by
  induction fuel with
  | zero =>
      intro more use
      rw [if_neg (by omega)]
      rfl
  | succ fuel ih =>
      intro more use
      rw [resolveIn_import hc hs' hlocal himport]
      cases leading with
      | false =>
          have hloop : r'.resolveIn fuel m false [c] .import = .unresolved := by
            rw [ih [] .import, if_neg (by simp)]
          rw [hloop, if_neg (by simp)]
          rfl
      | true =>
          cases fuel with
          | zero =>
              rw [if_neg (by omega)]
              rfl
          | succ fuel =>
              rw [resolveIn_leading, if_pos ⟨rfl, by omega⟩]
              rfl

/-- **With the import**, a path that comes to the name leads nowhere, unless the import has leading
colons and may still be followed. -/
theorem resolveIn_of_reaches_ownImport (hc : isPathKeyword c = false)
    (hs' : r'.scope? m = some s') (hlocal : s'.hasLocal c = false)
    (himport : s'.import? c = some ⟨leading, [c]⟩) {n : Nat} {segments more : List String}
    (hreach : s'.Reaches c n segments more) (fuel : Nat) {use : PathUse} :
    r'.resolveIn (fuel + n) m false segments use
      = if leading = true ∧ 2 ≤ fuel then .external (c :: more) else .unresolved := by
  induction hreach generalizing use with
  | here => exact resolveIn_ownImport hc hs' hlocal himport fuel _ use
  | @through n x path more rest hx hxlocal hximport hleading _ ih =>
      rw [← Nat.add_assoc, resolveIn_import hx hs' hxlocal hximport, hleading, ih]
      split <;> rfl

/-! ## Before and after -/

/-- The paths of a module into the crate `c` go on to lead there. -/
structure KeepsCratePaths (r r' : Registry) (m : ModulePath) (s : Scope) (c : String) : Prop where
  /-- A path of two names or more that begins with `c`. -/
  ofPath : ∀ (path : Code.Path) (x : String) (rest : List String), path.leadingColon = false →
    path.names = c :: x :: rest → (r.resolvePath m path).IsKept (r'.resolvePath m path)
  /-- An import or a glob of the module whose path begins with `c`. -/
  ofUse : ∀ path ∈ s.globs ++ s.imports.map (·.2), path.leadingColon = false →
    path.segments.head? = some c → (r.resolveImport m path).IsKept (r'.resolveImport m path)
  /-- A path that begins with a name which such an import binds. -/
  ofName : ∀ (x : String) (target : ImportPath), isPathKeyword x = false → s.hasLocal x = false →
    s.import? x = some target → target.leadingColon = false → target.segments.head? = some c →
    ∀ (path : Code.Path) (rest : List String), path.leadingColon = false → path.names = x :: rest →
      (r.resolvePath m path).IsKept (r'.resolvePath m path)

section Own

variable (hc : isPathKeyword c = false) (hs : r.scope? m = some s) (hs' : r'.scope? m = some s')
  (hown : s.ImportsItself s' c leading)
  (hsupplier : ∀ fuel ≤ importDepth, r.supplier? fuel m c = none)

include hc hs hs' hown hsupplier

/-- One path that comes to the name, by any number of imports. -/
theorem isKept_iff_of_reaches {n : Nat} {segments more : List String}
    (hreach : s.Reaches c n segments more) (hn : n ≤ importDepth) {use : PathUse}
    (hlong : n = 0 → use = .type → more ≠ []) :
    (r.resolveIn (importDepth + 1) m false segments use).IsKept
        (r'.resolveIn (importDepth + 1) m false segments use)
      ↔ leading = true ∧ n < importDepth := by
  have hfuel : importDepth + 1 = importDepth - n + 1 + n := by omega
  have hlocal : s'.hasLocal c = false :=
    (hown.sameItems c).trans ((s.declares_eq_false_iff c).mp hown.absent).1
  have hbefore : r.resolveIn (importDepth + 1) m false segments use = intoCrate c more := by
    rw [hfuel]
    exact resolveIn_of_reaches hc hs hown.absent hreach _ (hsupplier _ (Nat.sub_le _ _)) hlong
  have hafter : r'.resolveIn (importDepth + 1) m false segments use
      = if leading = true ∧ 2 ≤ importDepth - n + 1 then .external (c :: more)
        else .unresolved := by
    rw [hfuel]
    exact resolveIn_of_reaches_ownImport hc hs' hlocal hown.binds (hown.reaches hreach) _
  rw [hbefore, hafter]
  by_cases hkept : leading = true ∧ n < importDepth
  · rw [if_pos ⟨hkept.1, by omega⟩]
    exact iff_of_true (Resolution.isKept_external c more) hkept
  · rw [if_neg (fun h => hkept ⟨h.1, by omega⟩)]
    exact iff_of_false (Resolution.not_isKept_unresolved c more) hkept

/-- **A crate can be imported under its own name exactly with leading colons.** If a module that no
item, import or glob supplies the name `c` to imports `c` under its own name, the paths of the
module into the crate are kept exactly if the import is written with leading colons. So is every
path that comes to `c` by other imports of the module, if fewer of them lie on the way than are
followed. -/
theorem keepsCratePaths_iff :
    (r.KeepsCratePaths r' m s c ↔ leading = true)
      ∧ ∀ (n : Nat) (segments more : List String) (use : PathUse), s.Reaches c n segments more →
        n ≤ importDepth → (n = 0 → use = .type → more ≠ []) →
        ((r.resolveIn (importDepth + 1) m false segments use).IsKept
            (r'.resolveIn (importDepth + 1) m false segments use)
          ↔ leading = true ∧ n < importDepth) := by
  have hkept : ∀ {n : Nat} {segments more : List String} {use : PathUse},
      s.Reaches c n segments more → n ≤ importDepth → (n = 0 → use = .type → more ≠ []) →
      ((r.resolveIn (importDepth + 1) m false segments use).IsKept
          (r'.resolveIn (importDepth + 1) m false segments use)
        ↔ leading = true ∧ n < importDepth) := fun hreach hn hlong =>
    isKept_iff_of_reaches hc hs hs' hown hsupplier hreach hn hlong
  refine ⟨⟨fun h => ?_, fun hleading => ⟨?_, ?_, ?_⟩⟩, fun _ _ _ _ => hkept⟩
  · -- a path of two names is one of the paths that are kept
    have hpath : (r.resolveIn (importDepth + 1) m false [c, c] .type).IsKept
        (r'.resolveIn (importDepth + 1) m false [c, c] .type) :=
      h.ofPath ⟨false, [.ofIdent ⟨c, false⟩, .ofIdent ⟨c, false⟩]⟩ c [] rfl rfl
    exact ((hkept .here (Nat.zero_le _) (by simp)).mp hpath).1
  · intro path x rest hcolon hnames
    rw [resolvePath, resolvePath, hcolon, hnames]
    exact (hkept .here (Nat.zero_le _) (by simp)).mpr ⟨hleading, by decide⟩
  · intro path _ hcolon hhead
    obtain ⟨more, hsegments⟩ := List.head?_eq_some_iff.mp hhead
    rw [resolveImport, resolveImport, hcolon, hsegments]
    exact (hkept .here (Nat.zero_le _) (by simp)).mpr ⟨hleading, by decide⟩
  · intro x target hx hlocal himport htarget hhead path rest hcolon hnames
    obtain ⟨more, hsegments⟩ := List.head?_eq_some_iff.mp hhead
    have hreach : s.Reaches c 1 (x :: rest) (more ++ rest) :=
      .through hx hlocal himport htarget (hsegments ▸ .here)
    rw [resolvePath, resolvePath, hcolon, hnames]
    exact (hkept hreach (by decide) (by simp)).mpr ⟨hleading, by decide⟩

end Own

/-! ## A crate of values

The root has an import of a type of the crate `serde_json`, and then one of the crate itself. -/

/-- The item `use serde_json;`, with leading colons or without. -/
def ownImport (leading : Bool) : Item :=
  .use [] .inherited leading (.name ⟨"serde_json", false⟩)

/-- The crate, with more items behind the import of a type. -/
def valueSources (more : List Item) : SourceSet where
  files := [⟨"src/lib.rs", .root, [], .importOf ["serde_json"] "Value" :: more⟩]

theorem inserts_ownImport (leading : Bool) :
    (valueSources []).Inserts (valueSources [ownImport leading]) .root (ownImport leading) :=
  ⟨[], [.importOf ["serde_json"] "Value"], [], [], [], rfl, rfl⟩

/-- The scope of the root without the import of the crate. -/
def valueScope : Scope where
  imports := [("Value", ⟨false, ["serde_json", "Value"]⟩)]
  exports := ["Value"]

/-- With leading colons all paths are kept. -/
theorem keepsCratePaths_leadingColons :
    (ofSources (valueSources [])).KeepsCratePaths (ofSources (valueSources [ownImport true])) .root
      valueScope "serde_json" := by
  have hs : (ofSources (valueSources [])).scope? .root = some valueScope := rfl
  have hgains := gains_of_inserts (inserts_ownImport true) rfl fun u hu => by
      obtain rfl := Option.some.inj (hs.symm.trans hu)
      decide
  obtain ⟨u, s', hu, hs', hscope⟩ := hgains.scope
  obtain rfl := Option.some.inj (hs.symm.trans hu)
  exact (keepsCratePaths_iff (by decide) hs hs' hscope.importsItself fun _ _ => rfl).1.mpr rfl

/-- Without them the path of a type leads nowhere any more. -/
theorem not_keepsCratePaths_ownImport :
    ¬ ∀ (sources sources' : SourceSet) (m : ModulePath) (s : Scope) (c : String) (i : Item),
      sources.Inserts sources' m i → i.binding? = some (c, some ⟨false, [c]⟩) →
      isPathKeyword c = false → (ofSources sources).scope? m = some s → s.declares c = false →
      (∀ fuel, (ofSources sources).supplier? fuel m c = none) →
      (ofSources sources).KeepsCratePaths (ofSources sources') m s c := by
  intro h
  have hkeeps := h _ _ .root valueScope "serde_json" _ (inserts_ownImport false) rfl (by decide) rfl
    (by decide) fun _ => rfl
  have hpath := hkeeps.ofPath
    ⟨false, [.ofIdent ⟨"serde_json", false⟩, .ofIdent ⟨"Value", false⟩]⟩ "Value" [] rfl rfl
  have hafter := hpath.sameExternal ["serde_json", "Value"] rfl
  revert hafter
  decide +kernel

end Registry

end BuilderForge
