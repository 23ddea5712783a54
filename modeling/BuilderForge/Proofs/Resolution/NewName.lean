import BuilderForge.Proofs.Registry.Insertion

set_option autoImplicit false

/-! # Paths and a new name of a module

A module `t` gains a name. Which paths mean something else after that, in `t` or in other modules? A
path is resolved step by step, and some step may have to know whether `t` has the name: the path
begins with it in `t`, or a glob leads to `t` while the name is searched for. `AsksFor` says that
the resolution comes to such a step. If it does not, the path means what it meant
(`resolveIn_eq_of_not_asksFor`).

A glob of another module comes to `t` whenever no glob before it supplies the name (`OffersFirst`),
and then the name means what it means in `t`. Nothing in this depends on who can see the name in
`t`, so a private name is brought in by globs as a public one is (`resolvePath_of_gains`). In a
crate no `use` of which begins with the name, other modules ask for it in no other way
(`UsesApartFrom.asksFor_iff`).
-/

namespace BuilderForge

open Code (Item)

namespace Registry

variable {r r' : Registry} {t m : ModulePath} {name : String} {what : Option ImportPath} {s : Scope}

/-! ## What a resolution asks for -/

/-- To resolve a path in a module one has to know whether the module `t` has the name, or what is
inside of it. -/
inductive AsksFor (r : Registry) (t : ModulePath) (name : String) :
    Nat → ModulePath → Bool → List String → Prop
  /-- The path is written in `t` and begins with the name. -/
  | here {fuel : Nat} {rest : List String} : AsksFor r t name (fuel + 1) t false (name :: rest)
  /-- The path begins with an import, whose path asks for the name. -/
  | imported {fuel : Nat} {m : ModulePath} {x : String} {rest : List String} {s : Scope}
      {path : ImportPath} (hx : isPathKeyword x = false) (hs : r.scope? m = some s)
      (hlocal : s.hasLocal x = false) (himport : s.import? x = some path)
      (h : AsksFor r t name fuel m path.leadingColon path.segments) :
      AsksFor r t name (fuel + 1) m false (x :: rest)
  /-- A glob that is tried asks for the name. -/
  | globbed {fuel : Nat} {m : ModulePath} {x : String} {rest : List String} {s : Scope}
      {before : List ImportPath} {glob : ImportPath} {after : List ImportPath}
      (hx : isPathKeyword x = false) (hs : r.scope? m = some s) (hdeclares : s.declares x = false)
      (hglobs : s.globs = before ++ glob :: after)
      (hbefore : ∀ g ∈ before, r.gives? fuel m x g = none)
      (h : AsksFor r t name fuel m glob.leadingColon glob.segments) :
      AsksFor r t name (fuel + 1) m false (x :: rest)
  /-- A glob that is tried leads to `t` with the name, or inside of what has the name. -/
  | offered {fuel : Nat} {m : ModulePath} {x : String} {rest : List String} {s : Scope}
      {before : List ImportPath} {glob : ImportPath} {after : List ImportPath}
      (hx : isPathKeyword x = false) (hs : r.scope? m = some s) (hdeclares : s.declares x = false)
      (hglobs : s.globs = before ++ glob :: after)
      (hbefore : ∀ g ∈ before, r.gives? fuel m x g = none) {target : List String}
      (hglob : r.resolveIn fuel m glob.leadingColon glob.segments .import = .crate target)
      (htarget : target = t.segments ∧ x = name ∨ t.segments ++ [name] <+: target) :
      AsksFor r t name (fuel + 1) m false (x :: rest)
  /-- The module that supplies the first name asks for the name. -/
  | supplied {fuel : Nat} {m : ModulePath} {x : String} {rest : List String} {s : Scope}
      (hx : isPathKeyword x = false) (hs : r.scope? m = some s) (hdeclares : s.declares x = false)
      {target : List String} (hsupplier : r.supplier? fuel m x = some target)
      (h : AsksFor r t name fuel ⟨target⟩ false (x :: rest)) :
      AsksFor r t name (fuel + 1) m false (x :: rest)

/-! ## Paths that do not ask for the name -/

/-- The first element that is found is the same if the functions agree on all elements up to it. -/
theorem findSome?_congr_upTo {α β : Type} {f g : α → Option β} :
    ∀ {l : List α}, (∀ before a after, l = before ++ a :: after → (∀ b ∈ before, f b = none) →
      g a = f a) → l.findSome? g = l.findSome? f
  | [], _ => rfl
  | a :: l, h => by
      have ha : g a = f a := h [] a l rfl (by simp)
      rw [List.findSome?_cons, List.findSome?_cons, ha]
      cases hfa : f a with
      | some b => rfl
      | none =>
          refine findSome?_congr_upTo fun before b after hl hbefore => ?_
          refine h (a :: before) b after (by rw [hl, List.cons_append]) ?_
          intro c hc
          rcases List.mem_cons.mp hc with rfl | hc
          · exact hfa
          · exact hbefore c hc

/-- What supplies a name is the module of the first glob that gives it. -/
theorem exists_of_supplier? {fuel : Nat} {x : String} {target : List String}
    (hs : r.scope? m = some s) (h : r.supplier? fuel m x = some target) :
    ∃ before glob after, s.globs = before ++ glob :: after
      ∧ (∀ g ∈ before, r.gives? fuel m x g = none) ∧ r.gives? fuel m x glob = some target := by
  rw [supplier?_of_scope hs] at h
  obtain ⟨before, glob, after, hglobs, hgives, hbefore⟩ := List.findSome?_eq_some_iff.mp h
  exact ⟨before, glob, after, hglobs, hbefore, hgives⟩

/-- Scopes of one module of two crates, as far as the look-up of one name goes. -/
inductive SameFor (r r' : Registry) (m : ModulePath) (x : String) : Prop
  | unscoped (hs : r.scope? m = none) (hs' : r'.scope? m = none)
  | scoped {s s' : Scope} (hs : r.scope? m = some s) (hs' : r'.scope? m = some s')
      (hlocal : s'.hasLocal x = s.hasLocal x) (himport : s'.import? x = s.import? x)
      (hglobs : s'.globs = s.globs)

/-- Every name but the new one is looked up in the same way. -/
theorem Gains.sameFor (h : r.Gains r' t name what) {m : ModulePath} {x : String}
    (hnew : ¬ (m = t ∧ x = name)) (hbelow : ¬ t.segments ++ [name] <+: m.segments) :
    r.SameFor r' m x := by
  by_cases hm : m = t
  · subst hm
    have hx : x ≠ name := fun hx => hnew ⟨rfl, hx⟩
    obtain ⟨s, s', hs, hs', hgains⟩ := h.scope
    exact .scoped hs hs' (hgains.sameItems x hx) (hgains.sameImports x hx) hgains.sameGlobs
  · have hsame := h.elsewhere m hm hbelow
    cases hs : r.scope? m with
    | none => exact .unscoped hs (hsame.trans hs)
    | some s => exact .scoped hs (hsame.trans hs) rfl rfl rfl

/-- A glob that leads where it led gives the names that it gave, but for the new one. -/
theorem Gains.gives?_eq (h : r.Gains r' t name what) {fuel : Nat} {x : String} {glob : ImportPath}
    (hglob : r'.resolveIn fuel m glob.leadingColon glob.segments .import
      = r.resolveIn fuel m glob.leadingColon glob.segments .import)
    (htarget : ∀ target,
      r.resolveIn fuel m glob.leadingColon glob.segments .import = .crate target →
      ¬ (target = t.segments ∧ x = name ∨ t.segments ++ [name] <+: target)) :
    r'.gives? fuel m x glob = r.gives? fuel m x glob := by
  rw [gives?, gives?, hglob]
  cases hresolve : r.resolveIn fuel m glob.leadingColon glob.segments .import with
  | external | builtin | unresolved => rfl
  | crate target =>
      have hnot := htarget target hresolve
      rw [not_or] at hnot
      have hnew : ¬ ((⟨target⟩ : ModulePath) = t ∧ x = name) := by
        rintro ⟨rfl, rfl⟩
        exact hnot.1 ⟨rfl, rfl⟩
      rcases h.sameFor hnew hnot.2 with ⟨hs, hs'⟩ | ⟨hs, hs', hlocal, himport, -⟩
      · simp only [hs, hs']
      · rename_i u u'
        have hdeclares : u'.declares x = u.declares x := by
          rw [Scope.declares, hlocal, himport, Scope.declares]
        simp only [hs, hs', hdeclares]

/-- A name is supplied as it was if the globs that are tried for it lead where they led, and none of
them to the new name. -/
theorem Gains.supplier?_eq (h : r.Gains r' t name what) {s' : Scope} (hs : r.scope? m = some s)
    (hs' : r'.scope? m = some s') (hglobs : s'.globs = s.globs) {fuel : Nat} {x : String}
    (htried : ∀ before glob after, s.globs = before ++ glob :: after →
      (∀ g ∈ before, r.gives? fuel m x g = none) →
      r'.resolveIn fuel m glob.leadingColon glob.segments .import
          = r.resolveIn fuel m glob.leadingColon glob.segments .import
        ∧ ∀ target, r.resolveIn fuel m glob.leadingColon glob.segments .import = .crate target →
          ¬ (target = t.segments ∧ x = name ∨ t.segments ++ [name] <+: target)) :
    r'.supplier? fuel m x = r.supplier? fuel m x := by
  rw [supplier?_of_scope hs, supplier?_of_scope hs', hglobs]
  refine findSome?_congr_upTo fun before glob after hsplit hbefore => ?_
  obtain ⟨hsame, helsewhere⟩ := htried before glob after hsplit hbefore
  exact h.gives?_eq hsame helsewhere

/-- **A path that does not ask for the new name means what it meant.** -/
theorem resolveIn_eq_of_not_asksFor (h : r.Gains r' t name what) :
    ∀ (fuel : Nat) (m : ModulePath) (leading : Bool) (segments : List String) (use : PathUse),
      ¬ t.segments ++ [name] <+: m.segments → ¬ r.AsksFor t name fuel m leading segments →
      r'.resolveIn fuel m leading segments use = r.resolveIn fuel m leading segments use := by
  intro fuel
  -- each step looks at one scope, where all but the new name is the same, and goes on with paths
  -- that do not ask for the name either
  induction fuel with
  | zero => intros; rfl
  | succ fuel ih =>
      intro m leading segments use hbelow hasks
      cases leading with
      | true => rw [resolveIn_leading, resolveIn_leading]
      | false =>
      cases segments with
      | nil => rfl
      | cons x rest =>
      by_cases hkeyword : isPathKeyword x = true
      · exact resolveIn_keyword r hkeyword
      have hx : isPathKeyword x = false := Bool.not_eq_true _ ▸ hkeyword
      have hnew : ¬ (m = t ∧ x = name) := by
        rintro ⟨rfl, rfl⟩
        exact hasks .here
      rcases h.sameFor hnew hbelow with ⟨hs, hs'⟩ | ⟨hs, hs', hlocal, himport, hglobs⟩
      · rw [resolveIn_unscoped hx hs, resolveIn_unscoped hx hs']
      rename_i s s'
      by_cases hitem : s.hasLocal x = true
      · rw [resolveIn_local hx hs hitem, resolveIn_local hx hs' (hlocal.trans hitem)]
      rw [Bool.not_eq_true] at hitem
      cases hpath : s.import? x with
      | some path =>
          -- the path of the import is resolved in the same module
          have himported : ¬ r.AsksFor t name fuel m path.leadingColon path.segments :=
            fun hpathAsks => hasks (.imported hx hs hitem hpath hpathAsks)
          rw [resolveIn_import hx hs hitem hpath,
            resolveIn_import hx hs' (hlocal.trans hitem) (himport.trans hpath),
            ih m _ _ _ hbelow himported]
      | none =>
          have hdeclares : s.declares x = false := (s.declares_eq_false_iff x).mpr ⟨hitem, hpath⟩
          have hdeclares' : s'.declares x = false :=
            (s'.declares_eq_false_iff x).mpr ⟨hlocal.trans hitem, himport.trans hpath⟩
          have hsupplier : r'.supplier? fuel m x = r.supplier? fuel m x := by
            refine h.supplier?_eq hs hs' hglobs fun before glob after hsplit hbefore => ⟨?_, ?_⟩
            · refine ih m _ _ _ hbelow fun hglobAsks => ?_
              exact hasks (.globbed hx hs hdeclares hsplit hbefore hglobAsks)
            · exact fun target hglob htarget =>
                hasks (.offered hx hs hdeclares hsplit hbefore hglob htarget)
          cases htarget : r.supplier? fuel m x with
          | none =>
              rw [resolveIn_unsupplied hx hs hdeclares htarget,
                resolveIn_unsupplied hx hs' hdeclares' (hsupplier.trans htarget)]
          | some target =>
              have hinside : ¬ t.segments ++ [name] <+: target := by
                intro hprefix
                obtain ⟨before, glob, after, hsplit, hbefore, hgives⟩ :=
                  exists_of_supplier? hs htarget
                have hglob := (gives?_eq_some_iff.mp hgives).1
                exact hasks (.offered hx hs hdeclares hsplit hbefore hglob (Or.inr hprefix))
              have hbehind : ¬ r.AsksFor t name fuel ⟨target⟩ false (x :: rest) :=
                fun htargetAsks => hasks (.supplied hx hs hdeclares htarget htargetAsks)
              rw [resolveIn_supplied hx hs hdeclares htarget,
                resolveIn_supplied hx hs' hdeclares' (hsupplier.trans htarget),
                ih ⟨target⟩ _ _ _ hinside hbehind]

/-! ## Paths that take the new name -/

/-- While the name is searched for in a module, its globs come to `t` before any of them supplies
the name, and how they lead there does not depend on the name. -/
inductive OffersFirst (r : Registry) (fuel : Nat) (m t : ModulePath) (name : String) : Prop
  | of {s : Scope} {before : List ImportPath} {glob : ImportPath} {after : List ImportPath}
      (hs : r.scope? m = some s) (hfree : s.declares name = false)
      (hglobs : s.globs = before ++ glob :: after)
      (hbefore : ∀ g ∈ before, r.gives? fuel m name g = none)
      (hleads : r.resolveIn fuel m glob.leadingColon glob.segments .import = .crate t.segments)
      (hinside : ∀ g ∈ before, ∀ target,
        r.resolveIn fuel m g.leadingColon g.segments .import = .crate target →
        ¬ t.segments ++ [name] <+: target)
      (hapart : ∀ g ∈ before ++ [glob], ¬ r.AsksFor t name fuel m g.leadingColon g.segments)

/-- A glob that supplies the name before any glob leads to `t` keeps the name from being searched
for in `t`. -/
theorem not_offersFirst_of_gives {fuel : Nat} {before after : List ImportPath} {glob : ImportPath}
    {target : List String} (hs : r.scope? m = some s) (hglobs : s.globs = before ++ glob :: after)
    (hgives : r.gives? fuel m name glob = some target)
    (helsewhere : ∀ g ∈ before ++ [glob],
      r.resolveIn fuel m g.leadingColon g.segments .import ≠ .crate t.segments) :
    ¬ r.OffersFirst fuel m t name := by
  rintro @⟨u, before', glob', after', hu, -, hglobs', hbefore', hleads, -, -⟩
  obtain rfl := Option.some.inj (hs.symm.trans hu)
  have hnot : glob' ∉ before ++ [glob] := fun hmem => helsewhere glob' hmem hleads
  -- the glob that leads to `t` comes later, so that the one that gives the name is tried before it
  have hmem : glob ∈ before' := by
    rw [hglobs] at hglobs'
    rcases List.append_eq_append_iff.mp hglobs' with ⟨mid, rfl, hmid⟩ | ⟨mid, rfl, hmid⟩
    · cases mid with
      | nil =>
          obtain rfl := (List.cons.inj hmid).1
          exact absurd (by simp) hnot
      | cons g mid =>
          obtain rfl := (List.cons.inj hmid).1
          simp
    · cases mid with
      | nil =>
          obtain rfl := (List.cons.inj hmid).1
          exact absurd (by simp) hnot
      | cons g mid =>
          obtain rfl := (List.cons.inj hmid).1
          exact absurd (by simp) hnot
  rw [hbefore' glob hmem] at hgives
  cases hgives

/-- What the new name means in its module, if at most `fuel - 1` imports are followed. -/
def boundTo (r : Registry) (fuel : Nat) (t : ModulePath) (name : String) :
    Option ImportPath → Resolution
  | none => .crate (t.segments ++ [name])
  | some path => r.resolveIn fuel t path.leadingColon path.segments .import

/-- In its own module the new name means what it is bound to. -/
theorem Gains.resolveIn_new (h : r.Gains r' t name what) (hname : isPathKeyword name = false)
    (fuel : Nat) (rest : List String) (use : PathUse) :
    r'.resolveIn (fuel + 1) t false (name :: rest) use
      = (r'.boundTo fuel t name what).append rest := by
  obtain ⟨s, s', -, hs', hgains⟩ := h.scope
  cases what with
  | none =>
      rw [resolveIn_local hname hs' hgains.item, boundTo, Resolution.append, List.append_assoc]
      rfl
  | some path => rw [resolveIn_import hname hs' hgains.item hgains.imported, boundTo]

/-- A glob that leads to the module with the new name gives it. -/
theorem Gains.gives?_new (h : r.Gains r' t name what) {fuel : Nat} {glob : ImportPath}
    (hleads : r'.resolveIn fuel m glob.leadingColon glob.segments .import = .crate t.segments) :
    r'.gives? fuel m name glob = some t.segments := by
  obtain ⟨s, s', -, hs', hgains⟩ := h.scope
  exact gives?_eq_some_iff.mpr ⟨hleads, s', hs', hgains.declares⟩

/-- The module with the new name supplies it to a module whose globs come to it first. -/
theorem Gains.supplier?_of_offersFirst (h : r.Gains r' t name what) {fuel : Nat}
    (hbelow : ¬ t.segments ++ [name] <+: m.segments) (hne : m ≠ t)
    (hoffers : r.OffersFirst fuel m t name) :
    ∃ s, r'.scope? m = some s ∧ s.declares name = false
      ∧ r'.supplier? fuel m name = some t.segments := by
  obtain ⟨hs, hfree, hglobs, hbefore, hleads, hinside, hapart⟩ := hoffers
  rename_i s before glob after
  have hs' : r'.scope? m = some s := (h.elsewhere m hne hbelow).trans hs
  have hsame : ∀ g ∈ before ++ [glob], r'.resolveIn fuel m g.leadingColon g.segments .import
      = r.resolveIn fuel m g.leadingColon g.segments .import := fun g hg =>
    resolveIn_eq_of_not_asksFor h fuel m _ _ _ hbelow (hapart g hg)
  -- the globs before either lead to the same module or give nothing, as they did
  have hnow : ∀ g ∈ before, r'.gives? fuel m name g = none
      ∨ r'.gives? fuel m name g = some t.segments := by
    intro g hg
    have hg' := hsame g (List.mem_append_left _ hg)
    by_cases hlead : r.resolveIn fuel m g.leadingColon g.segments .import = .crate t.segments
    · exact Or.inr (h.gives?_new (hg'.trans hlead))
    · refine Or.inl ?_
      rw [h.gives?_eq hg', hbefore g hg]
      rintro target hglob (⟨rfl, -⟩ | hprefix)
      · exact hlead hglob
      · exact hinside g hg target hglob hprefix
  have hglob : r'.gives? fuel m name glob = some t.segments :=
    h.gives?_new ((hsame glob (by simp)).trans hleads)
  refine ⟨s, hs', hfree, ?_⟩
  rw [supplier?_of_scope hs', hglobs, List.findSome?_append, List.findSome?_cons, hglob]
  cases hfound : before.findSome? (r'.gives? fuel m name) with
  | none => rfl
  | some target =>
      obtain ⟨g, hg, hgives⟩ := List.exists_of_findSome?_eq_some hfound
      rcases hnow g hg with hnone | hsome
      · rw [hnone] at hgives
        cases hgives
      · rw [Option.some_or, ← hgives, hsome]

/-- A path that begins with the name means what the name is bound to. -/
theorem Gains.resolvePath_of_offersFirst (h : r.Gains r' t name what)
    (hname : isPathKeyword name = false) (hbelow : ¬ t.segments ++ [name] <+: m.segments)
    (hne : m ≠ t) {path : Code.Path} {rest : List String} (hleading : path.leadingColon = false)
    (hnames : path.names = name :: rest) (hoffers : r.OffersFirst importDepth m t name) :
    r'.resolvePath m path = (r'.boundTo (importDepth - 1) t name what).append rest := by
  obtain ⟨s, hs', hfree, hsupplier⟩ := h.supplier?_of_offersFirst hbelow hne hoffers
  calc r'.resolvePath m path
      = r'.resolveIn (importDepth + 1) m false (name :: rest) .type := by
        rw [resolvePath, hleading, hnames]
    _ = r'.resolveIn importDepth t false (name :: rest) .type :=
        resolveIn_supplied hname hs' hfree hsupplier
    _ = (r'.boundTo (importDepth - 1) t name what).append rest :=
        h.resolveIn_new hname (importDepth - 1) rest .type

/-! ## Crates that do not name it

Where no `use` of the crate begins with the name, a path of another module asks for it only by the
globs of that module. -/

/-- No import and no glob of the crate depends on the name in `t`. -/
structure UsesApartFrom (r : Registry) (t : ModulePath) (name : String) : Prop where
  begins : ∀ e ∈ r.scopes, ∀ path ∈ e.2.globs ++ e.2.imports.map (·.2),
    path.leadingColon = true ∨ path.segments.head? ≠ some name
  inside : ∀ e ∈ r.scopes, ∀ glob ∈ e.2.globs, ∀ fuel target,
    r.resolveIn fuel e.1 glob.leadingColon glob.segments .import = .crate target →
    ¬ t.segments ++ [name] <+: target

/-- A path that begins with `crate` leads to what is written behind it. -/
theorem eq_of_resolveIn_crate {fuel : Nat} {rest target : List String} {use : PathUse}
    (h : r.resolveIn fuel m false ("crate" :: rest) use = .crate target) : target = rest := by
  cases fuel with
  | zero => cases h
  | succ fuel => exact (Resolution.crate.inj h).symm

namespace UsesApartFrom

/-- It is so if all globs of the crate are written from its root on. -/
theorem of_absolute (hbegins : ∀ e ∈ r.scopes, ∀ path ∈ e.2.globs ++ e.2.imports.map (·.2),
      path.leadingColon = true ∨ path.segments.head? ≠ some name)
    (habsolute : ∀ e ∈ r.scopes, ∀ glob ∈ e.2.globs, glob = ⟨false, "crate" :: glob.segments.tail⟩
      ∧ ¬ t.segments ++ [name] <+: glob.segments.tail) : r.UsesApartFrom t name := by
  refine ⟨hbegins, fun e he glob hglob fuel target hleads => ?_⟩
  obtain ⟨hcrate, hinside⟩ := habsolute e he glob hglob
  rw [hcrate] at hleads
  rwa [eq_of_resolveIn_crate hleads]

variable (h : r.UsesApartFrom t name) (hs : r.scope? m = some s)

include h hs

theorem not_begins {path : ImportPath} (hpath : path ∈ s.globs ++ s.imports.map (·.2)) :
    ¬ (path.leadingColon = false ∧ path.segments.head? = some name) := by
  rintro ⟨hleading, hhead⟩
  rcases h.begins (m, s) (mem_of_lookup hs) path hpath with htrue | hne
  · rw [hleading] at htrue
    cases htrue
  · exact hne hhead

theorem not_begins_import {x : String} {path : ImportPath} (himport : s.import? x = some path) :
    ¬ (path.leadingColon = false ∧ path.segments.head? = some name) :=
  h.not_begins hs (List.mem_append_right _ (List.mem_map_of_mem (mem_of_lookup himport)))

theorem not_begins_glob {glob : ImportPath} (hglob : glob ∈ s.globs) :
    ¬ (glob.leadingColon = false ∧ glob.segments.head? = some name) :=
  h.not_begins hs (List.mem_append_left _ hglob)

omit hs

/-- Only paths that begin with the name ask for it. -/
theorem head_of_asksFor {fuel : Nat} {leading : Bool} {segments : List String}
    (hasks : r.AsksFor t name fuel m leading segments) :
    leading = false ∧ segments.head? = some name := by
  induction hasks with
  | here => exact ⟨rfl, rfl⟩
  | imported _ hs _ himport _ ih => exact absurd ih (h.not_begins_import hs himport)
  | globbed _ hs _ hglobs _ _ ih => exact absurd ih (h.not_begins_glob hs (by simp [hglobs]))
  | offered _ hs _ hglobs _ hglob htarget =>
      rcases htarget with ⟨-, rfl⟩ | hprefix
      · exact ⟨rfl, rfl⟩
      · exact absurd hprefix (h.inside _ (mem_of_lookup hs) _ (by simp [hglobs]) _ _ hglob)
  | supplied _ _ _ _ _ ih => exact ih

/-- A module that has the name itself, and is not `t`, does not ask `t` for it. -/
theorem not_asksFor_of_declares (hs : r.scope? m = some s) (hdeclares : s.declares name = true)
    (hne : m ≠ t) {fuel : Nat} {rest : List String} :
    ¬ r.AsksFor t name fuel m false (name :: rest) := by
  intro hasks
  cases hasks with
  | here => exact hne rfl
  | imported _ hs' _ himport hpath =>
      exact h.not_begins_import hs' himport (h.head_of_asksFor hpath)
  | globbed _ hs' hfree | offered _ hs' hfree | supplied _ hs' hfree =>
      obtain rfl := Option.some.inj (hs.symm.trans hs')
      rw [hdeclares] at hfree
      cases hfree

/-- A glob that is tried for the name and leads to `t`, or inside of what has the name there, comes
to `t` first. -/
theorem offersFirst {fuel : Nat} (hs : r.scope? m = some s) (hfree : s.declares name = false)
    {before after : List ImportPath} {glob : ImportPath} (hglobs : s.globs = before ++ glob :: after)
    (hbefore : ∀ g ∈ before, r.gives? fuel m name g = none) {target : List String}
    (hglob : r.resolveIn fuel m glob.leadingColon glob.segments .import = .crate target)
    (htarget : target = t.segments ∨ t.segments ++ [name] <+: target) :
    r.OffersFirst fuel m t name := by
  have htried : ∀ g ∈ before ++ [glob], g ∈ s.globs := by
    intro g hg
    rw [hglobs, List.append_cons]
    exact List.mem_append_left _ hg
  have hinside : ∀ g ∈ before ++ [glob], ∀ target,
      r.resolveIn fuel m g.leadingColon g.segments .import = .crate target →
      ¬ t.segments ++ [name] <+: target := fun g hg =>
    h.inside _ (mem_of_lookup hs) g (htried g hg) fuel
  have hleads : target = t.segments := by
    rcases htarget with rfl | hprefix
    · rfl
    · exact absurd hprefix (hinside glob (by simp) target hglob)
  rw [hleads] at hglob
  refine ⟨hs, hfree, hglobs, hbefore, hglob, ?_, ?_⟩
  · exact fun g hg => hinside g (List.mem_append_left _ hg)
  · exact fun g hg hgasks => h.not_begins_glob hs (htried g hg) (h.head_of_asksFor hgasks)

/-- **In such a crate, a path of another module that begins with the name asks for it exactly if the
globs of the module come to it first.** -/
theorem asksFor_iff (hname : isPathKeyword name = false)
    (habsent : ∀ u, r.scope? t = some u → u.declares name = false) (hne : m ≠ t) {fuel : Nat}
    {rest : List String} :
    r.AsksFor t name (fuel + 1) m false (name :: rest) ↔ r.OffersFirst fuel m t name := by
  constructor
  · intro hasks
    cases hasks with
    | here => exact absurd rfl hne
    | imported _ hs _ himport hpath =>
        exact absurd (h.head_of_asksFor hpath) (h.not_begins_import hs himport)
    | globbed _ hs _ hglobs _ hglob =>
        exact absurd (h.head_of_asksFor hglob) (h.not_begins_glob hs (by simp [hglobs]))
    | offered _ hs hfree hglobs hbefore hglob htarget =>
        exact h.offersFirst hs hfree hglobs hbefore hglob (htarget.imp_left And.left)
    | @supplied _ _ _ _ _ _ _ _ target hsupplier hbehind =>
        -- the module that supplies the name has it, and so it is another one than `t`
        obtain ⟨u, hu, hdeclares⟩ := declares_of_supplier? hsupplier
        have hnot : (⟨target⟩ : ModulePath) ≠ t := by
          rintro rfl
          rw [habsent u hu] at hdeclares
          cases hdeclares
        exact absurd hbehind (h.not_asksFor_of_declares hu hdeclares hnot)
  · rintro ⟨hs, hfree, hglobs, hbefore, hleads, -, -⟩
    exact .offered hname hs hfree hglobs hbefore hleads (Or.inl ⟨rfl, rfl⟩)

end UsesApartFrom

/-! ## Paths of other modules -/

/-- **Globs bring in a new name whoever can see it.** A path of another module that does not ask for
the new name means what it meant. If it begins with the new name, and the search for the name comes
to the module with the new name first, it means what the name is bound to there, so that it is kept
only if it meant this before. In a crate no `use` of which depends on the name, the globs of the
module alone decide which of the two it is. -/
theorem resolvePath_of_gains (h : r.Gains r' t name what) (hname : isPathKeyword name = false)
    (hbelow : ¬ t.segments ++ [name] <+: m.segments) (hne : m ≠ t) (path : Code.Path) :
    (¬ r.AsksFor t name (importDepth + 1) m path.leadingColon path.names →
        r'.resolvePath m path = r.resolvePath m path)
      ∧ ∀ rest, path.leadingColon = false → path.names = name :: rest →
        (r.OffersFirst importDepth m t name →
          (r'.resolvePath m path = r.resolvePath m path
            ↔ r.resolvePath m path = (r'.boundTo (importDepth - 1) t name what).append rest))
        ∧ (r.UsesApartFrom t name → ¬ r.OffersFirst importDepth m t name →
          r'.resolvePath m path = r.resolvePath m path) := by
  have hkept : ¬ r.AsksFor t name (importDepth + 1) m path.leadingColon path.names →
      r'.resolvePath m path = r.resolvePath m path := fun hasks =>
    resolveIn_eq_of_not_asksFor h _ m _ _ _ hbelow hasks
  refine ⟨hkept, fun rest hleading hnames => ⟨fun hoffers => ?_, fun huses hoffers => hkept ?_⟩⟩
  · rw [h.resolvePath_of_offersFirst hname hbelow hne hleading hnames hoffers]
    exact eq_comm
  · have habsent : ∀ u, r.scope? t = some u → u.declares name = false := by
      intro u hu
      obtain ⟨_, _, hu', -, hgains⟩ := h.scope
      obtain rfl := Option.some.inj (hu.symm.trans hu')
      exact hgains.absent
    rw [hleading, hnames, huses.asksFor_iff hname habsent hne]
    exact hoffers

/-! ## The results of two modules

The module `report` has globs of `plain`, which declares a type `Result`, and of `text`, or of
`text` alone. In `text` a private import of the `Result` of another crate is added. -/

/-- The crate, with the globs of `report` and the items of `text`. -/
def reportSources (globs : List String) (text : List Item) : SourceSet where
  files := [
    ⟨"src/lib.rs", .root, [], ["plain", "report", "text"].map (.outlined .everywhere)⟩,
    ⟨"src/plain.rs", ⟨["plain"]⟩, [], [.unitStruct .everywhere "Result"]⟩,
    ⟨"src/report.rs", ⟨["report"]⟩, [], globs.map .globOf⟩,
    ⟨"src/text.rs", ⟨["text"]⟩, [], text⟩]

/-- The import that is added. -/
def importedResult : Item := .importOf ["std", "fmt"] "Result"

/-- The path `Result`. -/
def resultPath : Code.Path := Code.Path.ofIdent ⟨"Result", false⟩

/-- The crates with and without the import are apart by it alone. -/
theorem gains_importedResult {globs : List String}
    (hinserts : (reportSources globs []).Inserts (reportSources globs [importedResult]) ⟨["text"]⟩
      importedResult)
    (hscope : (ofSources (reportSources globs [])).scope? ⟨["text"]⟩ = some {}) :
    (ofSources (reportSources globs [])).Gains (ofSources (reportSources globs [importedResult]))
      ⟨["text"]⟩ "Result" (some ⟨false, ["std", "fmt", "Result"]⟩) := by
  refine gains_of_inserts hinserts rfl fun s hs => ?_
  obtain rfl := Option.some.inj (hscope.symm.trans hs)
  rfl

/-- The type of `plain`, which the first glob supplies, keeps the name. -/
theorem resolvePath_plainResult :
    (ofSources (reportSources ["plain", "text"] [importedResult])).resolvePath ⟨["report"]⟩
        resultPath
      = (ofSources (reportSources ["plain", "text"] [])).resolvePath ⟨["report"]⟩ resultPath
    ∧ (ofSources (reportSources ["plain", "text"] [])).resolvePath ⟨["report"]⟩ resultPath
      = .crate ["plain", "Result"] := by
  have hinserts : (reportSources ["plain", "text"] []).Inserts
      (reportSources ["plain", "text"] [importedResult]) ⟨["text"]⟩ importedResult :=
    ⟨(reportSources ["plain", "text"] []).bodies.take 3, [], [], [], [], rfl, rfl⟩
  have hscope : (ofSources (reportSources ["plain", "text"] [])).scope? ⟨["text"]⟩ = some {} := rfl
  have huses : (ofSources (reportSources ["plain", "text"] [])).UsesApartFrom ⟨["text"]⟩ "Result" :=
    .of_absolute (by decide +kernel) (by decide +kernel)
  have hplain : ¬ (ofSources (reportSources ["plain", "text"] [])).OffersFirst importDepth
      ⟨["report"]⟩ ⟨["text"]⟩ "Result" :=
    not_offersFirst_of_gives
      (s := { globs := [⟨false, ["crate", "plain"]⟩, ⟨false, ["crate", "text"]⟩] }) rfl
      (List.nil_append _).symm rfl (by decide +kernel)
  have hkept := (resolvePath_of_gains (m := ⟨["report"]⟩) (gains_importedResult hinserts hscope)
    (by decide) (by decide) (by decide) resultPath).2 [] rfl rfl
  exact ⟨hkept.2 huses hplain, rfl⟩

/-- A private import takes a name away from the types that every module starts out with. -/
theorem not_keepsForeignNames :
    ¬ ∀ (sources sources' : SourceSet) (t m : ModulePath) (s u : Scope) (i : Item) (name : String)
        (what : Option ImportPath) (path : Code.Path),
      sources.Inserts sources' t i → i.binding? = some (name, what) → i.isPrivate = true →
      (ofSources sources).scope? m = some s → ¬ t.segments <+: m.segments →
      (∃ glob ∈ s.globs, (ofSources sources).resolveImport m glob = .crate t.segments) →
      (ofSources sources).scope? t = some u → u.declares name = false →
      (∀ body ∈ sources.bodies, body.1 = t → body.2.isEmpty = true) →
      path.leadingColon = false → path.names.head? = some name →
      (ofSources sources').resolvePath m path = (ofSources sources).resolvePath m path := by
  intro h
  have hinserts : (reportSources ["text"] []).Inserts (reportSources ["text"] [importedResult])
      ⟨["text"]⟩ importedResult :=
    ⟨(reportSources ["text"] []).bodies.take 3, [], [], [], [], rfl, rfl⟩
  have hnothing : ∀ body ∈ (reportSources ["text"] []).bodies, body.1 = ⟨["text"]⟩ →
      body.2.isEmpty = true := by decide +kernel
  have hsame := h _ _ ⟨["text"]⟩ ⟨["report"]⟩ _ _ importedResult "Result" _ resultPath hinserts
    rfl rfl rfl (by decide) ⟨_, List.mem_cons_self, rfl⟩ rfl rfl hnothing rfl rfl
  have hbefore : (ofSources (reportSources ["text"] [])).resolvePath ⟨["report"]⟩ resultPath
      = .builtin := rfl
  have hafter : (ofSources (reportSources ["text"] [importedResult])).resolvePath ⟨["report"]⟩
      resultPath = .external ["std", "fmt", "Result"] := rfl
  rw [hbefore, hafter] at hsame
  cases hsame

end Registry

end BuilderForge
