import BuilderForge.Proofs.Derive.Agreement
import BuilderForge.Proofs.FieldChain.Lineage
import BuilderForge.Proofs.Resolution.CratePath
import Mathlib.Data.List.Perm.Subperm

set_option autoImplicit false

/-! # A chain as a walk along parents

Fields are collected struct by struct, and nothing bounds the number of structs. `step` is one
round: it ends the walk, or tells what has been gathered and which struct comes next. `Ends` says
what a walk ends with however many rounds it has. Every round but the last adds a struct of the
crate that the chain does not have yet, so there are no more of them than there are types
(`ends_extend`), and the walk always ends.

A chain is then read off the declarations it was gathered from, which are a `Walk`: each one is
what the link of the one before leads to. Either the last one has no link and none occurs twice, or
the last one, and no other, is one of those before it.
-/

namespace BuilderForge

open Code (Fields Generics Ident Item Span Visibility)

/-! ## What is read in an item -/

namespace Code.Item

/-- The fields of a struct. Those of other items are of no interest. -/
def structFields : Item → Fields
  | .struct _ _ _ _ _ fields => fields
  | _ => .unit

end Code.Item

/-- What the registry has read in an item of a module. The first field with a mark is the link to
the parent, and it is not among the fields. -/
structure Declaration.ReadFrom (m : ModulePath) (i : Item) (d : Declaration) : Prop where
  declares : i.declaration? m = some d
  fields : d.fields = i.structFields.ordinary.filterMap (·.declared?)
  parent : d.parent = i.structFields.link?.bind (·.declared?)
  /-- A struct is written with named fields or without any. -/
  struct : d.kind = .struct →
    ∃ attrs vis ident span g fields, i = .struct attrs vis ident span g fields
      ∧ d.marker = Marker.ofAttributes attrs ∧ d.generic = !g.isEmpty
      ∧ (fields = .unit ∨ ∃ fs trailing, fields = .named fs trailing)

namespace Declaration

theorem readFrom_of_declaration? {m : ModulePath} {i : Item} {d : Declaration}
    (h : i.declaration? m = some d) : ReadFrom m i d := by
  cases i with
  | struct attrs vis ident span g fields =>
      obtain rfl := Option.some.inj h
      refine ⟨h, ?_, ?_, ?_⟩
      · rw [ofStruct_eq]
        rfl
      · rw [ofStruct_eq]
        rfl
      · intro hkind
        refine ⟨attrs, vis, ident, span, g, fields, rfl, ?_, ?_, ?_⟩
        · rw [ofStruct_eq]
        · rw [ofStruct_eq]
        · cases fields with
          | named fs trailing => exact .inr ⟨fs, trailing, rfl⟩
          | tuple fs trailing => cases hkind
          | unit => exact .inl rfl
  | enum attrs vis ident span g variants =>
      obtain rfl := Option.some.inj h
      exact ⟨h, rfl, rfl, fun hkind => by cases hkind⟩
  | union attrs vis ident span g fields =>
      obtain rfl := Option.some.inj h
      exact ⟨h, rfl, rfl, fun hkind => by cases hkind⟩
  | _ => cases h

/-- A type of the registry was read in an item of the crate. -/
theorem exists_readFrom {sources : SourceSet} {path : String} {d : Declaration}
    (h : (Registry.ofSources sources).get? path = some d) :
    ∃ body ∈ sources.bodies, ∃ i ∈ body.2, ReadFrom body.1 i d := by
  obtain ⟨-, body, hbody, -, i, hi, hd⟩ := Registry.mem_types_ofSources (Registry.mem_of_lookup h)
  exact ⟨body, hbody, i, hi, readFrom_of_declaration? hd⟩

end Declaration

namespace FieldChain

variable (r : Registry)

/-! ## Walks along parents -/

/-- The link of `a` leads from the module of `a` to `b`. -/
def LinksTo (a b : Declaration) : Prop :=
  ∃ link, a.parent = some link ∧ r.resolveDecl? a.module link.type = some b

/-- A struct without parameters whose fields can be assigned by name. -/
structure Inheritable (d : Declaration) : Prop where
  kind : d.kind = .struct
  generic : d.generic = false
  marker : d.marker = .fieldAccess ∨ d.marker = .testBuilder

/-- Declarations from `d` on, each of which is the parent of the one before. -/
structure Walk (d : Declaration) (ds : List Declaration) : Prop where
  head : ds.head? = some d
  linked : ds.IsChain (LinksTo r)
  inheritable : ∀ e ∈ ds.tail, Inheritable e

theorem ancestor_eq_ok_iff {child d : Declaration} {link : Code.Tree} :
    ancestor r child link = .ok d ↔ r.resolveDecl? child.module link = some d ∧ Inheritable d := by
  have hmarker : ∀ e : Declaration, e.marker.hasFieldAccess = true
      ↔ e.marker = .fieldAccess ∨ e.marker = .testBuilder := by
    intro e
    cases h : e.marker <;> simp [Marker.hasFieldAccess]
  unfold ancestor
  cases r.resolveDecl? child.module link with
  | none => simp
  | some e =>
      constructor
      · intro h
        dsimp only at h
        split_ifs at h with hkind hgeneric haccess
        obtain rfl := Except.ok.inj h
        refine ⟨rfl, by simpa using hkind, by simpa using hgeneric, ?_⟩
        exact (hmarker e).mp (by simpa using haccess)
      · rintro ⟨he, hd⟩
        obtain rfl := Option.some.inj he
        simp [hd.kind, hd.generic, (hmarker e).mpr hd.marker]

variable {r} {d e : Declaration} {ds : List Declaration}

theorem walk_singleton (d : Declaration) : Walk r d [d] :=
  ⟨rfl, .singleton d, fun _ h => by cases h⟩

theorem Walk.cons {link : DeclaredField} (h : Walk r e ds) (hlink : d.parent = some link)
    (hparent : ancestor r d link.type = .ok e) : Walk r d (d :: ds) := by
  obtain ⟨hnamed, hinheritable⟩ := (ancestor_eq_ok_iff r).mp hparent
  obtain ⟨rest, rfl⟩ := List.head?_eq_some_iff.mp h.head
  refine ⟨rfl, .cons_cons ⟨link, hlink, hnamed⟩ h.linked, ?_⟩
  intro e' he'
  rcases List.mem_cons.mp he' with rfl | he'
  · exact hinheritable
  · exact h.inheritable e' he'

/-- All of a walk but its beginning was found from some module. -/
theorem Walk.eq_or_exists (h : Walk r d ds) {a : Declaration} (ha : a ∈ ds) :
    a = d ∨ ∃ m type, r.resolveDecl? m type = some a := by
  induction ds generalizing d with
  | nil => cases ha
  | cons b ds ih =>
      obtain rfl : b = d := Option.some.inj h.head
      rcases List.mem_cons.mp ha with rfl | ha
      · exact .inl rfl
      · cases ds with
        | nil => cases ha
        | cons c ds =>
            obtain ⟨hstep, hrest⟩ := List.isChain_cons_cons.mp h.linked
            obtain ⟨link, -, hnamed⟩ := hstep
            have hwalk : Walk r c (c :: ds) :=
              ⟨rfl, hrest, fun e he => h.inheritable e (List.mem_cons_of_mem _ he)⟩
            rcases ih hwalk ha with rfl | hfound
            · exact .inr ⟨_, _, hnamed⟩
            · exact .inr hfound

/-- A lineage is a walk that ends at a struct without a link. -/
theorem Lineage.walk (h : Lineage r d ds) :
    Walk r d ds ∧ ∃ top, ds.getLast? = some top ∧ top.parent = none := by
  induction h with
  | top hlink => exact ⟨walk_singleton _, _, rfl, hlink⟩
  | child hlink hparent rest ih =>
      obtain ⟨hwalk, top, hlast, htop⟩ := ih
      refine ⟨hwalk.cons hlink hparent, top, ?_, htop⟩
      rw [List.getLast?_cons, hlast]
      rfl

/-! ## One round -/

variable (r) {typeName : String} {fuel : Nat} {c c' : FieldChain}
  {result : Except BuilderFailure FieldChain}

/-- The chain with one more struct and its fields. -/
def addLevel (typeName : String) (c : FieldChain) (d : Declaration) :
    Except BuilderFailure FieldChain :=
  d.fields.foldlM (addField (place r d) typeName d) { c with chain := c.chain ++ [d.pathString] }

/-- One round of a walk that has gathered `c` and is at `d`: it ends with a result, or goes on. -/
def step (typeName : String) (c : FieldChain) (d : Declaration) :
    Except BuilderFailure FieldChain ⊕ FieldChain × Declaration :=
  if d.pathString ∈ c.chain then
    .inl (.error (.inheritanceCycle typeName (c.chain ++ [d.pathString])))
  else
    match addLevel r typeName c d, d.parent with
    | .error e, _ => .inl (.error e)
    | .ok c', none => .inl (.ok c')
    | .ok c', some link =>
        match ancestor r d link.type with
        | .error e => .inl (.error e)
        | .ok above => .inr (c', above)

/-- What a walk ends with, however many rounds it has. -/
inductive Ends (typeName : String) :
    FieldChain → Declaration → Except BuilderFailure FieldChain → Prop
  | ended {c : FieldChain} {d : Declaration} {result : Except BuilderFailure FieldChain}
      (hstep : step r typeName c d = .inl result) : Ends typeName c d result
  | goOn {c c' : FieldChain} {d above : Declaration} {result : Except BuilderFailure FieldChain}
      (hstep : step r typeName c d = .inr (c', above)) (rest : Ends typeName c' above result) :
      Ends typeName c d result

/-- A walk ends with one result at most. -/
theorem Ends.unique {result' : Except BuilderFailure FieldChain} (h : Ends r typeName c d result)
    (h' : Ends r typeName c d result') : result = result' := by
  induction h with
  | ended hstep =>
      cases h' with
      | ended hstep' => exact Sum.inl.inj (hstep.symm.trans hstep')
      | goOn hstep' rest' =>
          rw [hstep] at hstep'
          cases hstep'
  | goOn hstep rest ih =>
      cases h' with
      | ended hstep' =>
          rw [hstep] at hstep'
          cases hstep'
      | goOn hstep' rest' =>
          obtain ⟨rfl, rfl⟩ := Prod.mk.inj (Sum.inr.inj (hstep.symm.trans hstep'))
          exact ih rest'

/-- The walk with a bound does the rounds one after the other. -/
theorem extend_eq_step (typeName : String) (fuel : Nat) (c : FieldChain) (d : Declaration) :
    extend r typeName (fuel + 1) c d
      = match step r typeName c d with
        | .inl result => result
        | .inr (c', above) => extend r typeName fuel c' above := by
  by_cases hagain : d.pathString ∈ c.chain
  · have hcontains : c.chain.contains d.pathString = true := by simpa using hagain
    simp only [extend, hcontains, step, hagain, if_true]
    rfl
  · rw [extend_succ r hagain, ← addLevel]
    simp only [step, hagain, if_false]
    cases addLevel r typeName c d with
    | error e => rfl
    | ok c' =>
        cases d.parent with
        | none => rfl
        | some link =>
            show (ancestor r d link.type >>= extend r typeName fuel c') = _
            cases hparent : ancestor r d link.type with
            | error e => simp [hparent, bind, Except.bind]
            | ok above => simp [hparent, bind, Except.bind]

/-- A walk goes on from a struct it has not been at to the parent of that struct. -/
theorem step_eq_inr {above : Declaration} (h : step r typeName c d = .inr (c', above)) :
    d.pathString ∉ c.chain ∧ c'.chain = c.chain ++ [d.pathString]
      ∧ ∃ link, d.parent = some link ∧ ancestor r d link.type = .ok above := by
  unfold step at h
  split at h
  · cases h
  · next hnew =>
      split at h
      · cases h
      · cases h
      · next c₁ link hadd hlink =>
          split at h
          · cases h
          · next above' hparent =>
              obtain ⟨rfl, rfl⟩ := Prod.mk.inj (Sum.inr.inj h)
              exact ⟨hnew, (foldlM_addField_ok d.fields hadd).2.1, link, hlink, hparent⟩

/-- The fields of a struct are no reason to complain about a cycle. -/
theorem addLevel_ne_cycle {name : String} {chain : List String} :
    addLevel r typeName c d ≠ .error (.inheritanceCycle name chain) := by
  intro h
  obtain ⟨f, -, path, -, hfailure⟩ := foldlM_addField_error d.fields h
  cases hfailure

/-- Neither is its parent. -/
theorem ancestor_ne_cycle {link : Code.Tree} {name : String} {chain : List String} :
    ancestor r d link ≠ .error (.inheritanceCycle name chain) := by
  unfold ancestor
  split
  · simp
  · split_ifs <;> simp

/-- A cycle is complained about at a struct that the walk has been at. -/
theorem step_eq_cycle {name : String} {chain : List String}
    (h : step r typeName c d = .inl (.error (.inheritanceCycle name chain))) :
    name = typeName ∧ d.pathString ∈ c.chain ∧ chain = c.chain ++ [d.pathString] := by
  unfold step at h
  split at h
  · next hagain =>
      obtain ⟨rfl, rfl⟩ := BuilderFailure.inheritanceCycle.inj (Except.error.inj (Sum.inl.inj h))
      exact ⟨rfl, hagain, rfl⟩
  · split at h
    · next e hadd =>
        obtain rfl := Except.error.inj (Sum.inl.inj h)
        exact absurd hadd (addLevel_ne_cycle r)
    · cases h
    · split at h
      · next e hparent =>
          obtain rfl := Except.error.inj (Sum.inl.inj h)
          exact absurd hparent (ancestor_ne_cycle r)
      · cases h

/-! ## Whole walks -/

/-- There are enough rounds for every walk among the declarations whose paths are in `paths`: the
structs the walk has been at are different ones of them. -/
theorem ends_extend {paths : List String}
    (hpaths : ∀ child link e, ancestor r child link = .ok e → e.pathString ∈ paths)
    (hd : d.pathString ∈ paths) (hsub : c.chain ⊆ paths) (hnodup : c.chain.Nodup)
    (hfuel : paths.length < c.chain.length + fuel) :
    Ends r typeName c d (extend r typeName fuel c d) := by
  induction fuel generalizing c d with
  | zero =>
      have hle := (List.subperm_of_subset hnodup hsub).length_le
      omega
  | succ fuel ih =>
      rw [extend_eq_step]
      cases hstep : step r typeName c d with
      | inl result => exact .ended hstep
      | inr next =>
          obtain ⟨c', above⟩ := next
          obtain ⟨hnew, hchain, link, -, hparent⟩ := step_eq_inr r hstep
          refine .goOn hstep (ih (hpaths _ _ _ hparent) ?_ ?_ ?_)
          · rw [hchain]
            exact List.append_subset.mpr ⟨hsub, by simpa using hd⟩
          · rw [hchain, ← List.concat_eq_append]
            exact List.Nodup.concat hnew hnodup
          · rw [hchain, List.length_append, List.length_singleton]
            omega

/-- A walk that ends with a cycle has been along different structs up to the last one. -/
theorem Ends.walk_of_cycle {name : String} {chain : List String}
    (h : Ends r typeName c d result) (hresult : result = .error (.inheritanceCycle name chain))
    (hnodup : c.chain.Nodup) :
    name = typeName ∧ ∃ ds last, Walk r d (ds ++ [last])
      ∧ chain = c.chain ++ (ds ++ [last]).map Declaration.pathString
      ∧ (c.chain ++ ds.map Declaration.pathString).Nodup
      ∧ last.pathString ∈ c.chain ++ ds.map Declaration.pathString := by
  induction h with
  | ended hstep =>
      subst hresult
      obtain ⟨rfl, hagain, rfl⟩ := step_eq_cycle r hstep
      exact ⟨rfl, [], _, walk_singleton _, rfl, by simpa using hnodup, by simpa using hagain⟩
  | goOn hstep rest ih =>
      obtain ⟨hnew, hchain, link, hlink, hparent⟩ := step_eq_inr r hstep
      have hnext := List.Nodup.concat hnew hnodup
      rw [List.concat_eq_append, ← hchain] at hnext
      obtain ⟨rfl, ds, last, hwalk, rfl, hds, hlast⟩ := ih hresult hnext
      refine ⟨rfl, _ :: ds, last, hwalk.cons hlink hparent, ?_, ?_, ?_⟩
      · simp [hchain]
      · simpa [hchain] using hds
      · simpa [hchain] using hlast

/-! ## Chains of a crate -/

/-- What collecting the fields of a declaration ends with: its walk decides, unless it has
parameters or no path under which the whole crate can name it. -/
def Collects (d : Declaration) (result : Except BuilderFailure FieldChain) : Prop :=
  if d.generic then result = .error (.unsupportedGenerics d.pathString)
  else
    match r.reachablePath? d with
    | none => result = .error (.notReachable d.pathString d.pathString)
    | some target => Ends r d.pathString ⟨target, [], [], []⟩ d result

section OfSources

variable {sources : SourceSet}

theorem get?_of_resolveDecl? {m : ModulePath} {type : Code.Tree}
    (h : (Registry.ofSources sources).resolveDecl? m type = some d) :
    (Registry.ofSources sources).get? d.pathString = some d := by
  unfold Registry.resolveDecl? at h
  split at h
  · obtain ⟨segments, -, hfind⟩ := Option.bind_eq_some_iff.mp h
    exact Registry.get?_of_findWithin hfind
  · cases h

/-- A walk from a type of the registry does not leave the registry. -/
theorem Walk.get? (h : Walk (Registry.ofSources sources) d ds)
    (hd : (Registry.ofSources sources).get? d.pathString = some d) {a : Declaration}
    (ha : a ∈ ds) : (Registry.ofSources sources).get? a.pathString = some a := by
  rcases h.eq_or_exists ha with rfl | ⟨m, type, hnamed⟩
  · exact hd
  · exact get?_of_resolveDecl? hnamed

/-- The walk from a type of the registry ends within the bound, for only types of the registry come
up. -/
theorem ends_ofSources (hd : (Registry.ofSources sources).get? d.pathString = some d)
    (typeName : String) (target : Code.Path) :
    Ends (Registry.ofSources sources) typeName ⟨target, [], [], []⟩ d
      (extend (Registry.ofSources sources) typeName
        ((Registry.ofSources sources).types.length + 2) ⟨target, [], [], []⟩ d) := by
  have registered : ∀ e : Declaration,
      (Registry.ofSources sources).get? e.pathString = some e →
      e.pathString ∈ (Registry.ofSources sources).types.map (·.1) :=
    fun e he => List.mem_map.mpr ⟨_, Registry.mem_of_lookup he, rfl⟩
  refine ends_extend _ ?_ (registered d hd) (List.nil_subset _) List.nodup_nil ?_
  · intro child link e hparent
    exact registered e (get?_of_resolveDecl? ((ancestor_eq_ok_iff _).mp hparent).1)
  · rw [List.length_map]
    show _ < 0 + _
    omega

/-- Collecting ends, and with the very result that is computed. -/
theorem collects_iff (hd : (Registry.ofSources sources).get? d.pathString = some d) :
    Collects (Registry.ofSources sources) d result
      ↔ ofDecl (Registry.ofSources sources) d = result := by
  unfold Collects ofDecl
  split
  · exact eq_comm
  · cases (Registry.ofSources sources).reachablePath? d with
    | none => exact eq_comm
    | some target =>
        have hends := ends_ofSources hd d.pathString target
        constructor
        · exact fun h => hends.unique _ h
        · rintro rfl
          exact hends

/-- A chain is collected along a walk up to a struct without a link. -/
theorem walk_of_ofDecl (hd : (Registry.ofSources sources).get? d.pathString = some d)
    (h : ofDecl (Registry.ofSources sources) d = .ok c) :
    ∃ ds, Walk (Registry.ofSources sources) d ds
      ∧ (∃ top, ds.getLast? = some top ∧ top.parent = none)
      ∧ c.chain = ds.map Declaration.pathString ∧ c.chain.Nodup
      ∧ c.fields = levelFields (Registry.ofSources sources) 0 ds
      ∧ ∀ e ∈ ds, ∃ body ∈ sources.bodies, ∃ i ∈ body.2, Declaration.ReadFrom body.1 i e := by
  obtain ⟨ds, target, -, -, hg⟩ := gathers_of_ofDecl _ h
  obtain ⟨hwalk, htop⟩ := hg.lineage.walk
  exact ⟨ds, hwalk, htop, hg.chain, hg.nodup List.nodup_nil, hg.fields,
    fun e he => Declaration.exists_readFrom (hwalk.get? hd he)⟩

/-- A cycle is a walk that comes back to one of its structs. -/
theorem walk_of_ofDecl_cycle (hd : (Registry.ofSources sources).get? d.pathString = some d)
    {name : String} {chain : List String}
    (h : ofDecl (Registry.ofSources sources) d = .error (.inheritanceCycle name chain)) :
    name = d.pathString ∧ ∃ ds last, Walk (Registry.ofSources sources) d (ds ++ [last])
      ∧ chain = (ds ++ [last]).map Declaration.pathString
      ∧ (ds.map Declaration.pathString).Nodup ∧ last ∈ ds := by
  have hcollects := (collects_iff hd).mpr h
  unfold Collects at hcollects
  split at hcollects
  · cases hcollects
  · split at hcollects
    · cases hcollects
    · obtain ⟨hname, ds, last, hwalk, hchain, hnodup, hlast⟩ :=
        hcollects.walk_of_cycle _ rfl List.nodup_nil
      refine ⟨hname, ds, last, hwalk, hchain, hnodup, ?_⟩
      -- both have one path, under which the registry has one type
      obtain ⟨e, he, hpath⟩ := List.mem_map.mp hlast
      have hregistered := hwalk.get? hd (List.mem_append_left _ he)
      rw [hpath, hwalk.get? hd (List.mem_append_right _ (List.mem_singleton.mpr rfl))]
        at hregistered
      rwa [Option.some.inj hregistered]

/-- **A chain is the walk along the parents.** Collecting the fields of a type of the crate ends.

If it ends well, the chain is that of a walk from the type to a struct without a link, in which
each struct is what the link of the one before means in the module of that one, and no struct occurs
twice. The fields are those of its structs, level by level, as they were read in the items of the
crate, without the links.

If it ends with a cycle, the chain that is reported is that of a walk which comes back to one of
its structs with its last step, and not before. -/
theorem ofDecl_along_parents (hd : (Registry.ofSources sources).get? d.pathString = some d) :
    (∀ result, Collects (Registry.ofSources sources) d result
      ↔ ofDecl (Registry.ofSources sources) d = result)
    ∧ (∀ c, ofDecl (Registry.ofSources sources) d = .ok c →
      ∃ ds, Walk (Registry.ofSources sources) d ds
        ∧ (∃ top, ds.getLast? = some top ∧ top.parent = none)
        ∧ c.chain = ds.map Declaration.pathString ∧ c.chain.Nodup
        ∧ c.fields = levelFields (Registry.ofSources sources) 0 ds
        ∧ ∀ e ∈ ds, ∃ body ∈ sources.bodies, ∃ i ∈ body.2, Declaration.ReadFrom body.1 i e)
    ∧ ∀ name chain,
      ofDecl (Registry.ofSources sources) d = .error (.inheritanceCycle name chain) →
      name = d.pathString ∧ ∃ ds last, Walk (Registry.ofSources sources) d (ds ++ [last])
        ∧ chain = (ds ++ [last]).map Declaration.pathString
        ∧ (ds.map Declaration.pathString).Nodup ∧ last ∈ ds :=
  ⟨fun _ => collects_iff hd, fun _ h => walk_of_ofDecl hd h,
    fun _ _ h => walk_of_ofDecl_cycle hd h⟩

end OfSources

/-! ## Two structs above each other -/

/-- A struct with one field, which is the link to its parent. -/
def linkedStruct (name parent : String) : Item :=
  BuilderSpec.structOf "TestBuilder" name
    [BuilderSpec.fieldOf [BuilderSpec.attributeOn "test_builder" "parent"] "above"
      (BuilderSpec.namedType parent)]

/-- An egg and a hen, each the parent of the other. -/
def circularSources : SourceSet where
  files := [⟨"src/lib.rs", .root, [], [linkedStruct "Hen" "Egg", linkedStruct "Egg" "Hen"]⟩]

def henDecl : Declaration where
  module := .root
  ident := ⟨"Hen", false⟩
  kind := .struct
  marker := .testBuilder
  generic := false
  fields := []
  parent := some ⟨⟨"above", false⟩, BuilderSpec.namedType "Egg"⟩

/-- The walk of the invoice ends at the record, and that of the hen comes back to the hen. -/
theorem along_parents_of_invoice_of_hen :
    (∃ c ds, ofDecl (Registry.ofSources BuilderSpec.invoiceSources) BuilderSpec.invoiceDecl = .ok c
      ∧ c.chain = ["crate::Invoice", "crate::Record"]
      ∧ Walk (Registry.ofSources BuilderSpec.invoiceSources) BuilderSpec.invoiceDecl ds
      ∧ c.chain = ds.map Declaration.pathString
      ∧ c.fields = levelFields (Registry.ofSources BuilderSpec.invoiceSources) 0 ds)
    ∧ ∃ ds last, Walk (Registry.ofSources circularSources) henDecl (ds ++ [last])
      ∧ (ds ++ [last]).map Declaration.pathString = ["crate::Hen", "crate::Egg", "crate::Hen"]
      ∧ last ∈ ds := by
  obtain ⟨-, hinvoice, -⟩ := ofDecl_along_parents
    (show (Registry.ofSources BuilderSpec.invoiceSources).get? BuilderSpec.invoiceDecl.pathString
      = some BuilderSpec.invoiceDecl from rfl)
  obtain ⟨-, -, hhen⟩ := ofDecl_along_parents
    (show (Registry.ofSources circularSources).get? henDecl.pathString = some henDecl from rfl)
  constructor
  · obtain ⟨ds, hwalk, -, hchain, -, hfields, -⟩ := hinvoice _ rfl
    exact ⟨_, ds, rfl, rfl, hwalk, hchain, hfields⟩
  · obtain ⟨-, ds, last, hwalk, hchain, -, hlast⟩ := hhen "crate::Hen" _ rfl
    exact ⟨ds, last, hwalk, hchain.symm, hlast⟩

end FieldChain

end BuilderForge
