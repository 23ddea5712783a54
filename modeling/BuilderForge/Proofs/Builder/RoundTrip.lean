import BuilderForge.Proofs.Anchoring.Meaning
import BuilderForge.Proofs.Builder.Setters
import BuilderForge.Proofs.FieldAccess.Run
import BuilderForge.Sample

set_option autoImplicit false

/-! # What a builder builds

A builder starts from the value that the constructor without arguments returns, and a call of a
setter assigns the field of the setter's name. `RoundTrips` says what is to come out in the end: no
sequence of calls faults, each field with a setter holds the last value that was passed to it, and
nothing else has changed, fields that are hidden by a nearer one included.

A value is refused if it is not of the type of the field, so all depends on the types that setters
take. `typeOf` stands for what the compiler makes of these. A builder round trips exactly if each
setter takes the type of its field (`roundTrips_iff`). An emitted type can be that of another field
though, since anchoring does not always keep the meaning of a path (`not_roundTrips_shadowed`).
-/

namespace BuilderForge

namespace FieldMatch

/-- A place belongs to one name. -/
theorem reach_eq_iff {ms : List FieldMatch} {name name' : String} {p : FieldPlace}
    (h : reach ms name = some p) : reach ms name' = some p ↔ name' = name := by
  constructor
  · intro h'
    obtain ⟨a, ha, hkey⟩ := armAt?_of_reach h
    obtain ⟨a', ha', hkey'⟩ := armAt?_of_reach h'
    obtain rfl := Option.some.inj (ha.symm.trans ha')
    exact hkey'.symm.trans hkey
  · rintro rfl
    exact h

end FieldMatch

/-- There is a value of every type. -/
theorem Value.exists_of_type (t : ValueType) : ∃ v : Value, v.type = t := by
  cases t with
  | int signed bits => exact ⟨.int signed bits 0, rfl⟩
  | bool => exact ⟨.bool false, rfl⟩
  | unit => exact ⟨.unit, rfl⟩
  | string => exact ⟨.string "", rfl⟩
  | borrowedText => exact ⟨.borrowedText "", rfl⟩
  | float => exact ⟨.float 0, rfl⟩
  | option t => exact ⟨.nothing t, rfl⟩
  | list t => exact ⟨.list t [], rfl⟩
  | map k v => exact ⟨.map k v [], rfl⟩
  | struct path => exact ⟨.struct path [], rfl⟩

namespace Instance

/-- The last value that is assigned under a name. -/
def lastValue? (steps : List (String × Value)) (name : String) : Option Value :=
  (steps.reverse.find? fun step => step.1 == name).map (·.2)

/-- The last value at the place of a name is the last one under the name. -/
theorem lastAt?_of_reach {ms : List FieldMatch} {name : String} {p : FieldPlace}
    (h : FieldMatch.reach ms name = some p) (steps : List (String × Value)) :
    lastAt? ms steps p = lastValue? steps name := by
  have hsame : (fun step : String × Value => FieldMatch.reach ms step.1 == some p)
      = fun step => step.1 == name := by
    funext step
    rw [Bool.eq_iff_iff, beq_iff_eq, beq_iff_eq]
    exact FieldMatch.reach_eq_iff h
  rw [lastAt?, lastValue?, hsame]

end Instance

namespace BuilderSpec

/-- Calls of setters as assignments by name. -/
def steps (calls : List (Setter × Value)) : List (String × Value) :=
  calls.map fun call => (call.1.fieldName, call.2)

/-- A call of a setter of the plan, with a value of the type that the setter takes. -/
def IsCall (spec : BuilderSpec) (typeOf : Code.Tree → ValueType) (call : Setter × Value) : Prop :=
  call.1 ∈ spec.setters ∧ call.2.type = typeOf call.1.type

/-- Each setter takes the type of the value that is in its field. -/
def TakesFieldTypes (r : Registry) (ds : List Declaration) (typeOf : Code.Tree → ValueType)
    (x : Instance) : Prop :=
  ∀ e ∈ FieldChain.placedLevels r 0 ds, isFirst (FieldChain.placedLevels r 0 ds) e = true →
    x.typeAt? e.1 = some (typeOf e.2.type)

/-- What is built from a value `x` is what the calls say. -/
structure RoundTrips (r : Registry) (ds : List Declaration) (spec : BuilderSpec)
    (typeOf : Code.Tree → ValueType) (sample : Sample) (x : Instance) : Prop where
  /-- No sequence of calls faults. Each field with a setter holds the last value that was passed to
  the setter, or else the one it had, and all other fields are as they were. -/
  builds : ∀ calls, (∀ call ∈ calls, spec.IsCall typeOf call) →
    ∃ y, (sample.start >>= fun x => x.setAll (steps calls)) = .ok y ∧ y.shape = x.shape
      ∧ (∀ s ∈ spec.setters, ∃ e ∈ FieldChain.placedLevels r 0 ds,
        isFirst (FieldChain.placedLevels r 0 ds) e = true ∧ s = Setter.of e.2
        ∧ ∃ slot, x.slot? e.1 = some slot ∧ y.slot? e.1
          = some (slot.with ((Instance.lastValue? (steps calls) s.fieldName).getD slot.value)))
      ∧ ∀ p, (∀ e ∈ FieldChain.placedLevels r 0 ds,
          isFirst (FieldChain.placedLevels r 0 ds) e = true → e.1 = p →
          Instance.lastValue? (steps calls) e.2.ident.name = none) →
        y.slot? p = x.slot? p
  /-- Neighbouring calls of setters of different names can be swapped. -/
  swaps : ∀ before after call call', (∀ other ∈ before, spec.IsCall typeOf other) →
    spec.IsCall typeOf call → spec.IsCall typeOf call' → call.1.fieldName ≠ call'.1.fieldName →
    x.setAll (steps (before ++ call :: call' :: after))
      = x.setAll (steps (before ++ call' :: call :: after))

variable {r : Registry} {d : Declaration} {c : FieldChain} {ds : List Declaration}
  {ss : List DerivedStruct} {policy : ShadowPolicy} {exposure : Exposure} {spec : BuilderSpec}
  {typeOf : Code.Tree → ValueType} {sample : Sample} {x : Instance}

/-- A call assigns the field that its setter was made from, which has the type of the value. -/
theorem fits_of_isCall (hc : FieldChain.ofDecl r d = .ok c)
    (hspec : ofFields policy exposure d c.fields = .ok spec) (hds : FieldChain.Lineage r d ds)
    (hss : List.Forall₂ Accepted ds ss) (hx : x.IsOf ss) (htypes : TakesFieldTypes r ds typeOf x)
    {call : Setter × Value} (hcall : spec.IsCall typeOf call) :
    x.Fits (call.1.fieldName, call.2) := by
  obtain ⟨hmem, htype⟩ := hcall
  obtain ⟨e, he, hof, hreach⟩ := exists_of_mem_setters hc hspec hds hss hmem
  refine ⟨e.1, ?_, ?_⟩
  · rw [hx.fieldMatches]
    exact hreach
  · rw [hof] at hreach
    rw [htypes e he ((isFirst_iff_reach hds hss e).mpr hreach), htype, hof]
    rfl

/-- If each setter takes the type of its field, the builder round trips. -/
theorem roundTrips_of_takesFieldTypes (hc : FieldChain.ofDecl r d = .ok c)
    (hspec : ofFields policy exposure d c.fields = .ok spec) (hds : FieldChain.Lineage r d ds)
    (hss : List.Forall₂ Accepted ds ss) (hstart : sample.start = .ok x) (hx : x.IsOf ss)
    (htypes : TakesFieldTypes r ds typeOf x) : RoundTrips r ds spec typeOf sample x := by
  have hfits : ∀ {calls : List (Setter × Value)}, (∀ call ∈ calls, spec.IsCall typeOf call) →
      ∀ step ∈ steps calls, x.Fits step := by
    intro calls hcalls step hstep
    obtain ⟨call, hcall, rfl⟩ := List.mem_map.mp hstep
    exact fits_of_isCall hc hspec hds hss hx htypes (hcalls call hcall)
  constructor
  · intro calls hcalls
    obtain ⟨y, hrun, hshape, hslots⟩ := x.setAll_of_fits (steps calls) (hfits hcalls)
    refine ⟨y, ?_, hshape, ?_, ?_⟩
    · rw [hstart]
      exact hrun
    · intro s hs
      obtain ⟨e, he, rfl, hreach⟩ := exists_of_mem_setters hc hspec hds hss hs
      have hfirst := (isFirst_iff_reach hds hss e).mpr hreach
      obtain ⟨slot, hslot, -⟩ := Option.map_eq_some_iff.mp (htypes e he hfirst)
      refine ⟨e, he, hfirst, rfl, slot, hslot, ?_⟩
      rw [hslots, hx.fieldMatches, Instance.lastAt?_of_reach hreach, hslot]
      cases Instance.lastValue? (steps calls) (Setter.of e.2).fieldName with
      | none => rfl
      | some v => rfl
    · intro p hp
      rw [hslots]
      cases hlast : Instance.lastAt? x.fieldMatches (steps calls) p with
      | none => rfl
      | some v =>
          -- a call that leads to the place is one of the setter of the field there
          exfalso
          obtain ⟨step, hfind, rfl⟩ := Option.map_eq_some_iff.mp hlast
          obtain ⟨call, hcall, rfl⟩ :=
            List.mem_map.mp (List.mem_reverse.mp (List.mem_of_find?_eq_some hfind))
          have hplace := List.find?_some hfind
          obtain ⟨e, he, hof, hreach⟩ :=
            exists_of_mem_setters hc hspec hds hss (hcalls call hcall).1
          rw [hx.fieldMatches, beq_iff_eq, hreach] at hplace
          have hfirst : isFirst (FieldChain.placedLevels r 0 ds) e = true := by
            rw [isFirst_iff_reach hds hss]
            rw [hof] at hreach
            exact hreach
          have hnone := hp e he hfirst (Option.some.inj hplace)
          have hname : call.1.fieldName = e.2.ident.name := by
            rw [hof]
            rfl
          rw [← hname, ← Instance.lastAt?_of_reach hreach, ← hx.fieldMatches,
            Option.some.inj hplace, hlast] at hnone
          cases hnone
  · intro before after call call' hbefore hcall hcall' hne
    simp only [steps, List.map_append, List.map_cons]
    refine x.setAll_swap_within (hfits hbefore) (fits_of_isCall hc hspec hds hss hx htypes hcall)
      (fits_of_isCall hc hspec hds hss hx htypes hcall') ?_
    intro hsame
    obtain ⟨e, -, -, hreach⟩ := exists_of_mem_setters hc hspec hds hss hcall.1
    rw [hx.fieldMatches, hreach] at hsame
    exact hne ((FieldMatch.reach_eq_iff hsame.symm).mp hreach)

/-- A builder that round trips lets each setter take the type of its field: a call with any other
value faults. -/
theorem takesFieldTypes_of_roundTrips (hc : FieldChain.ofDecl r d = .ok c)
    (hspec : ofFields policy exposure d c.fields = .ok spec) (hds : FieldChain.Lineage r d ds)
    (hss : List.Forall₂ Accepted ds ss) (hstart : sample.start = .ok x) (hx : x.IsOf ss)
    (h : RoundTrips r ds spec typeOf sample x) : TakesFieldTypes r ds typeOf x := by
  intro e he hfirst
  have hreach := (isFirst_iff_reach hds hss e).mp hfirst
  rw [← hx.fieldMatches] at hreach
  obtain ⟨v, hv⟩ := Value.exists_of_type (typeOf e.2.type)
  have hcall : spec.IsCall typeOf (Setter.of e.2, v) :=
    ⟨mem_setters_of_isFirst hc hspec hds he hfirst, hv⟩
  obtain ⟨y, hrun, -⟩ := h.builds [(Setter.of e.2, v)] fun call hmem =>
    (List.mem_singleton.mp hmem) ▸ hcall
  obtain ⟨s, owner, hs, hset⟩ := Instance.setField_of_reach hreach v
  have htype : v.type = s.value.type := by
    -- otherwise this one call is refused, and the run with it
    by_contra hne
    rw [if_neg hne] at hset
    rw [hstart] at hrun
    have hfault : x.setAll (steps [(Setter.of e.2, v)])
        = .error (.assign x.type e.2.ident.name
          (.typeMismatch owner e.2.ident.name s.value.type)) := by
      simp only [steps, List.map_cons, List.map_nil, Instance.setAll, List.foldlM_cons,
        Instance.set, Setter.of, hset]
      rfl
    rw [show (x.setAll (steps [(Setter.of e.2, v)])) = .ok y from hrun] at hfault
    cases hfault
  rw [Instance.typeAt?, hs, ← hv, htype]
  rfl

/-- A builder round trips exactly if each setter takes the type of the value that is in its field at
the start. -/
theorem roundTrips_iff (hc : FieldChain.ofDecl r d = .ok c)
    (hspec : ofFields policy exposure d c.fields = .ok spec) (hds : FieldChain.Lineage r d ds)
    (hss : List.Forall₂ Accepted ds ss) (hstart : sample.start = .ok x) (hx : x.IsOf ss) :
    RoundTrips r ds spec typeOf sample x ↔ TakesFieldTypes r ds typeOf x :=
  ⟨takesFieldTypes_of_roundTrips hc hspec hds hss hstart hx,
    roundTrips_of_takesFieldTypes hc hspec hds hss hstart hx⟩

/-! ## A field of a shadowed type

In the crate with the shadowed re-export, a struct of the module `a` has a field of the hidden type.
Its setter takes the type that shadows it. -/

def userItem : Code.Item :=
  structOf "TestBuilder" "U" [fieldOf [] "t" (.path .type false Registry.hiddenPath)]

def userSources : SourceSet := Registry.hiddenSources [.unitStruct .everywhere "T", userItem]

def userDecl : Declaration where
  module := ⟨["a"]⟩
  ident := ⟨"U", false⟩
  kind := .struct
  marker := .testBuilder
  generic := false
  fields := [⟨⟨"t", false⟩, .path .type false Registry.hiddenPath⟩]
  parent := none

def userStruct : DerivedStruct := ⟨⟨"U", false⟩, [⟨"t", false⟩], none, none⟩

def userInstance : Instance :=
  .root (.struct "crate::a::U") [Sample.slot "t" (.struct "crate::a::hidden::T" [])]

/-- A call of its setter with a value of the type that the setter takes. -/
def shadowedCall : Setter × Value :=
  (⟨⟨"t", false⟩, "t", (Registry.cratePath ["a", "T"]).toTree .type, "crate::a::U"⟩,
    .struct "crate::a::T" [])

/-- Even if each field holds a value of the type that is written for it, and values passed to a
setter are of the type that the setter takes, a builder does not always round trip. -/
theorem not_roundTrips_shadowed :
    ¬ ∀ (sources : SourceSet) (d : Declaration) (c : FieldChain) (spec : BuilderSpec)
      (ds : List Declaration) (ss : List DerivedStruct) (sample : Sample) (x : Instance)
      (typeOf : Code.Tree → ValueType),
      FieldChain.ofDecl (.ofSources sources) d = .ok c →
      ofFields .reject .everyone d c.fields = .ok spec →
      FieldChain.Lineage (.ofSources sources) d ds → List.Forall₂ Accepted ds ss →
      sample.start = .ok x → x.IsOf ss →
      (∀ (p : FieldPlace) e f, ds[p.level]? = some e → e.fields[p.index]? = some f →
        ∃ written, (Registry.ofSources sources).resolveDecl? e.module f.type = some written
          ∧ x.typeAt? p = some (.struct written.pathString)) →
      (∀ s ∈ spec.setters, ∀ m, ∃ emitted,
        (Registry.ofSources sources).resolveDecl? m s.type = some emitted
          ∧ typeOf s.type = .struct emitted.pathString) →
      RoundTrips (.ofSources sources) ds spec typeOf sample x := by
  intro h
  have hround := h userSources userDecl _ _ [userDecl] [userStruct]
    (Sample.plain "a" "U" userInstance) userInstance (fun _ => .struct "crate::a::T") rfl rfl
    (.top rfl) (.cons ⟨⟨["a"]⟩, userItem, .testBuilder, rfl, rfl⟩ .nil) rfl rfl ?_ ?_
  · obtain ⟨y, hrun, -⟩ := hround.builds [shadowedCall] fun call hcall => by
      obtain rfl := List.mem_singleton.mp hcall
      exact ⟨List.mem_singleton.mpr rfl, rfl⟩
    cases hrun
  · rintro ⟨level, index⟩ e f he hf
    cases level with
    | succ level => simp at he
    | zero =>
        obtain rfl := Option.some.inj he
        cases index with
        | succ index => simp [userDecl] at hf
        | zero =>
            obtain rfl := Option.some.inj hf
            exact ⟨Registry.hiddenType, rfl, rfl⟩
  · intro s hs m
    obtain rfl := List.mem_singleton.mp hs
    exact ⟨_, rfl, rfl⟩

/-! ## A field that hides one of the parent -/

/-- The types of the fields of an invoice and its record. -/
def invoiceType (t : Code.Tree) : ValueType :=
  match t with
  | .path _ _ [.mk i _] =>
      if i.name == "String" then .string
      else if i.name == "i64" then .int true 64
      else .int false 64
  | _ => .unit

/-- The setter of `id` leaves the `id` of the record alone. -/
theorem roundTrips_invoice :
    ∃ c spec, FieldChain.ofDecl (Registry.ofSources invoiceSources) invoiceDecl = .ok c
      ∧ ofFields .mostDerived .everyone invoiceDecl c.fields = .ok spec
      ∧ RoundTrips (Registry.ofSources invoiceSources) [invoiceDecl, recordDecl] spec invoiceType
        (Sample.plain "accounts" "Invoice" Sample.invoiceInstance) Sample.invoiceInstance := by
  refine ⟨_, _, rfl, rfl, ?_⟩
  have hstart : (Sample.plain "accounts" "Invoice" Sample.invoiceInstance).start
      = .ok Sample.invoiceInstance := rfl
  have hx : Sample.invoiceInstance.IsOf [invoiceStruct, recordStruct] := rfl
  refine (roundTrips_iff rfl (show ofFields .mostDerived .everyone invoiceDecl _ = .ok _ from rfl)
    lineage_invoice accepted_invoice hstart hx).mpr ?_
  have hplaced : ∀ e ∈ FieldChain.placedLevels (Registry.ofSources invoiceSources) 0
      [invoiceDecl, recordDecl],
      Sample.invoiceInstance.typeAt? e.1 = some (invoiceType e.2.type) := by
    decide +kernel
  exact fun e he _ => hplaced e he

end BuilderSpec

end BuilderForge
