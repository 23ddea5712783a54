import BuilderForge.BuilderCode
import BuilderForge.Proofs.Derive.Accepted
import Mathlib.Data.List.Induction
import Mathlib.Data.List.Perm.Basic

set_option autoImplicit false

/-! # The plan for a list of fields

Fields are gone through in their order, and what becomes of one depends on those in front of it.
`Offends` says which fields stop the plan: one with a name that every builder has for a method of
its own, and, if shadowing is to be rejected, one whose name occurs in front. The first such field
is what a failure tells of (`partition_eq_error_iff`). Without one the plan is made: a setter for
each field that is the first one of its name, while the others are skipped (`planned`).

Since names of setters are not repeated and none of them is reserved, no two methods of a builder
have one name.
-/

namespace BuilderForge

open Code.Tokens (word)
open scoped List

/-- The setter that a field gets. -/
def Setter.of (f : ChainField) : Setter := ⟨f.ident, f.ident.name, f.type, f.declaredOn⟩

namespace ChainField

/-- Whether none of the fields in front has the name of a field. -/
def isNewTo (before : List ChainField) (f : ChainField) : Bool :=
  before.all fun g => g.ident.name != f.ident.name

theorem isNewTo_iff {before : List ChainField} {f : ChainField} :
    isNewTo before f = true ↔ ∀ g ∈ before, g.ident.name ≠ f.ident.name := by
  simp [isNewTo]

/-- The fields, in their order, that are the first ones of their names, or those that are not. -/
def selected (new : Bool) (fields : List ChainField) : List ChainField :=
  (fields.zipIdx.filter fun e => isNewTo (fields.take e.2) e.1 == new).map (·.1)

/-- The fields that are the first ones of their names. -/
def firsts (fields : List ChainField) : List ChainField := selected true fields

/-- The fields that come after another one of their name. -/
def repeats (fields : List ChainField) : List ChainField := selected false fields

/-- Whether a field is the first of its name does not depend on the fields behind it. -/
theorem selected_concat (new : Bool) (before : List ChainField) (f : ChainField) :
    selected new (before ++ [f])
      = selected new before ++ if isNewTo before f == new then [f] else [] := by
  have hfront : (before.zipIdx.filter fun e => isNewTo ((before ++ [f]).take e.2) e.1 == new)
      = before.zipIdx.filter fun e => isNewTo (before.take e.2) e.1 == new := by
    apply List.filter_congr
    intro e he
    have hlt : e.2 < before.length := by
      obtain ⟨hlt, -⟩ := List.getElem?_eq_some_iff.mp (List.mem_zipIdx_iff_getElem?.mp he)
      exact hlt
    rw [List.take_append_of_le_length (Nat.le_of_lt hlt)]
  rw [selected, List.zipIdx_append, List.filter_append, hfront, List.map_append, ← selected]
  congr 1
  by_cases h : (isNewTo before f == new) = true
  · simp [h]
  · simp [h]

theorem firsts_concat (before : List ChainField) (f : ChainField) :
    firsts (before ++ [f]) = firsts before ++ if isNewTo before f then [f] else [] := by
  simp [firsts, selected_concat]

theorem repeats_concat (before : List ChainField) (f : ChainField) :
    repeats (before ++ [f]) = repeats before ++ if isNewTo before f then [] else [f] := by
  rw [repeats, selected_concat]
  cases isNewTo before f <;> rfl

/-- No field gets lost and none is doubled. -/
theorem perm_firsts_repeats (fields : List ChainField) :
    (firsts fields ++ repeats fields).Perm fields := by
  have hnew : ∀ e : ChainField × Nat, (isNewTo (fields.take e.2) e.1 == false)
      = !(isNewTo (fields.take e.2) e.1 == true) := by
    intro e
    cases isNewTo (fields.take e.2) e.1 <;> rfl
  have hsplit := (List.filter_append_perm
    (fun e : ChainField × Nat => isNewTo (fields.take e.2) e.1 == true) fields.zipIdx).map (·.1)
  rw [List.map_append, List.zipIdx_map_fst] at hsplit
  simpa only [firsts, repeats, selected, hnew] using hsplit

/-- The first one of a name is found among the firsts as it is among all. -/
theorem find?_firsts (name : String) (fields : List ChainField) :
    (firsts fields).find? (fun g => g.ident.name == name)
      = fields.find? fun g => g.ident.name == name := by
  induction fields using List.reverseRecOn with
  | nil => rfl
  | append_singleton before f ih =>
      rw [firsts_concat, List.find?_append, List.find?_append, ih]
      cases hfound : before.find? fun g => g.ident.name == name with
      | some first => rfl
      | none =>
          by_cases hnew : isNewTo before f = true
          · rw [if_pos hnew]
          · -- the name of `f` occurs before and so is another one
            have hname : (f.ident.name == name) = false := by
              rw [beq_eq_false_iff_ne]
              rintro rfl
              refine hnew (isNewTo_iff.mpr fun g hg => ?_)
              simpa using List.find?_eq_none.mp hfound g hg
            rw [if_neg hnew, List.find?_cons, hname]

theorem firsts_subset (fields : List ChainField) : firsts fields ⊆ fields :=
  fun _ hf => (perm_firsts_repeats fields).subset (List.mem_append_left _ hf)

/-- No two firsts have one name. -/
theorem nodup_firsts (fields : List ChainField) :
    ((firsts fields).map fun f => f.ident.name).Nodup := by
  induction fields using List.reverseRecOn with
  | nil => exact List.nodup_nil
  | append_singleton before f ih =>
      rw [firsts_concat]
      by_cases hnew : isNewTo before f = true
      · rw [if_pos hnew, List.map_append, List.map_singleton, ← List.concat_eq_append]
        refine List.Nodup.concat ?_ ih
        intro hmem
        obtain ⟨g, hg, hname⟩ := List.mem_map.mp hmem
        exact isNewTo_iff.mp hnew g (firsts_subset before hg) hname
      · rw [if_neg hnew, List.append_nil]
        exact ih

/-- Among fields of different names every one is the first of its name. -/
theorem selected_of_nodup {fields : List ChainField}
    (h : (fields.map fun f => f.ident.name).Nodup) :
    firsts fields = fields ∧ repeats fields = [] := by
  induction fields using List.reverseRecOn with
  | nil => exact ⟨rfl, rfl⟩
  | append_singleton before f ih =>
      rw [List.map_append, List.map_singleton, List.nodup_append'] at h
      obtain ⟨hbefore, -, hdisjoint⟩ := h
      obtain ⟨hfirsts, hrepeats⟩ := ih hbefore
      have hnew : isNewTo before f = true := by
        rw [isNewTo_iff]
        intro g hg hname
        exact hdisjoint (List.mem_map.mpr ⟨g, hg, hname⟩) (List.mem_singleton.mpr rfl)
      rw [firsts_concat, repeats_concat, if_pos hnew, if_pos hnew, hfirsts, hrepeats]
      exact ⟨rfl, rfl⟩

end ChainField

namespace BuilderSpec

open ChainField

/-! ## Fields that stop a plan -/

/-- A field stops the plan with a failure, after the fields in front of it. A reserved name is told
before a repeated one is. -/
inductive Offends (policy : ShadowPolicy) (before : List ChainField) (f : ChainField) :
    BuilderFailure → Prop
  | reserved (hname : f.ident.name ∈ reservedSetterNames) :
      Offends policy before f (.reservedSetterName f.ident.name f.declaredOn)
  | shadowed (hpolicy : policy = .reject) (hname : f.ident.name ∉ reservedSetterNames)
      {first : ChainField}
      (hfirst : before.find? (fun g => g.ident.name == f.ident.name) = some first) :
      Offends policy before f (.shadowedField f.ident.name f.declaredOn first.declaredOn)

/-- No field stops the plan. -/
def IsClean (policy : ShadowPolicy) (fields : List ChainField) : Prop :=
  ∀ before f after, fields = before ++ f :: after → ∀ e, ¬ Offends policy before f e

/-- The first field that stops the plan stops it with this failure. -/
def FirstOffence (policy : ShadowPolicy) (fields : List ChainField) (e : BuilderFailure) : Prop :=
  ∃ before f after, fields = before ++ f :: after ∧ Offends policy before f e
    ∧ IsClean policy before

/-- The setters for the firsts, and the fields that are skipped. -/
def planned (fields : List ChainField) : List Setter × List ChainField :=
  ((firsts fields).map Setter.of, repeats fields)

variable {policy : ShadowPolicy} {before fields : List ChainField} {f : ChainField}
  {e : BuilderFailure}

theorem isClean_nil (policy : ShadowPolicy) : IsClean policy [] := by
  intro before f after h
  simp at h

/-- The last field is judged by those in front of it. -/
theorem isClean_concat_iff :
    IsClean policy (before ++ [f]) ↔ IsClean policy before ∧ ∀ e, ¬ Offends policy before f e := by
  constructor
  · intro h
    refine ⟨fun front g after hsplit => ?_, h before f [] rfl⟩
    exact h front g (after ++ [f]) (by simp [hsplit])
  · rintro ⟨hbefore, hlast⟩ front g after hsplit
    rcases after.eq_nil_or_concat' with rfl | ⟨middle, last, rfl⟩
    · obtain ⟨rfl, hg⟩ := List.append_inj' hsplit rfl
      obtain rfl : f = g := by simpa using hg
      exact hlast
    · have hassoc : before ++ [f] = (front ++ g :: middle) ++ [last] := by simp [hsplit]
      exact hbefore front g middle (List.append_inj' hassoc rfl).1

/-- A plan fails at its first offending field, or nowhere. -/
theorem isClean_or_firstOffence (policy : ShadowPolicy) (fields : List ChainField) :
    IsClean policy fields ∨ ∃ e, FirstOffence policy fields e := by
  induction fields using List.reverseRecOn with
  | nil => exact .inl (isClean_nil policy)
  | append_singleton before f ih =>
      rcases ih with hclean | ⟨e, front, g, after, hsplit, hoffends, hfront⟩
      · by_cases hlast : ∃ e, Offends policy before f e
        · obtain ⟨e, he⟩ := hlast
          exact .inr ⟨e, before, f, [], rfl, he, hclean⟩
        · exact .inl (isClean_concat_iff.mpr ⟨hclean, fun e he => hlast ⟨e, he⟩⟩)
      · exact .inr ⟨e, front, g, after ++ [f], by simp [hsplit], hoffends, hfront⟩

/-! ## Going through the fields -/

/-- A setter of a name is there if a field in front has the name. -/
theorem find?_planned (name : String) (fields : List ChainField) :
    (planned fields).1.find? (fun s => s.fieldName == name)
      = (fields.find? fun g => g.ident.name == name).map Setter.of := by
  rw [planned, List.find?_map, ← find?_firsts]
  rfl

theorem addField_of_offends (h : Offends policy before f e) :
    addField policy (planned before) f = .error e := by
  cases h with
  | reserved hname =>
      have hreserved : reservedSetterNames.contains f.ident.name = true := by simpa using hname
      simp only [addField, hreserved, if_true]
  | @shadowed hpolicy hname first hfirst =>
      have hfree : reservedSetterNames.contains f.ident.name = false := by simpa using hname
      subst hpolicy
      simp only [addField, hfree, Bool.false_eq_true, if_false, find?_planned, hfirst,
        Option.map_some]
      rfl

theorem addField_of_not_offends (h : ∀ e, ¬ Offends policy before f e) :
    addField policy (planned before) f = .ok (planned (before ++ [f])) := by
  have hname : f.ident.name ∉ reservedSetterNames := fun hmem => h _ (.reserved hmem)
  have hfree : reservedSetterNames.contains f.ident.name = false := by simpa using hname
  simp only [addField, hfree, Bool.false_eq_true, if_false, find?_planned]
  cases hfirst : before.find? fun g => g.ident.name == f.ident.name with
  | none =>
      have hnew : isNewTo before f = true := by
        rw [isNewTo_iff]
        intro g hg
        simpa using List.find?_eq_none.mp hfirst g hg
      simp [planned, firsts_concat, repeats_concat, hnew, Setter.of]
  | some first =>
      have hold : isNewTo before f = false := by
        rw [← Bool.not_eq_true, isNewTo_iff]
        intro hnew
        exact hnew first (List.mem_of_find?_eq_some hfirst) (by simpa using List.find?_some hfirst)
      cases policy with
      | reject => exact absurd (.shadowed rfl hname hfirst) (h _)
      | mostDerived => simp [planned, firsts_concat, repeats_concat, hold]

theorem partition_concat (policy : ShadowPolicy) (before : List ChainField) (f : ChainField) :
    partition policy (before ++ [f])
      = partition policy before >>= fun found => addField policy found f := by
  rw [partition, List.foldlM_append]
  congr 1
  funext found
  exact List.foldlM_cons.trans (bind_pure _)

/-- Fields that nothing is wrong with are planned. -/
theorem partition_of_isClean (h : IsClean policy fields) :
    partition policy fields = .ok (planned fields) := by
  induction fields using List.reverseRecOn with
  | nil => rfl
  | append_singleton before f ih =>
      obtain ⟨hbefore, hlast⟩ := isClean_concat_iff.mp h
      rw [partition_concat, ih hbefore]
      exact addField_of_not_offends hlast

/-- The first offence is what the plan fails with, whatever is behind it. -/
theorem partition_of_firstOffence (h : FirstOffence policy fields e) :
    partition policy fields = .error e := by
  obtain ⟨before, f, after, rfl, hoffends, hclean⟩ := h
  have hfront := partition_of_isClean hclean
  rw [partition] at hfront
  rw [partition, List.foldlM_append, hfront]
  show (addField policy (planned before) f >>= _) = _
  rw [addField_of_offends hoffends]
  rfl

theorem partition_eq_ok_iff {found : List Setter × List ChainField} :
    partition policy fields = .ok found ↔ IsClean policy fields ∧ found = planned fields := by
  constructor
  · intro h
    rcases isClean_or_firstOffence policy fields with hclean | ⟨e, he⟩
    · exact ⟨hclean, Except.ok.inj (h.symm.trans (partition_of_isClean hclean))⟩
    · rw [partition_of_firstOffence he] at h
      cases h
  · rintro ⟨hclean, rfl⟩
    exact partition_of_isClean hclean

theorem partition_eq_error_iff :
    partition policy fields = .error e ↔ FirstOffence policy fields e := by
  refine ⟨fun h => ?_, partition_of_firstOffence⟩
  rcases isClean_or_firstOffence policy fields with hclean | ⟨e', he'⟩
  · rw [partition_of_isClean hclean] at h
    cases h
  · obtain rfl := Except.error.inj (h.symm.trans (partition_of_firstOffence he'))
    exact he'

/-! ## When a plan is made -/

/-- No field has a reserved name. -/
def NoneReserved (fields : List ChainField) : Prop :=
  ∀ f ∈ fields, f.ident.name ∉ reservedSetterNames

instance (fields : List ChainField) : Decidable (NoneReserved fields) :=
  inferInstanceAs (Decidable (∀ f ∈ fields, f.ident.name ∉ reservedSetterNames))

theorem IsClean.noneReserved (h : IsClean policy fields) : NoneReserved fields := by
  intro f hf hname
  obtain ⟨before, after, hsplit⟩ := List.append_of_mem hf
  exact h before f after hsplit _ (.reserved hname)

/-- If the nearest field wins, only reserved names are refused. -/
theorem isClean_mostDerived_iff : IsClean .mostDerived fields ↔ NoneReserved fields := by
  refine ⟨IsClean.noneReserved, ?_⟩
  rintro h before f after rfl e (hname | ⟨hpolicy, -, -⟩)
  · exact h f (by simp) hname
  · cases hpolicy

/-- Otherwise repeated names are refused, too. -/
theorem isClean_reject_iff :
    IsClean .reject fields
      ↔ NoneReserved fields ∧ (fields.map fun f => f.ident.name).Nodup := by
  constructor
  · intro h
    refine ⟨h.noneReserved, ?_⟩
    induction fields using List.reverseRecOn with
    | nil => exact List.nodup_nil
    | append_singleton before f ih =>
        obtain ⟨hbefore, hlast⟩ := isClean_concat_iff.mp h
        rw [List.map_append, List.map_singleton, ← List.concat_eq_append]
        refine List.Nodup.concat ?_ (ih hbefore)
        intro hmem
        obtain ⟨g, hg, hname⟩ := List.mem_map.mp hmem
        have hfound : ∃ first,
            before.find? (fun g => g.ident.name == f.ident.name) = some first := by
          rw [← Option.isSome_iff_exists, List.find?_isSome]
          exact ⟨g, hg, by simpa using hname⟩
        obtain ⟨first, hfirst⟩ := hfound
        exact hlast _ (.shadowed rfl (h.noneReserved f (by simp)) hfirst)
  · rintro ⟨hreserved, hnodup⟩ before f after rfl e (hname | ⟨-, -, hfirst⟩)
    · exact hreserved f (by simp) hname
    · rw [List.map_append, List.nodup_append'] at hnodup
      have hname := List.find?_some hfirst
      exact hnodup.2.2 (List.mem_map.mpr ⟨_, List.mem_of_find?_eq_some hfirst, rfl⟩)
        (by simpa using Or.inl hname)

/-! ## The plan of a builder -/

variable {exposure : Exposure} {d : Declaration} {spec : BuilderSpec}

/-- The plan of the builder of a struct, with a setter for each of the firsts. -/
def planOf (exposure : Exposure) (d : Declaration) (fields : List ChainField) : BuilderSpec where
  target := d.typePath
  targetName := d.pathString
  wrapper := wrapperIdent d.ident
  module := builderModuleIdent d.ident
  space := d.module
  setters := (planned fields).1
  skipped := (planned fields).2
  exposure := exposure

theorem ofFields_eq_ok_iff :
    ofFields policy exposure d fields = .ok spec
      ↔ IsClean policy fields ∧ spec = planOf exposure d fields := by
  constructor
  · intro h
    obtain ⟨found, hfound, hspec⟩ := bind_eq_ok h
    obtain ⟨hclean, rfl⟩ := partition_eq_ok_iff.mp hfound
    exact ⟨hclean, (Except.ok.inj hspec).symm⟩
  · rintro ⟨hclean, rfl⟩
    rw [ofFields, partition_of_isClean hclean]
    rfl

theorem ofFields_eq_error_iff :
    ofFields policy exposure d fields = .error e ↔ FirstOffence policy fields e := by
  rw [← partition_eq_error_iff, ofFields]
  cases partition policy fields with
  | ok found => simp [bind, Except.bind, pure, Except.pure]
  | error e' => simp [bind, Except.bind]

theorem exists_ofFields_iff :
    (∃ spec, ofFields policy exposure d fields = .ok spec) ↔ IsClean policy fields := by
  constructor
  · rintro ⟨spec, hspec⟩
    exact (ofFields_eq_ok_iff.mp hspec).1
  · intro h
    exact ⟨_, ofFields_eq_ok_iff.mpr ⟨h, rfl⟩⟩

/-! ## The methods of a builder -/

/-- A builder has the methods that every one has, and the setters. -/
theorem map_name_methods (spec : BuilderSpec) :
    (spec.methods.map fun m => m.name.name).Perm
      (reservedSetterNames ++ spec.setters.map fun s => s.ident.name) := by
  have hnames : (spec.methods.map fun m => m.name.name)
      = ["new", "try_new", "set_field"] ++ (spec.setters.map fun s => s.ident.name)
        ++ ["build"] := by
    simp only [methods, List.map_append, List.map_cons, List.map_nil, List.map_map]
    rfl
  rw [hnames]
  calc ["new", "try_new", "set_field"] ++ (spec.setters.map fun s => s.ident.name) ++ ["build"]
      _ ~ ["build"] ++ (["new", "try_new", "set_field"]
            ++ spec.setters.map fun s => s.ident.name) := List.perm_append_comm
      _ ~ reservedSetterNames ++ spec.setters.map fun s => s.ident.name := by
        rw [← List.append_assoc]
        exact List.Perm.append_right _ (by decide)

/-- Methods are told apart by their names. -/
theorem nodup_methods (h : ofFields policy exposure d fields = .ok spec) :
    (spec.methods.map fun m => m.name.name).Nodup := by
  obtain ⟨hclean, rfl⟩ := ofFields_eq_ok_iff.mp h
  have hsetters : ((planOf exposure d fields).setters.map fun s => s.ident.name)
      = (firsts fields).map fun f => f.ident.name := by
    simp only [planOf, planned, List.map_map]
    rfl
  rw [(map_name_methods _).nodup_iff, hsetters, List.nodup_append']
  refine ⟨by decide, nodup_firsts fields, ?_⟩
  intro name hreserved hname
  obtain ⟨f, hf, rfl⟩ := List.mem_map.mp hname
  exact hclean.noneReserved f (firsts_subset fields hf) hreserved

/-- The methods stand in the code of the builder module, in the body of the builder. -/
theorem exists_code_eq (spec : BuilderSpec) :
    ∃ front back, spec.code = front ++ implTokens (word "Builder") spec.methods ++ back :=
  ⟨_, _, rfl⟩

/-- What is made of a list of fields. -/
structure PlansFields (exposure : Exposure) (d : Declaration) (fields : List ChainField) :
    Prop where
  /-- If the nearest field wins, the firsts get setters and the others are skipped, all of them in
  their order. -/
  mostDerived : NoneReserved fields →
    ∃ spec, ofFields .mostDerived exposure d fields = .ok spec
      ∧ spec.setters = (firsts fields).map Setter.of ∧ spec.skipped = repeats fields
  /-- No field gets lost by that and none is doubled. -/
  lossless : (firsts fields ++ repeats fields).Perm fields
  /-- If shadowing is rejected, there is a plan exactly if no name is reserved and none repeated. -/
  reject : (∃ spec, ofFields .reject exposure d fields = .ok spec)
    ↔ NoneReserved fields ∧ (fields.map fun f => f.ident.name).Nodup
  /-- The setters mirror the fields then. -/
  mirrors : ∀ spec, ofFields .reject exposure d fields = .ok spec →
    spec.setters = fields.map Setter.of ∧ spec.skipped = []
  /-- A failure tells of the first field that offends. -/
  fails : ∀ policy e, ofFields policy exposure d fields = .error e ↔ FirstOffence policy fields e
  /-- No two methods of the builder have one name. -/
  methods : ∀ policy spec, ofFields policy exposure d fields = .ok spec →
    (∃ front back, spec.code = front ++ implTokens (word "Builder") spec.methods ++ back)
      ∧ (spec.methods.map fun m => m.name.name).Nodup

/-- Every list of fields is planned so, whatever the struct is. -/
theorem plans_fields (exposure : Exposure) (d : Declaration) (fields : List ChainField) :
    PlansFields exposure d fields where
  mostDerived h :=
    ⟨_, ofFields_eq_ok_iff.mpr ⟨isClean_mostDerived_iff.mpr h, rfl⟩, rfl, rfl⟩
  lossless := perm_firsts_repeats fields
  reject := exists_ofFields_iff.trans isClean_reject_iff
  mirrors := by
    intro spec hspec
    obtain ⟨hclean, rfl⟩ := ofFields_eq_ok_iff.mp hspec
    obtain ⟨hfirsts, hrepeats⟩ := selected_of_nodup (isClean_reject_iff.mp hclean).2
    simp only [planOf, planned, hfirsts, hrepeats, and_self]
  fails := fun _ _ => ofFields_eq_error_iff
  methods := fun _ spec hspec => ⟨exists_code_eq spec, nodup_methods hspec⟩

/-- The nearer of two fields of one name gets the setter, or the farther one is complained about. -/
example :
    let near : ChainField := ⟨⟨"id", true⟩, .absent, "crate::Invoice", 0⟩
    let far : ChainField := ⟨⟨"id", false⟩, .absent, "crate::Record", 1⟩
    partition .mostDerived [near, far] = .ok ([Setter.of near], [far])
      ∧ partition .reject [near, far]
        = .error (.shadowedField "id" "crate::Record" "crate::Invoice") :=
  ⟨rfl, rfl⟩

end BuilderSpec

end BuilderForge
