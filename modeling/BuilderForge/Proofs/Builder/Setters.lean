import BuilderForge.Proofs.Builder.Partition
import BuilderForge.Proofs.FieldAccess.Assign

set_option autoImplicit false

/-! # Which fields get setters

The fields of a chain are gone through nearest first. The first field of a name gets a setter, and
later ones of the name are skipped (`partition_placed`). The walk along the derived matches of the
chain ends at the first field of a name, too (`isFirst_iff_reach`).
-/

namespace BuilderForge

namespace BuilderSpec

/-- The fields of a chain with their places. -/
abbrev Placed := List (FieldPlace × ChainField)

/-- The first field of a name. -/
def firstOf? (all : Placed) (name : String) : Option (FieldPlace × ChainField) :=
  all.find? fun e => e.2.ident.name == name

/-- Whether a field stands at the place of the first one of its name. -/
def isFirst (all : Placed) (e : FieldPlace × ChainField) : Bool :=
  (firstOf? all e.2.ident.name).map (·.1) == some e.1

variable {all before rest : Placed} {e : FieldPlace × ChainField}

/-- Among the fields so far there is the first one of a name that occurs in them. -/
theorem exists_isFirst (rest : Placed) {name : String} (h : ∃ e ∈ before, e.2.ident.name = name) :
    ∃ e ∈ before, e.2.ident.name = name ∧ isFirst (before ++ rest) e = true := by
  obtain ⟨e, he, hname⟩ := h
  cases hfind : firstOf? before name with
  | none =>
      have hne := List.find?_eq_none.mp hfind e he
      exact absurd hname (by simpa using hne)
  | some first =>
      have hfirst : first.2.ident.name = name := by simpa using List.find?_some hfind
      refine ⟨first, List.mem_of_find?_eq_some hfind, hfirst, ?_⟩
      have hall : firstOf? (before ++ rest) first.2.ident.name = some first := by
        rw [hfirst, firstOf?, List.find?_append, show before.find? _ = some first from hfind]
        rfl
      simp [isFirst, hall]

/-- A field is the first one of its name if none before it has the name. -/
theorem isFirst_iff (hnodup : ((before ++ e :: rest).map (·.1)).Nodup) :
    isFirst (before ++ e :: rest) e = true ↔ ∀ e' ∈ before, e'.2.ident.name ≠ e.2.ident.name := by
  constructor
  · intro h e' he' hname
    obtain ⟨first, hmem, hfirst, hisFirst⟩ := exists_isFirst (e :: rest) ⟨e', he', hname⟩
    -- both stand at the place of the first field of the name
    simp only [isFirst, beq_iff_eq, hfirst] at h hisFirst
    have hplace : first.1 = e.1 := Option.some.inj (hisFirst.symm.trans h)
    rw [List.map_append, List.map_cons, List.nodup_append] at hnodup
    exact hnodup.2.2 _ (List.mem_map.mpr ⟨first, hmem, rfl⟩) _ List.mem_cons_self hplace
  · intro h
    have hnone : before.find? (fun e' => e'.2.ident.name == e.2.ident.name) = none := by
      rw [List.find?_eq_none]
      intro e' he'
      simpa using h e' he'
    simp [isFirst, firstOf?, List.find?_append, hnone]

/-- The fields that get setters, and those that are skipped. -/
def split (all : Placed) (some : Placed) : List Setter × List ChainField :=
  ((some.filter (isFirst all)).map fun e => Setter.of e.2,
    (some.filter fun e => !isFirst all e).map (·.2))

/-- Among fields at different places, those at the place of the first one of their name are the
firsts. -/
theorem split_eq_planned (before : Placed) (hnodup : ((before ++ rest).map (·.1)).Nodup) :
    split (before ++ rest) before = planned (before.map (·.2)) := by
  induction before using List.reverseRecOn generalizing rest with
  | nil => rfl
  | append_singleton before e ih =>
      rw [List.append_assoc, List.singleton_append] at hnodup ⊢
      have hnew : isFirst (before ++ e :: rest) e = ChainField.isNewTo (before.map (·.2)) e.2 := by
        rw [Bool.eq_iff_iff, isFirst_iff hnodup, ChainField.isNewTo_iff, List.forall_mem_map]
      obtain ⟨hsetters, hskipped⟩ := Prod.mk.inj (ih hnodup)
      rw [planned, List.map_append, List.map_singleton, ChainField.firsts_concat,
        ChainField.repeats_concat, List.map_append, ← hsetters, ← hskipped, ← hnew]
      cases hfirst : isFirst (before ++ e :: rest) e <;> simp [split, hfirst]

/-- A plan splits the fields into the first ones of their names and the others. -/
theorem partition_placed {policy : ShadowPolicy} {found : List Setter × List ChainField}
    (hnodup : (all.map (·.1)).Nodup) (h : partition policy (all.map (·.2)) = .ok found) :
    found = split all all := by
  rw [(partition_eq_ok_iff.mp h).2]
  have hsplit : split (all ++ []) all = planned (all.map (·.2)) :=
    split_eq_planned all (by simpa using hnodup)
  rw [List.append_nil] at hsplit
  exact hsplit.symm

/-! ## The plan and the walk -/

section Plan

variable {r : Registry} {d : Declaration} {c : FieldChain} {ds : List Declaration}
  {ss : List DerivedStruct} {policy : ShadowPolicy} {exposure : Exposure} {spec : BuilderSpec}

/-- The setters of a plan are the first fields of the lineage, and the skipped fields are the
others. -/
theorem split_of_plan (hc : FieldChain.ofDecl r d = .ok c)
    (hspec : ofFields policy exposure d c.fields = .ok spec) (hds : FieldChain.Lineage r d ds) :
    (spec.setters, spec.skipped)
      = split (FieldChain.placedLevels r 0 ds) (FieldChain.placedLevels r 0 ds) := by
  obtain ⟨ds', path, -, -, hg⟩ := FieldChain.gathers_of_ofDecl r hc
  obtain rfl := hds.unique r hg.lineage
  have hfields : c.fields = (FieldChain.placedLevels r 0 ds).map (·.2) := by
    rw [FieldChain.map_snd_placedLevels]
    exact hg.fields
  obtain ⟨found, hfound, hspec⟩ := bind_eq_ok hspec
  obtain rfl := Except.ok.inj hspec
  rw [hfields] at hfound
  exact partition_placed (FieldChain.nodup_placedLevels r 0 ds) hfound

/-- A field is the first one of its name exactly if the walk for the name ends at it. -/
theorem isFirst_iff_reach (hds : FieldChain.Lineage r d ds) (hss : List.Forall₂ Accepted ds ss)
    (e : FieldPlace × ChainField) :
    isFirst (FieldChain.placedLevels r 0 ds) e = true
      ↔ FieldMatch.reach (ss.map DerivedStruct.fieldMatch) e.2.ident.name = some e.1 := by
  rw [isFirst, beq_iff_eq, firstOf?, FieldMatch.reach, FieldChain.reachFrom_eq_find? r hds hss]

/-- The field that a setter was made from. -/
theorem exists_of_mem_setters (hc : FieldChain.ofDecl r d = .ok c)
    (hspec : ofFields policy exposure d c.fields = .ok spec) (hds : FieldChain.Lineage r d ds)
    (hss : List.Forall₂ Accepted ds ss) {x : Setter} (hx : x ∈ spec.setters) :
    ∃ e ∈ FieldChain.placedLevels r 0 ds, x = Setter.of e.2
      ∧ FieldMatch.reach (ss.map DerivedStruct.fieldMatch) x.fieldName = some e.1 := by
  have hsetters := congrArg Prod.fst (split_of_plan hc hspec hds)
  rw [show spec.setters = _ from hsetters] at hx
  obtain ⟨e, hmem, rfl⟩ := List.mem_map.mp hx
  obtain ⟨he, hfirst⟩ := List.mem_filter.mp hmem
  exact ⟨e, he, rfl, (isFirst_iff_reach hds hss e).mp hfirst⟩

/-- The first field of a name has a setter. -/
theorem mem_setters_of_isFirst (hc : FieldChain.ofDecl r d = .ok c)
    (hspec : ofFields policy exposure d c.fields = .ok spec) (hds : FieldChain.Lineage r d ds)
    {e : FieldPlace × ChainField} (he : e ∈ FieldChain.placedLevels r 0 ds)
    (hfirst : isFirst (FieldChain.placedLevels r 0 ds) e = true) :
    Setter.of e.2 ∈ spec.setters := by
  have hsetters := congrArg Prod.fst (split_of_plan hc hspec hds)
  rw [show spec.setters = _ from hsetters]
  exact List.mem_map.mpr ⟨e, List.mem_filter.mpr ⟨he, hfirst⟩, rfl⟩

end Plan

/-! ## A field that hides one of the parent -/

/-- A type that is written as one name. -/
def namedType (name : String) : Code.Tree := .path .type false [.ofIdent ⟨name, false⟩]

/-- The attribute of a name with a name in parentheses. -/
def attributeOn (name argument : String) : Code.Attribute :=
  ⟨false, Code.Path.ofIdent ⟨name, false⟩, Code.Span.nowhere,
    .list .paren [.leaf (.word ⟨argument, false⟩) Code.Span.nowhere] Code.Span.nowhere⟩

def fieldOf (attrs : List Code.Attribute) (name : String) (type : Code.Tree) : Code.Field :=
  ⟨attrs, .inherited, some ⟨name, false⟩, Code.Span.nowhere, type⟩

def structOf (derive name : String) (fields : List Code.Field) : Code.Item :=
  .struct [attributeOn "derive" derive] .everywhere ⟨name, false⟩ Code.Span.nowhere
    Code.Generics.none (.named fields false)

/-- A record, and an invoice that has one as its parent. -/
def recordItem : Code.Item :=
  structOf "FieldAccess" "Record"
    [fieldOf [] "id" (namedType "u64"), fieldOf [] "created_by" (namedType "String")]

def invoiceItem : Code.Item :=
  structOf "TestBuilder" "Invoice"
    [fieldOf [] "id" (namedType "String"), fieldOf [] "amount_cents" (namedType "i64"),
      fieldOf [attributeOn "test_builder" "parent"] "record" (namedType "Record")]

def invoiceSources : SourceSet where
  files := [⟨"src/lib.rs", .root, [], [recordItem, invoiceItem]⟩]

def recordDecl : Declaration where
  module := .root
  ident := ⟨"Record", false⟩
  kind := .struct
  marker := .fieldAccess
  generic := false
  fields := [⟨⟨"id", false⟩, namedType "u64"⟩, ⟨⟨"created_by", false⟩, namedType "String"⟩]
  parent := none

def invoiceDecl : Declaration where
  module := .root
  ident := ⟨"Invoice", false⟩
  kind := .struct
  marker := .testBuilder
  generic := false
  fields := [⟨⟨"id", false⟩, namedType "String"⟩, ⟨⟨"amount_cents", false⟩, namedType "i64"⟩]
  parent := some ⟨⟨"record", false⟩, namedType "Record"⟩

def recordStruct : DerivedStruct :=
  ⟨⟨"Record", false⟩, [⟨"id", false⟩, ⟨"created_by", false⟩], none, none⟩

def invoiceStruct : DerivedStruct :=
  ⟨⟨"Invoice", false⟩, [⟨"id", false⟩, ⟨"amount_cents", false⟩], some ⟨"record", false⟩, none⟩

theorem lineage_invoice : FieldChain.Lineage (Registry.ofSources invoiceSources) invoiceDecl
    [invoiceDecl, recordDecl] :=
  .child rfl rfl (.top rfl)

theorem accepted_invoice :
    List.Forall₂ Accepted [invoiceDecl, recordDecl] [invoiceStruct, recordStruct] :=
  .cons ⟨.root, invoiceItem, .testBuilder, rfl, rfl⟩
    (.cons ⟨.root, recordItem, .fieldAccess, rfl, rfl⟩ .nil)

end BuilderSpec

end BuilderForge
