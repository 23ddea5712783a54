import BuilderForge.Proofs.Builder.Setters
import BuilderForge.Proofs.FieldAccess.Delegation

set_option autoImplicit false

/-! # Setters and what the derived code assigns

A setter belongs to a field that the registry has found, and the derived code assigns a field of the
structs that the compiler finds. The two agree exactly if the structs on both sides have the fields
of the chain in common, each in the nearest struct of its name (`agreesWithDispatch_iff`). They do if
the compiler takes every link for the struct that the registry takes it for.

It does not always: the registry looks behind globs for a name that is an alias in the module itself
(`not_agreesWithDispatch_alias`).
-/

namespace BuilderForge

open Code (Ident Item Segment Tree Visibility)

/-! ## The nearest field -/

section Nearest

variable {name : String} {ds : List Declaration} {d : Declaration} {index : Nat}

theorem mem_of_nearest? (h : nearest? name ds = some (d, index)) :
    d ∈ ds ∧ d.indexOf? name = some index := by
  induction ds with
  | nil => cases h
  | cons e above ih =>
      rw [nearest?] at h
      cases hindex : e.indexOf? name with
      | some i =>
          rw [hindex] at h
          obtain ⟨rfl, rfl⟩ := Prod.mk.inj (Option.some.inj h)
          exact ⟨List.mem_cons_self, hindex⟩
      | none =>
          rw [hindex] at h
          obtain ⟨hmem, hsome⟩ := ih h
          exact ⟨List.mem_cons_of_mem _ hmem, hsome⟩

/-- The field at the index of a name has the name. -/
theorem Declaration.name_of_indexOf? (h : d.indexOf? name = some index) :
    ∃ f, d.fields[index]? = some f ∧ f.ident.name = name := by
  obtain ⟨hlt, hname, -⟩ := List.findIdx?_eq_some_iff_getElem.mp h
  exact ⟨d.fields[index], List.getElem?_eq_getElem hlt, by simpa using hname⟩

end Nearest

namespace BuilderSpec

section Places

variable (r : Registry) {ds : List Declaration} {e : FieldPlace × ChainField}

/-- The first field of a name in a chain is that of the nearest struct. -/
theorem firstOf?_placedLevels (level : Nat) (ds : List Declaration) (name : String) :
    (firstOf? (FieldChain.placedLevels r level ds) name).map
        (fun e => (ds[e.1.level - level]?, e.1.index))
      = (nearest? name ds).map fun x => (some x.1, x.2) := by
  induction ds generalizing level with
  | nil => rfl
  | cons d above ih =>
      have hplace := FieldChain.find?_placedFields r level d name
      rw [firstOf?, FieldChain.placedLevels, List.find?_append, nearest?]
      cases hindex : d.indexOf? name with
      | some index =>
          rw [hindex] at hplace
          obtain ⟨e, he, hplace⟩ := Option.map_eq_some_iff.mp hplace
          rw [he, Option.some_or, Option.map_some, hplace, Nat.sub_self]
          rfl
      | none =>
          rw [hindex, Option.map_none, Option.map_eq_none_iff] at hplace
          rw [hplace, Option.none_or]
          dsimp only
          rw [← ih (level + 1), firstOf?]
          refine Option.map_congr fun e he => ?_
          have hlevel := ((FieldChain.mem_placedLevels r).mp (List.mem_of_find?_eq_some he)).1
          rw [show e.1.level - level = e.1.level - (level + 1) + 1 by omega, List.getElem?_cons_succ]

/-- The first field of its name stands in the nearest struct with one. -/
theorem nearest?_of_isFirst {d : Declaration} (hd : ds[e.1.level]? = some d)
    (hfirst : isFirst (FieldChain.placedLevels r 0 ds) e = true) :
    nearest? e.2.ident.name ds = some (d, e.1.index) := by
  obtain ⟨first, hfind, hplace⟩ := Option.map_eq_some_iff.mp (beq_iff_eq.mp hfirst)
  have hnearest := firstOf?_placedLevels r 0 ds e.2.ident.name
  rw [hfind, Option.map_some, hplace, Nat.sub_zero, hd] at hnearest
  obtain ⟨⟨d', index⟩, hsome, heq⟩ := Option.map_eq_some_iff.mp hnearest.symm
  obtain ⟨hd', rfl⟩ := Prod.mk.inj heq
  obtain rfl := Option.some.inj hd'
  exact hsome

/-- If no struct occurs twice, nothing but the first field of its name does. -/
theorem isFirst_of_nearest? (hnodup : (ds.map Declaration.pathString).Nodup) {d : Declaration}
    (hd : ds[e.1.level]? = some d) (hnearest : nearest? e.2.ident.name ds = some (d, e.1.index)) :
    isFirst (FieldChain.placedLevels r 0 ds) e = true := by
  have hfirst := firstOf?_placedLevels r 0 ds e.2.ident.name
  rw [hnearest, Option.map_some] at hfirst
  obtain ⟨⟨⟨level, index⟩, f⟩, hfind, heq⟩ := Option.map_eq_some_iff.mp hfirst
  obtain ⟨hd', hindex⟩ := Prod.mk.inj heq
  have hlevel : level = e.1.level := by
    have hlt : level < ds.length := (List.getElem?_eq_some_iff.mp hd').1
    exact (List.getElem?_inj hlt (hnodup.of_map _)).mp (hd'.trans hd.symm)
  rw [isFirst, hfind, Option.map_some, beq_iff_eq, hlevel, show index = e.1.index from hindex]

end Places

/-! ## Agreement -/

/-- For each name of a field in a chain `ds`, the nearest struct with such a field has the same path
in `ds` and `es`. -/
def SameNearest (ds es : List Declaration) : Prop :=
  ∀ d ∈ ds, ∀ f ∈ d.fields, (nearest? f.ident.name es).map (fun x => x.1.pathString)
    = (nearest? f.ident.name ds).map fun x => x.1.pathString

/-- Setters assign the fields they were made from, and skipped fields are never assigned. -/
structure AgreesWithDispatch (reads : Reading) (d : Declaration) (ds : List Declaration)
    (spec : BuilderSpec) : Prop where
  /-- The name of a setter leads to one arm only, in a struct of the path that the setter is declared
  on. -/
  setters : ∀ x ∈ spec.setters, ∃ e index, e.pathString = x.declaredOn
    ∧ ∀ found, Dispatch reads x.fieldName d found ↔ found = some (e, index)
  /-- Each skipped field has a place of its own, which no name leads to. -/
  skipped : ∃ places : List FieldPlace, places.Nodup
    ∧ List.Forall₂ (fun (f : ChainField) (p : FieldPlace) => ∃ e g, ds[p.level]? = some e
        ∧ e.pathString = f.declaredOn ∧ e.fields[p.index]? = some g ∧ g.ident = f.ident
        ∧ ∀ name, ¬ Dispatch reads name d (some (e, p.index))) spec.skipped places

end BuilderSpec

/-- The compiler takes the links of structs for what the registry takes them for. -/
def ReadsLinks (reads : Reading) (r : Registry) (ds : List Declaration) : Prop :=
  ∀ d ∈ ds, ∀ link, d.parent = some link → ∀ e, FieldChain.ancestor r d link.type = .ok e →
    reads d.module link.type = some e

theorem Ancestry.unique {reads : Reading} {d : Declaration} {es es' : List Declaration}
    (h : Ancestry reads d es) (h' : Ancestry reads d es') : es' = es := by
  induction h generalizing es' with
  | top hlink =>
      cases h' with
      | top _ => rfl
      | child hlink' _ _ =>
          rw [hlink] at hlink'
          cases hlink'
  | child hlink hread rest ih =>
      cases h' with
      | top hlink' =>
          rw [hlink] at hlink'
          cases hlink'
      | child hlink' hread' rest' =>
          obtain rfl := Option.some.inj (hlink.symm.trans hlink')
          obtain rfl := Option.some.inj (hread.symm.trans hread')
          rw [ih rest']

/-- A lineage is what the compiler finds if it takes the links for the same structs. -/
theorem FieldChain.Lineage.ancestry {r : Registry} {reads : Reading} {d : Declaration}
    {ds : List Declaration} (h : Lineage r d ds) (hreads : ReadsLinks reads r ds) :
    Ancestry reads d ds := by
  induction h with
  | top hlink => exact .top hlink
  | child hlink hparent _ ih =>
      have hread := hreads _ List.mem_cons_self _ hlink _ hparent
      exact .child hlink hread (ih fun e he => hreads e (List.mem_cons_of_mem _ he))

namespace BuilderSpec

section Agreement

variable {r : Registry} {reads : Reading} {d : Declaration} {c : FieldChain}
  {ds es : List Declaration} {ts : List DerivedStruct} {policy : ShadowPolicy}
  {exposure : Exposure} {spec : BuilderSpec} (hc : FieldChain.ofDecl r d = .ok c)
  (hspec : ofFields policy exposure d c.fields = .ok spec) (hds : FieldChain.Lineage r d ds)
  (hes : Ancestry reads d es) (hts : List.Forall₂ Accepted es ts)

include hc hds

theorem nodup_of_lineage : (ds.map Declaration.pathString).Nodup := by
  obtain ⟨ds', path, -, -, hg⟩ := FieldChain.gathers_of_ofDecl r hc
  obtain rfl := hds.unique r hg.lineage
  have hchain : c.chain = ds.map Declaration.pathString := hg.chain
  rw [← hchain]
  exact hg.nodup List.nodup_nil

include hspec

/-- A setter was made from the nearest field of its name. -/
theorem exists_nearest_of_setter {x : Setter} (hx : x ∈ spec.setters) :
    ∃ e ∈ ds, ∃ f ∈ e.fields, ∃ index, f.ident.name = x.fieldName
      ∧ nearest? x.fieldName ds = some (e, index) ∧ e.pathString = x.declaredOn := by
  have hsetters := congrArg Prod.fst (split_of_plan hc hspec hds)
  rw [show spec.setters = _ from hsetters] at hx
  obtain ⟨p, hmem, rfl⟩ := List.mem_map.mp hx
  obtain ⟨hp, hfirst⟩ := List.mem_filter.mp hmem
  obtain ⟨-, e, f, he, hf, hfield⟩ := (FieldChain.mem_placedLevels r).mp hp
  rw [Nat.sub_zero] at he
  have hnearest := nearest?_of_isFirst r he hfirst
  refine ⟨e, List.mem_of_getElem? he, f, List.mem_of_getElem? hf, p.1.index, ?_, hnearest, ?_⟩
  · rw [Setter.of, hfield]
    rfl
  · rw [Setter.of, hfield]
    rfl

/-- Each name of a field in the chain has a setter. -/
theorem exists_setter {e : Declaration} (he : e ∈ ds) {f : DeclaredField} (hf : f ∈ e.fields) :
    ∃ x ∈ spec.setters, x.fieldName = f.ident.name := by
  obtain ⟨level, he⟩ := List.getElem?_of_mem he
  obtain ⟨index, hf⟩ := List.getElem?_of_mem hf
  have hp : (⟨level, index⟩, FieldChain.chainField r level e f) ∈ FieldChain.placedLevels r 0 ds :=
    (FieldChain.mem_placedLevels r).mpr ⟨Nat.zero_le _, e, f, he, hf, rfl⟩
  obtain ⟨first, hfirst, hname, hisFirst⟩ :=
    exists_isFirst [] ⟨_, hp, (rfl : _ = f.ident.name)⟩
  rw [List.append_nil] at hisFirst
  exact ⟨_, mem_setters_of_isFirst hc hspec hds hfirst hisFirst, hname⟩

include hes hts

theorem sameNearest_of_agrees (h : AgreesWithDispatch reads d ds spec) : SameNearest ds es := by
  intro e he f hf
  obtain ⟨x, hx, hname⟩ := exists_setter hc hspec hds he hf
  obtain ⟨e', index, hpath, hdispatch⟩ := h.setters x hx
  obtain ⟨e₀, -, -, -, index', -, hnearest, hpath'⟩ := exists_nearest_of_setter hc hspec hds hx
  have hreal : nearest? x.fieldName es = some (e', index) :=
    ((hdispatch _).mp ((dispatch_iff hes hts).mpr rfl))
  rw [← hname, hreal, hnearest, Option.map_some, Option.map_some, hpath, hpath']

theorem agrees_of_sameNearest (h : SameNearest ds es) : AgreesWithDispatch reads d ds spec := by
  refine ⟨fun x hx => ?_, ?_⟩
  · obtain ⟨e, he, f, hf, index, hname, hnearest, hpath⟩ :=
      exists_nearest_of_setter hc hspec hds hx
    have hsame := h e he f hf
    rw [hname, hnearest, Option.map_some] at hsame
    obtain ⟨⟨e', index'⟩, hreal, hpath'⟩ := Option.map_eq_some_iff.mp hsame
    refine ⟨e', index', hpath'.trans hpath, fun found => ?_⟩
    rw [dispatch_iff hes hts, hreal]
  · let later := (FieldChain.placedLevels r 0 ds).filter fun e =>
      !isFirst (FieldChain.placedLevels r 0 ds) e
    have hskipped : spec.skipped = later.map (·.2) :=
      congrArg Prod.snd (split_of_plan hc hspec hds)
    refine ⟨later.map (·.1), ?_, ?_⟩
    · exact (FieldChain.nodup_placedLevels r 0 ds).sublist
        (List.Sublist.map _ List.filter_sublist)
    · rw [hskipped, List.forall₂_map_left_iff, List.forall₂_map_right_iff, List.forall₂_same]
      intro p hmem
      obtain ⟨hp, hlater⟩ := List.mem_filter.mp hmem
      obtain ⟨-, e, f, he, hf, hfield⟩ := (FieldChain.mem_placedLevels r).mp hp
      rw [Nat.sub_zero] at he
      have hident : f.ident = p.2.ident := by rw [hfield]; rfl
      refine ⟨e, f, he, by rw [hfield]; rfl, hf, hident, fun name hdispatch => ?_⟩
      -- an arm that is reached is that of the nearest field, which has a setter
      have hreal := ((dispatch_iff hes hts).mp hdispatch).symm
      obtain ⟨f', hf', hname⟩ := Declaration.name_of_indexOf? (mem_of_nearest? hreal).2
      obtain rfl := Option.some.inj (hf.symm.trans hf')
      have hsame := h e (List.mem_of_getElem? he) f (List.mem_of_getElem? hf)
      rw [hname, hreal, Option.map_some] at hsame
      obtain ⟨⟨e', index⟩, hnearest, hpath⟩ := Option.map_eq_some_iff.mp hsame.symm
      obtain ⟨he', hindex⟩ := mem_of_nearest? hnearest
      obtain rfl := List.inj_on_of_nodup_map (nodup_of_lineage hc hds) he'
        (List.mem_of_getElem? he) hpath
      obtain rfl := Option.some.inj (hindex.symm.trans (mem_of_nearest? hreal).2)
      rw [← hname, hident] at hnearest
      rw [isFirst_of_nearest? r (nodup_of_lineage hc hds) he hnearest] at hlater
      cases hlater

/-- **Setters agree with the derived code exactly if the nearest fields of the chain are those of
the structs that the compiler finds.** They do if the compiler takes the links for what the registry
takes them for. Where they agree, no call of a setter ends without a field. -/
theorem agreesWithDispatch_iff :
    (AgreesWithDispatch reads d ds spec ↔ SameNearest ds es)
    ∧ (ReadsLinks reads r ds → AgreesWithDispatch reads d ds spec)
    ∧ (AgreesWithDispatch reads d ds spec → ∀ x ∈ spec.setters, ∀ (y : Instance) (v : Value)
      (name : String), y.IsOf ts → y.setField x.fieldName v ≠ .error (.notFound name)) := by
  refine ⟨⟨sameNearest_of_agrees hc hspec hds hes hts, agrees_of_sameNearest hc hspec hds hes hts⟩,
    fun hreads => ?_, fun h x hx y v name hy hset => ?_⟩
  · obtain rfl := (hds.ancestry hreads).unique hes
    exact agrees_of_sameNearest hc hspec hds hes hts fun _ _ _ _ => rfl
  · obtain ⟨e, index, -, hdispatch⟩ := h.setters x hx
    have hreal := (hdispatch _).mp ((dispatch_iff hes hts).mpr rfl)
    have hassign := setField_of_nearest? x.fieldName hes hts hy v
    rw [hreal] at hassign
    obtain ⟨level, s, owner, -, -, hassign⟩ := hassign
    rw [hset] at hassign
    split at hassign <;> cases hassign

end Agreement

end BuilderSpec

/-! ## What the items of modules say

Some of what the compiler finds by a path, it finds whatever is imported: an item of a module comes
before all that globs bring in, an alias stands for its type, and a path leads from module to
module. -/

namespace Code.Item

/-- The name of the alias of a type, and the path of the type. -/
def alias? : Item → Option (Ident × List Segment)
  | .named _ i (.node .typeItem [_, _, _, _, _, _, _, _, _, .path .type false segments, _, _]) =>
      some (i, segments)
  | _ => none

/-- The item `pub type name = path;`. -/
def aliasOf (name : String) (path : List Segment) : Item :=
  .named .everywhere ⟨name, false⟩ (.node .typeItem
    [attributesTree [], Visibility.tree .everywhere, Tree.keyword "type", .word ⟨name, false⟩,
      Tree.absent, Tree.absent, .node .sequence [], Tree.absent, .op "=", .path .type false path,
      Tree.absent, .op ";"])

/-- Whether the item is a module of this name. -/
def isModule (name : String) : Item → Bool
  | .module _ _ _ i _ => i.name == name
  | _ => false

end Code.Item

namespace SourceSet

/-- The items of a module. -/
def itemsOf (s : SourceSet) (m : ModulePath) : List Item :=
  (s.bodies.filter fun body => body.1 = m).flatMap Prod.snd

/-- The struct that a path names in a module by its items alone, if it takes no more than `steps`
modules and aliases to tell. -/
def itemNamed? (s : SourceSet) : Nat → ModulePath → List String → Option Declaration
  | 0, _, _ => none
  | _, _, [] => none
  | steps + 1, m, [name] =>
      (s.itemsOf m).findSome? fun i =>
        match i.alias? with
        | some (j, path) =>
            if j.name = name then s.itemNamed? steps m (path.map fun x => x.ident.name) else none
        | none => (i.declaration? m).filter fun d => d.ident.name = name
  | steps + 1, m, name :: rest =>
      if name = "crate" then s.itemNamed? steps .root rest
      else if (s.itemsOf m).any (Item.isModule name) then s.itemNamed? steps (m.child name) rest
      else none

/-- Types as the items of modules tell them. -/
def itemReading (s : SourceSet) (steps : Nat) : Reading
  | m, .path .type false segments => s.itemNamed? steps m (segments.map fun x => x.ident.name)
  | _, _ => none

end SourceSet

namespace BuilderSpec

/-- In the crate of the invoice, the items tell the same parent as the registry, so that setters and
the derived code agree. -/
theorem agreesWithDispatch_invoice :
    ∃ c spec, FieldChain.ofDecl (Registry.ofSources invoiceSources) invoiceDecl = .ok c
      ∧ ofFields .mostDerived .everyone invoiceDecl c.fields = .ok spec
      ∧ FieldChain.Lineage (Registry.ofSources invoiceSources) invoiceDecl
        [invoiceDecl, recordDecl]
      ∧ Ancestry (invoiceSources.itemReading 1) invoiceDecl [invoiceDecl, recordDecl]
      ∧ List.Forall₂ Accepted [invoiceDecl, recordDecl] [invoiceStruct, recordStruct]
      ∧ spec.setters.map Setter.fieldName = ["id", "amount_cents", "created_by"]
      ∧ spec.skipped.map (fun f => (f.declaredOn, f.ident.name)) = [("crate::Record", "id")]
      ∧ AgreesWithDispatch (invoiceSources.itemReading 1) invoiceDecl [invoiceDecl, recordDecl]
        spec := by
  have hes : Ancestry (invoiceSources.itemReading 1) invoiceDecl [invoiceDecl, recordDecl] :=
    .child rfl rfl (.top rfl)
  have hreads : ReadsLinks (invoiceSources.itemReading 1) (Registry.ofSources invoiceSources)
      [invoiceDecl, recordDecl] := by
    intro d hd link hlink e he
    rcases List.mem_pair.mp hd with rfl | rfl
    · obtain rfl := Option.some.inj hlink
      obtain rfl := Except.ok.inj he
      rfl
    · cases hlink
  obtain ⟨-, hagrees, -⟩ := agreesWithDispatch_iff rfl
    (show ofFields .mostDerived .everyone invoiceDecl _ = .ok _ from rfl) lineage_invoice hes
    accepted_invoice
  exact ⟨_, _, rfl, rfl, lineage_invoice, hes, accepted_invoice, rfl, rfl, hagrees hreads⟩

/-! ## An alias beside a glob

The module `a` has an alias `T` of the struct `Other` of `c`, and a glob of `b`, where there is a
struct `T` as well. The parent of `Child` is written as `a::T`. -/

def aliasPath : List Segment := [.ofIdent ⟨"a", false⟩, .ofIdent ⟨"T", false⟩]

def childItem : Item :=
  structOf "TestBuilder" "Child"
    [fieldOf [attributeOn "test_builder" "parent"] "base" (.path .type false aliasPath)]

def otherItem : Item := structOf "FieldAccess" "Other" [fieldOf [] "of" (namedType "u8")]

def aliasSources : SourceSet where
  files := [
    ⟨"src/lib.rs", .root, [], [.outlined .everywhere "a", .outlined .everywhere "b",
      .outlined .everywhere "c", childItem]⟩,
    ⟨"src/a.rs", ⟨["a"]⟩, [], [.globOf "b", .aliasOf "T"
      [.ofIdent ⟨"crate", false⟩, .ofIdent ⟨"c", false⟩, .ofIdent ⟨"Other", false⟩]]⟩,
    ⟨"src/b.rs", ⟨["b"]⟩, [], [structOf "FieldAccess" "T" [fieldOf [] "bf" (namedType "u8")]]⟩,
    ⟨"src/c.rs", ⟨["c"]⟩, [], [otherItem]⟩]

def childDecl : Declaration where
  module := .root
  ident := ⟨"Child", false⟩
  kind := .struct
  marker := .testBuilder
  generic := false
  fields := []
  parent := some ⟨⟨"base", false⟩, .path .type false aliasPath⟩

/-- A struct with one field, which is not `Child`. -/
def parentDecl (module name field : String) : Declaration where
  module := ⟨[module]⟩
  ident := ⟨name, false⟩
  kind := .struct
  marker := .fieldAccess
  generic := false
  fields := [⟨⟨field, false⟩, namedType "u8"⟩]
  parent := none

theorem accepted_child : List.Forall₂ Accepted [childDecl, parentDecl "c" "Other" "of"]
    [⟨⟨"Child", false⟩, [], some ⟨"base", false⟩, none⟩,
      ⟨⟨"Other", false⟩, [⟨"of", false⟩], none, none⟩] :=
  .cons ⟨.root, childItem, .testBuilder, rfl, rfl⟩
    (.cons ⟨⟨["c"]⟩, otherItem, .fieldAccess, rfl, rfl⟩ .nil)

/-- The registry takes the parent of `Child` for the struct of `b`, and the items of the modules tell
that it is the one of `c`. So the setter of the field of `b` leads nowhere. -/
theorem not_agreesWithDispatch_alias :
    ¬ ∀ (sources : SourceSet) (steps : Nat) (d : Declaration) (c : FieldChain) (spec : BuilderSpec)
      (ds es : List Declaration) (ts : List DerivedStruct),
      FieldChain.ofDecl (.ofSources sources) d = .ok c →
      ofFields .reject .everyone d c.fields = .ok spec →
      FieldChain.Lineage (.ofSources sources) d ds → Ancestry (sources.itemReading steps) d es →
      List.Forall₂ Accepted es ts →
      AgreesWithDispatch (sources.itemReading steps) d ds spec := by
  intro h
  have hes : Ancestry (aliasSources.itemReading 5) childDecl
      [childDecl, parentDecl "c" "Other" "of"] := .child rfl rfl (.top rfl)
  have hds : FieldChain.Lineage (.ofSources aliasSources) childDecl
      [childDecl, parentDecl "b" "T" "bf"] := .child rfl rfl (.top rfl)
  have hagrees := h aliasSources 5 childDecl _ _ _ _ _ rfl rfl hds hes accepted_child
  obtain ⟨e, index, -, hdispatch⟩ := hagrees.setters _ (List.mem_singleton.mpr rfl)
  have hnone : nearest? "bf" [childDecl, parentDecl "c" "Other" "of"] = none := rfl
  have hfound := (hdispatch _).mp ((dispatch_iff hes accepted_child).mpr rfl)
  rw [show nearest? _ _ = none from hnone] at hfound
  cases hfound

end BuilderSpec

end BuilderForge
