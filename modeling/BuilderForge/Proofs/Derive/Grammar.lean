import BuilderForge.Proofs.Derive.Agreement
import BuilderForge.Proofs.Parsing.Listing

set_option autoImplicit false

/-! # What a derive accepts

A derive accepts structs with named fields or none at all and without parameters. Its attribute is a
list of `parent` at a field and a list of `constructor = path` at the struct, and at most one field
is marked. `IsAccepted` says this in terms of tokens, and `Derive.acceptStruct_iff_isAccepted` that
it is exactly what is accepted, with what is taken then.
-/

namespace BuilderForge

open Code (Attribute Cursor Field Fields Generics Ident IsListing Item Parser Span Tokens)
open Code.Parser (ReadsValue)

/-! ## Attributes -/

/-- The attributes that speak to a derive. -/
def helperAttributes (attrs : List Attribute) : List Attribute :=
  attrs.filter fun a => a.isNamed helperName

/-- The value of an entry that has none. -/
def IsBare (_ : Unit) (ts _ : Tokens) : Prop := ts = []

/-- The value of an entry that is assigned a path: an equals sign, and what is read as a path where
`rest` stands behind it. -/
def IsAssigned (scope : Span) (p : Code.Path) (ts rest : Tokens) : Prop :=
  ∃ joint equals path, ts = .leaf (.punct '=' joint) equals :: path
    ∧ Parser.path Code.Grammar.whole false ⟨path ++ rest, scope, none, none⟩
      = .ok (p, ⟨rest, scope, none, none⟩)

/-- The attribute has a list of `parent` in delimiters. -/
def ListsParents (a : Attribute) (marks : List Unit) : Prop :=
  ∃ d ts closing, a.args = .list d ts closing ∧ IsListing "parent" IsBare ts marks

/-- The attribute has a list of `constructor = path` in delimiters, with these paths. -/
def ListsConstructors (a : Attribute) (paths : List Code.Path) : Prop :=
  ∃ d ts closing, a.args = .list d ts closing
    ∧ IsListing "constructor" (IsAssigned closing) ts paths

section Reading

variable {a : Attribute} {scope : Span}

theorem parseArgs_eq_ok_iff {α : Type} {p : Parser α} {x : α} :
    a.parseArgs p = .ok x ↔ ∃ d ts closing, a.args = .list d ts closing
      ∧ p.runAll ts closing = .ok x := by
  unfold Attribute.parseArgs
  cases h : a.args with
  | nothing => simp
  | value equals t => simp
  | list d ts closing => simp

theorem readsValue_bare : ReadsValue (pure () : Parser Unit) scope IsBare where
  advances := inferInstance
  reads {ts rest u} := by
    constructor
    · intro h
      obtain ⟨-, hcursor⟩ := Prod.mk.inj (Except.ok.inj h)
      exact ⟨[], congrArg Cursor.rest hcursor, rfl⟩
    · rintro ⟨front, rfl, rfl⟩
      rfl
  colons {front rest u} hfront hrest := by
    rw [show front = [] from hfront]
    exact hrest

/-- Reads what is assigned to the name of an entry. -/
def assignedPath : Parser Code.Path := do
  let _ ← Parser.op "="
  Parser.path Code.Grammar.whole false

instance : assignedPath.Advances := by
  unfold assignedPath
  infer_instance

theorem readsValue_assigned : ReadsValue assignedPath scope (IsAssigned scope) where
  advances := inferInstance
  reads {ts rest p} := by
    constructor
    · intro h
      obtain ⟨t, c, hequals, hpath⟩ := Parser.of_bind_eq_ok h
      obtain ⟨joint, equals, behind, hts, rfl⟩ := Parser.punct_of_op rfl hequals
      dsimp only at hts
      -- the path ends somewhere in the tokens
      have hleads := Parser.Advances.leadsTo hpath
      obtain ⟨path, hsuffix⟩ := hleads.rest
      dsimp only at hsuffix
      subst hts hsuffix
      exact ⟨_, rfl, joint, equals, path, rfl, hpath⟩
    · rintro ⟨front, rfl, joint, equals, path, rfl, hpath⟩
      have hequals : Parser.op "="
          ⟨.leaf (.punct '=' joint) equals :: (path ++ rest), scope, none, none⟩
          = .ok (.op "=", ⟨path ++ rest, scope, none, none⟩) := rfl
      exact (Parser.bind_of_ok hequals).trans hpath
  colons {front rest p} hfront hrest := by
    obtain ⟨joint, equals, path, rfl, -⟩ := hfront
    rfl

/-- The list of `parent` of one attribute. -/
theorem marksParent_eq_ok_iff {b : Bool} :
    marksParent a = .ok b ↔ ∃ marks, ListsParents a marks ∧ b = !marks.isEmpty := by
  have hmarked (marks : List Unit) :
      marks.foldl (fun _ _ => true) false = !marks.isEmpty := by
    cases marks with
    | nil => rfl
    | cons u marks => exact List.foldl_fixed' (fun _ => rfl) marks
  have hentries (ts : Tokens) (closing : Span) :
      (Parser.nestedEntries (Parser.keyed "parent" (pure ()) (fun (_ : Bool) _ => true)
        (.other "unsupported field attribute; expected `parent`")) false).runAll ts closing = .ok b
        ↔ _ :=
    Parser.runAll_nestedEntries readsValue_bare
  rw [marksParent, parseArgs_eq_ok_iff]
  constructor
  · rintro ⟨d, ts, closing, hargs, h⟩
    obtain ⟨marks, hmarks, rfl⟩ := (hentries ts closing).mp h
    exact ⟨marks, ⟨d, ts, closing, hargs, hmarks⟩, hmarked marks⟩
  · rintro ⟨marks, ⟨d, ts, closing, hargs, hmarks⟩, rfl⟩
    exact ⟨d, ts, closing, hargs, (hentries ts closing).mpr ⟨marks, hmarks, (hmarked marks).symm⟩⟩

/-- The complaint about an entry of a struct that names no constructor. -/
def noConstructor : Code.Complaint :=
  .other "unsupported struct attribute; expected `constructor = path`"

theorem constructorIn_eq (found : Option Code.Path) (a : Attribute) :
    constructorIn found a = a.parseArgs (Parser.nestedEntries
      (Parser.keyed "constructor" assignedPath (fun _ p => some p) noConstructor) found) := by
  unfold constructorIn
  congr 2
  funext _ path span
  unfold Parser.keyed assignedPath
  simp only [bind_assoc]
  rfl

/-- The list of constructors of one attribute. The last of them counts. -/
theorem constructorIn_eq_ok_iff {found c : Option Code.Path} :
    constructorIn found a = .ok c
      ↔ ∃ paths, ListsConstructors a paths ∧ c = paths.getLast?.or found := by
  have hlast (paths : List Code.Path) :
      paths.foldl (fun _ p => some p) found = paths.getLast?.or found := by
    induction paths using List.reverseRecOn with
    | nil => rfl
    | append_singleton paths p => simp
  have hentries (ts : Tokens) (closing : Span) :
      (Parser.nestedEntries (Parser.keyed "constructor" assignedPath (fun _ p => some p)
        noConstructor) found).runAll ts closing = .ok c ↔ _ :=
    Parser.runAll_nestedEntries readsValue_assigned
  rw [constructorIn_eq, parseArgs_eq_ok_iff]
  constructor
  · rintro ⟨d, ts, closing, hargs, h⟩
    obtain ⟨paths, hpaths, rfl⟩ := (hentries ts closing).mp h
    exact ⟨paths, ⟨d, ts, closing, hargs, hpaths⟩, hlast paths⟩
  · rintro ⟨paths, ⟨d, ts, closing, hargs, hpaths⟩, rfl⟩
    exact ⟨d, ts, closing, hargs, (hentries ts closing).mpr ⟨paths, hpaths, (hlast paths).symm⟩⟩

end Reading

/-! ## All attributes of a field or a struct -/

/-- Whether a list in delimiters has anything in it. -/
def hasEntries (a : Attribute) : Bool :=
  match a.args with
  | .list _ ts _ => !ts.isEmpty
  | _ => false

/-- Whether a field is marked as the link to the parent. -/
def isMarked (attrs : List Attribute) : Bool := (helperAttributes attrs).any hasEntries

theorem hasEntries_of_listsParents {a : Attribute} {marks : List Unit} (h : ListsParents a marks) :
    hasEntries a = !marks.isEmpty := by
  obtain ⟨d, ts, closing, hargs, hmarks⟩ := h
  rw [hasEntries, hargs]
  cases hmarks <;> rfl

/-- One more attribute of a field. -/
theorem orMarksParent_eq_ok_iff {a : Attribute} {found b : Bool} :
    (return found || (← marksParent a) : Except Code.ParseError Bool) = .ok b
      ↔ (∃ marks, ListsParents a marks) ∧ b = (found || hasEntries a) := by
  rw [bind_eq_ok_iff]
  constructor
  · rintro ⟨marked, hmarked, hb⟩
    obtain ⟨marks, ha, rfl⟩ := marksParent_eq_ok_iff.mp hmarked
    rw [hasEntries_of_listsParents ha]
    exact ⟨⟨marks, ha⟩, (Except.ok.inj hb).symm⟩
  · rintro ⟨⟨marks, ha⟩, rfl⟩
    rw [hasEntries_of_listsParents ha]
    exact ⟨_, marksParent_eq_ok_iff.mpr ⟨marks, ha, rfl⟩, rfl⟩

theorem foldlM_marksParent_iff {as : List Attribute} {found b : Bool} :
    as.foldlM (fun found a => return found || (← marksParent a)) found = Except.ok b
      ↔ (∀ a ∈ as, ∃ marks, ListsParents a marks) ∧ b = (found || as.any hasEntries) := by
  induction as generalizing found with
  | nil => simp [pure, Except.pure, eq_comm]
  | cons a as ih =>
      rw [List.foldlM_cons, bind_eq_ok_iff, List.forall_mem_cons, List.any_cons, ← Bool.or_assoc]
      simp only [orMarksParent_eq_ok_iff, ih]
      constructor
      · rintro ⟨_, ⟨ha, rfl⟩, has, hb⟩
        exact ⟨⟨ha, has⟩, hb⟩
      · rintro ⟨⟨ha, has⟩, hb⟩
        exact ⟨_, ⟨ha, rfl⟩, has, hb⟩

/-- The mark of a field can be read if all its attributes are lists of `parent`. -/
theorem isParentLink_eq_ok_iff {attrs : List Attribute} {b : Bool} :
    isParentLink attrs = .ok b
      ↔ (∀ a ∈ helperAttributes attrs, ∃ marks, ListsParents a marks) ∧ b = isMarked attrs := by
  have hfold : isParentLink attrs = .ok b
      ↔ (∀ a ∈ helperAttributes attrs, ∃ marks, ListsParents a marks)
        ∧ b = (false || isMarked attrs) :=
    foldlM_marksParent_iff
  rwa [Bool.false_or] at hfold

/-- The constructors that attributes name, all in order. -/
def GiveConstructors (attrs : List Attribute) (paths : List Code.Path) : Prop :=
  ∃ lists, List.Forall₂ ListsConstructors (helperAttributes attrs) lists ∧ paths = lists.flatten

theorem foldlM_constructorIn_iff {as : List Attribute} {found c : Option Code.Path} :
    as.foldlM constructorIn found = .ok c
      ↔ ∃ lists, List.Forall₂ ListsConstructors as lists
        ∧ c = lists.flatten.getLast?.or found := by
  induction as generalizing found with
  | nil => simp [pure, Except.pure, eq_comm]
  | cons a as ih =>
      rw [List.foldlM_cons, bind_eq_ok_iff]
      constructor
      · rintro ⟨next, hnext, h⟩
        obtain ⟨paths, ha, rfl⟩ := constructorIn_eq_ok_iff.mp hnext
        obtain ⟨lists, has, rfl⟩ := ih.mp h
        refine ⟨paths :: lists, .cons ha has, ?_⟩
        rw [List.flatten_cons, List.getLast?_append, Option.or_assoc]
      · rintro ⟨lists, hall, hc⟩
        obtain ⟨paths, lists, ha, has, rfl⟩ := List.forall₂_cons_left_iff.mp hall
        rw [List.flatten_cons, List.getLast?_append, Option.or_assoc] at hc
        exact ⟨_, constructorIn_eq_ok_iff.mpr ⟨_, ha, rfl⟩, ih.mpr ⟨_, has, hc⟩⟩

/-- The last constructor counts, if all attributes are lists of constructors. -/
theorem constructorOf_eq_ok_iff {attrs : List Attribute} {c : Option Code.Path} :
    constructorOf attrs = .ok c ↔ ∃ paths, GiveConstructors attrs paths ∧ c = paths.getLast? := by
  refine foldlM_constructorIn_iff.trans ?_
  simp only [Option.or_none]
  constructor
  · rintro ⟨lists, hlists, rfl⟩
    exact ⟨_, ⟨lists, hlists, rfl⟩, rfl⟩
  · rintro ⟨_, ⟨lists, hlists, rfl⟩, rfl⟩
    exact ⟨lists, hlists, rfl⟩

/-! ## The fields of a struct -/

/-- The named fields of a struct, with their attributes. -/
def namedFields (fs : List Field) : List (Ident × List Attribute) :=
  fs.filterMap fun f => f.ident.map fun i => (i, f.attrs)

/-- The fields that are marked as links to a parent. -/
def linkFields (fs : List Field) : List Ident :=
  ((namedFields fs).filter fun f => isMarked f.2).map Prod.fst

/-- All other fields. -/
def ownFields (fs : List Field) : List Ident :=
  ((namedFields fs).filter fun f => !isMarked f.2).map Prod.fst

/-- The attributes of all named fields are lists of `parent`. -/
def MarksReadable (fs : List Field) : Prop :=
  ∀ f ∈ namedFields fs, ∀ a ∈ helperAttributes f.2, ∃ marks, ListsParents a marks

theorem addDerivedField_unnamed {f : Field} (hf : f.ident = none)
    (found : List Ident × Option Ident) : addDerivedField found f = .ok found := by
  rw [addDerivedField, hf]
  rfl

theorem addDerivedField_named {f : Field} {i : Ident} (hf : f.ident = some i) {own : List Ident}
    {link : Option Ident} {found : List Ident × Option Ident} :
    addDerivedField (own, link) f = .ok found
      ↔ (∀ a ∈ helperAttributes f.attrs, ∃ marks, ListsParents a marks)
        ∧ (isMarked f.attrs = true → link = none)
        ∧ found = if isMarked f.attrs then (own, some i) else (own ++ [i], link) := by
  have hreadable (b : Bool) : isParentLink f.attrs = .ok b ↔ _ := isParentLink_eq_ok_iff
  unfold addDerivedField
  cases hlink : isParentLink f.attrs with
  | error e =>
      simp only [hf]
      constructor
      · intro h
        cases h
      · rintro ⟨hmarks, -⟩
        have hok := (hreadable (isMarked f.attrs)).mpr ⟨hmarks, rfl⟩
        rw [hlink] at hok
        cases hok
  | ok marked =>
      obtain ⟨hmarks, rfl⟩ := (hreadable marked).mp hlink
      simp only [hf]
      refine Iff.trans ?_ (and_iff_right hmarks).symm
      cases isMarked f.attrs with
      | false => simp [pure, Except.pure, eq_comm]
      | true => cases link <;> simp [pure, Except.pure, eq_comm]

section NamedField

variable {f : Field} {i : Ident} {fs : List Field}

theorem namedFields_unnamed (hf : f.ident = none) : namedFields (f :: fs) = namedFields fs := by
  simp [namedFields, hf]

theorem namedFields_named (hf : f.ident = some i) :
    namedFields (f :: fs) = (i, f.attrs) :: namedFields fs := by
  simp [namedFields, hf]

theorem marksReadable_named (hf : f.ident = some i) :
    MarksReadable (f :: fs)
      ↔ (∀ a ∈ helperAttributes f.attrs, ∃ marks, ListsParents a marks) ∧ MarksReadable fs := by
  rw [MarksReadable, namedFields_named hf, List.forall_mem_cons, MarksReadable]

theorem linkFields_named (hf : f.ident = some i) :
    linkFields (f :: fs) = (if isMarked f.attrs then [i] else []) ++ linkFields fs := by
  rw [linkFields, namedFields_named hf, List.filter_cons]
  cases isMarked f.attrs <;> rfl

theorem ownFields_named (hf : f.ident = some i) :
    ownFields (f :: fs) = (if isMarked f.attrs then [] else [i]) ++ ownFields fs := by
  rw [ownFields, namedFields_named hf, List.filter_cons]
  cases isMarked f.attrs <;> rfl

end NamedField

/-- Fields are taken one after the other: their attributes have to be readable, and only one of them
can be the link. -/
theorem foldlM_addDerivedField_iff (fs : List Field) (own : List Ident) (link : Option Ident)
    (found : List Ident × Option Ident) :
    fs.foldlM addDerivedField (own, link) = .ok found
      ↔ MarksReadable fs ∧ (link.toList ++ linkFields fs).length ≤ 1
        ∧ found = (own ++ ownFields fs, (link.toList ++ linkFields fs).head?) := by
  induction fs generalizing own link with
  | nil =>
      rw [List.foldlM_nil, pure_eq_ok_iff]
      cases link <;> simp [MarksReadable, namedFields, linkFields, ownFields]
  | cons f fs ih =>
      rw [List.foldlM_cons]
      cases hname : f.ident with
      | none =>
          rw [addDerivedField_unnamed hname]
          unfold MarksReadable linkFields ownFields
          rw [namedFields_unnamed hname]
          exact ih own link
      | some i =>
          rw [bind_eq_ok_iff, marksReadable_named hname, linkFields_named hname,
            ownFields_named hname]
          simp only [addDerivedField_named hname]
          cases isMarked f.attrs with
          | false => simp [ih, and_assoc]
          | true =>
              -- a second link is refused
              cases link with
              | none => simp [ih, and_assoc]
              | some link => simp

/-! ## What is accepted -/

theorem exists_forall₂_iff {α β : Type} {R : α → β → Prop} {as : List α} :
    (∃ bs, List.Forall₂ R as bs) ↔ ∀ a ∈ as, ∃ b, R a b := by
  induction as with
  | nil => simp
  | cons a as ih =>
      rw [List.forall_mem_cons, ← ih]
      constructor
      · rintro ⟨_, hall⟩
        obtain ⟨b, bs, ha, has, -⟩ := List.forall₂_cons_left_iff.mp hall
        exact ⟨⟨b, ha⟩, bs, has⟩
      · rintro ⟨⟨b, ha⟩, bs, has⟩
        exact ⟨b :: bs, .cons ha has⟩

/-- A struct that a derive accepts. -/
structure IsAccepted (attrs : List Attribute) (g : Generics) (fields : Fields) : Prop where
  noTuple : fields.kind = .struct
  noParameters : g.params = []
  marks : MarksReadable fields.byName
  oneLink : (linkFields fields.byName).length ≤ 1
  constructors : ∀ a ∈ helperAttributes attrs, ∃ paths, ListsConstructors a paths

namespace Derive

variable {derive : Derive} {attrs : List Attribute} {i : Ident} {span : Span} {g : Generics}
  {fields : Fields}

theorem exists_giveConstructors_iff :
    (∃ paths, GiveConstructors attrs paths)
      ↔ ∀ a ∈ helperAttributes attrs, ∃ paths, ListsConstructors a paths := by
  rw [← exists_forall₂_iff]
  constructor
  · rintro ⟨_, lists, hall, rfl⟩
    exact ⟨lists, hall⟩
  · rintro ⟨lists, hall⟩
    exact ⟨_, lists, hall, rfl⟩

/-- What is taken from a struct that is accepted. -/
theorem acceptStruct_iff_isAccepted {s : DerivedStruct} :
    derive.acceptStruct attrs i span g fields = .ok s
      ↔ IsAccepted attrs g fields
        ∧ ∃ paths, GiveConstructors attrs paths
          ∧ s = ⟨i, ownFields fields.byName, (linkFields fields.byName).head?, paths.getLast?⟩ := by
  rw [acceptStruct_eq_ok_iff, foldlM_addDerivedField_iff, constructorOf_eq_ok_iff]
  simp only [Option.toList_none, List.nil_append]
  constructor
  · rintro ⟨hkind, hg, ⟨hmarks, hlink, hfields⟩, ⟨paths, hpaths, hc⟩, rfl⟩
    refine ⟨⟨hkind, List.isEmpty_iff.mp hg, hmarks, hlink,
      exists_giveConstructors_iff.mp ⟨paths, hpaths⟩⟩, paths, hpaths, ?_⟩
    obtain ⟨hown, hparent⟩ := Prod.mk.inj hfields
    rw [← hown, ← hparent, ← hc]
  · rintro ⟨⟨hkind, hg, hmarks, hlink, -⟩, paths, hpaths, rfl⟩
    exact ⟨hkind, List.isEmpty_iff.mpr hg, ⟨hmarks, hlink, rfl⟩, ⟨paths, hpaths, rfl⟩, rfl⟩

end Derive

end BuilderForge
