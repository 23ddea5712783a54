import BuilderForge.Proofs.Builder.Setters

set_option autoImplicit false

/-! # Two readers of one struct

The registry goes on where it cannot read the mark of a field and remarks upon it, and it counts a
second field that is marked as the link to the parent among the others. The derive stops at both.
Apart from that they agree on every struct: `Derive.accept_iff_declared` tells from the declaration,
and from the remarks on it, whether a derive accepts the struct and what it takes then.
-/

namespace BuilderForge

open Code (Attribute Fields Field Generics Ident Item Span Visibility)

/-! ## The fields of a struct -/

namespace Code.Field

/-- Whether the field has a name and is marked as the link to the parent. -/
def isLink (f : Field) : Bool :=
  match f.ident, isParentLink f.attrs with
  | some _, .ok marked => marked
  | _, _ => false

/-- The field as a declaration has it. -/
def declared? (f : Field) : Option DeclaredField := f.ident.map (⟨·, f.type⟩)

/-- What there is to remark upon a field of the type at `path`. -/
def remarks (path : String) (f : Field) : List Diagnostic :=
  match f.ident, isParentLink f.attrs with
  | some i, .error e => [.invalidFieldAttribute path i.name e.message]
  | _, _ => []

/-- The name of a declared field is the name of the field. -/
@[simp]
theorem map_ident_declared? (f : Field) : f.declared?.map DeclaredField.ident = f.ident := by
  cases h : f.ident <;> simp [declared?, h]

end Code.Field

namespace Code.Fields

/-- The fields that go by name. -/
def byName : Fields → List Field
  | .named fs _ => fs
  | .tuple _ _ | .unit => []

/-- The kind of type that a struct with these fields declares. -/
def kind : Fields → DeclKind
  | .tuple _ _ => .tupleStruct
  | .named _ _ | .unit => .struct

/-- The first field that is marked as the link to the parent. -/
def link? (fields : Fields) : Option Field := fields.byName.find? (·.isLink)

/-- All fields but this one. -/
def ordinary (fields : Fields) : List Field := fields.byName.eraseP (·.isLink)

end Code.Fields

/-! ## The registry's reader -/

namespace Declaration

variable {d : Declaration} {before : List Diagnostic} {f : Field}

/-- The first marked field is the link. -/
theorem addField_of_isLink (hf : f.isLink = true) (hd : d.parent = none) :
    addField (d, before) f
      = ({ d with parent := f.declared? }, before ++ f.remarks d.pathString) := by
  unfold Field.isLink at hf
  cases hname : f.ident with
  | none => simp [hname] at hf
  | some i =>
      cases hlink : isParentLink f.attrs with
      | error e => simp [hname, hlink] at hf
      | ok marked =>
          obtain rfl : marked = true := by simpa [hname, hlink] using hf
          simp [addField, Field.declared?, Field.remarks, hname, hlink, hd]

/-- Every other field is an ordinary one, also one that is marked but comes second. -/
theorem addField_of_ordinary (h : f.isLink = false ∨ d.parent.isSome = true) :
    addField (d, before) f
      = ({ d with fields := d.fields ++ f.declared?.toList },
          before ++ f.remarks d.pathString) := by
  unfold Field.isLink at h
  cases hname : f.ident with
  | none => simp [addField, Field.declared?, Field.remarks, hname]
  | some i =>
      cases hlink : isParentLink f.attrs with
      | error e => simp [addField, Field.declared?, Field.remarks, hname, hlink]
      | ok marked =>
          have hnot : (marked && d.parent.isNone) = false := by
            rcases h with h | h
            · have hmarked : marked = false := by simpa [hname, hlink] using h
              simp [hmarked]
            · rw [Option.isNone_eq_false_iff.mpr h, Bool.and_false]
          simp [addField, Field.declared?, Field.remarks, hname, hlink, hnot]

/-- Behind the link all fields are ordinary. -/
theorem foldl_addField_of_linked (fs : List Field) (hd : d.parent.isSome = true) :
    fs.foldl addField (d, before)
      = ({ d with fields := d.fields ++ fs.filterMap (·.declared?) },
          before ++ fs.flatMap (·.remarks d.pathString)) := by
  induction fs generalizing d before with
  | nil => simp
  | cons f fs ih =>
      rw [List.foldl_cons, addField_of_ordinary (.inr hd), ih (by exact hd)]
      cases h : f.declared? <;> simp [h, pathString]

/-- A struct without a link so far takes the first marked field for it. -/
theorem foldl_addField (fs : List Field) (hd : d.parent = none) :
    fs.foldl addField (d, before)
      = ({ d with
            fields := d.fields ++ (fs.eraseP (·.isLink)).filterMap (·.declared?)
            parent := (fs.find? (·.isLink)).bind (·.declared?) },
          before ++ fs.flatMap (·.remarks d.pathString)) := by
  induction fs generalizing d before with
  | nil => simp [← hd]
  | cons f fs ih =>
      rw [List.foldl_cons]
      cases hf : f.isLink with
      | true =>
          have hlinked : f.declared?.isSome = true := by
            cases hname : f.ident with
            | none => simp [Field.isLink, hname] at hf
            | some i => simp [Field.declared?, hname]
          rw [addField_of_isLink hf hd, foldl_addField_of_linked fs hlinked]
          simp [hf, pathString]
      | false =>
          rw [addField_of_ordinary (.inl hf), ih (by exact hd)]
          cases h : f.declared? <;> simp [hf, h, pathString]

/-- What the registry reads in a struct: its fields in order, the first marked one apart. -/
theorem ofStruct_eq (m : ModulePath) (i : Ident) (attrs : List Attribute) (generic : Bool)
    (fields : Fields) :
    ofStruct m i attrs generic fields
      = (⟨m, i, fields.kind, Marker.ofAttributes attrs, generic,
            fields.ordinary.filterMap (·.declared?), fields.link?.bind (·.declared?)⟩,
          fields.byName.flatMap (·.remarks (m.itemPath i.name))) := by
  cases fields with
  | named fs trailing =>
      show fs.foldl addField (fieldless m i .struct attrs generic, []) = _
      rw [foldl_addField fs rfl]
      rfl
  | tuple fs trailing => rfl
  | unit => rfl

end Declaration

/-! ## The derive's reader -/

section Derived

variable {own : List Ident} {found : List Ident × Option Ident} {f : Field}

/-- A field is taken if its mark can be read and it is no second link. -/
theorem addDerivedField_eq_ok_iff {parent : Option Ident} (path : String) :
    addDerivedField (own, parent) f = .ok found
      ↔ f.remarks path = [] ∧ (f.isLink = true → parent = none)
        ∧ (if f.isLink then (own, f.ident) else (own ++ f.ident.toList, parent)) = found := by
  unfold addDerivedField Field.remarks Field.isLink
  cases hname : f.ident with
  | none => simp [pure, Except.pure]
  | some i =>
      cases hlink : isParentLink f.attrs with
      | error e => simp
      | ok marked =>
          cases marked with
          | false => simp [pure, Except.pure]
          | true => cases parent <;> simp [pure, Except.pure]

/-- Behind the link no field may be marked. -/
theorem foldlM_addDerivedField_of_linked (fs : List Field) {link : Ident} (path : String) :
    fs.foldlM addDerivedField (own, some link) = .ok found
      ↔ fs.flatMap (·.remarks path) = [] ∧ (∀ f ∈ fs, f.isLink = false)
        ∧ (own ++ fs.filterMap (·.ident), some link) = found := by
  induction fs generalizing own with
  | nil =>
      rw [List.foldlM_nil, pure_eq_ok_iff, eq_comm]
      simp
  | cons f fs ih =>
      rw [List.foldlM_cons, bind_eq_ok_iff]
      simp only [addDerivedField_eq_ok_iff path]
      cases hf : f.isLink with
      | true => simp [hf]
      | false => cases hname : f.ident <;> simp [hf, hname, ih, and_assoc]

/-- All marks can be read and none comes behind the first marked field. -/
theorem foldlM_addDerivedField (fs : List Field) (path : String) :
    fs.foldlM addDerivedField (own, none) = .ok found
      ↔ fs.flatMap (·.remarks path) = [] ∧ (∀ f ∈ fs.eraseP (·.isLink), f.isLink = false)
        ∧ (own ++ (fs.eraseP (·.isLink)).filterMap (·.ident),
            (fs.find? (·.isLink)).bind (·.ident)) = found := by
  induction fs generalizing own with
  | nil =>
      rw [List.foldlM_nil, pure_eq_ok_iff, eq_comm]
      simp
  | cons f fs ih =>
      rw [List.foldlM_cons, bind_eq_ok_iff]
      simp only [addDerivedField_eq_ok_iff path]
      cases hf : f.isLink with
      | true =>
          cases hname : f.ident with
          | none => simp [Field.isLink, hname] at hf
          | some i => simp [hf, hname, foldlM_addDerivedField_of_linked fs path, and_assoc]
      | false => cases hname : f.ident <;> simp [hf, hname, ih, and_assoc]

end Derived

/-! ## Both readers -/

namespace Derive

variable {derive : Derive} {attrs : List Attribute} {i : Ident} {span : Span} {g : Generics}
  {fields : Fields} {s : DerivedStruct}

/-- A derive takes a struct with named fields if it takes all of them and the constructor. -/
theorem acceptStruct_named_eq_ok_iff {fs : List Field} {trailing : Bool} :
    derive.acceptStruct attrs i span g (.named fs trailing) = .ok s
      ↔ g.isEmpty = true ∧ fs.foldlM addDerivedField ([], none) = .ok (s.fields, s.parent)
        ∧ constructorOf attrs = .ok s.constructor ∧ s.ident = i := by
  constructor
  · intro h
    have hfields := foldlM_of_acceptStruct h
    unfold acceptStruct at h
    obtain ⟨named, hnamed, h⟩ := bind_eq_ok h
    obtain rfl := Except.ok.inj hnamed
    cases hg : g.isEmpty with
    | false =>
        simp only [hg] at h
        cases h
    | true =>
        simp only [hg, Bool.not_true, Bool.false_eq_true, if_false] at h
        obtain ⟨found, hfound, h⟩ := bind_eq_ok h
        cases hc : constructorOf attrs with
        | error e =>
            simp only [hc] at h
            cases h
        | ok c =>
            simp only [hc] at h
            obtain rfl := Except.ok.inj h
            exact ⟨rfl, hfields, rfl, rfl⟩
  · rintro ⟨hg, hfields, hc, rfl⟩
    unfold acceptStruct
    simp only [hg, Bool.not_true, Bool.false_eq_true, if_false]
    show (fs.foldlM addDerivedField ([], none) >>= _) = _
    rw [hfields]
    simp only [bind, Except.bind, hc]
    rfl

/-- Only a tuple is refused for its fields as a whole. -/
theorem acceptStruct_eq_ok_iff :
    derive.acceptStruct attrs i span g fields = .ok s
      ↔ fields.kind = .struct ∧ g.isEmpty = true
        ∧ fields.byName.foldlM addDerivedField ([], none) = .ok (s.fields, s.parent)
        ∧ constructorOf attrs = .ok s.constructor ∧ s.ident = i := by
  cases fields with
  | named fs trailing => simp [acceptStruct_named_eq_ok_iff, Fields.kind, Fields.byName]
  | unit =>
      -- no fields at all are read like an empty list of them
      have hnamed : derive.acceptStruct attrs i span g .unit
          = derive.acceptStruct attrs i span g (.named [] false) := rfl
      simp [hnamed, acceptStruct_named_eq_ok_iff, Fields.kind, Fields.byName]
  | tuple fs trailing =>
      constructor
      · intro h
        cases h
      · rintro ⟨hkind, -⟩
        cases hkind

/-- What decides about a struct, in the terms of the registry's reader. -/
theorem acceptStruct_eq_ok_iff_read (path : String) :
    derive.acceptStruct attrs i span g fields = .ok s
      ↔ fields.kind = .struct ∧ (!g.isEmpty) = false
        ∧ fields.byName.flatMap (·.remarks path) = [] ∧ (∀ f ∈ fields.ordinary, f.isLink = false)
        ∧ constructorOf attrs = .ok s.constructor ∧ s.ident = i
        ∧ s.fields = (fields.ordinary.filterMap (·.declared?)).map DeclaredField.ident
        ∧ s.parent = (fields.link?.bind (·.declared?)).map DeclaredField.ident := by
  have hown : (fields.ordinary.filterMap (·.declared?)).map DeclaredField.ident
      = fields.ordinary.filterMap (·.ident) := by
    simp [List.map_filterMap]
  have hlink : (fields.link?.bind (·.declared?)).map DeclaredField.ident
      = fields.link?.bind (·.ident) := by
    simp only [Option.map_bind, Function.comp_def, Code.Field.map_ident_declared?]
  rw [acceptStruct_eq_ok_iff, foldlM_addDerivedField _ path, hown, hlink, Prod.mk.injEq,
    List.nil_append, Bool.not_eq_false']
  constructor
  · rintro ⟨hkind, hg, ⟨hremarks, hsecond, hs, hp⟩, hc, hi⟩
    exact ⟨hkind, hg, hremarks, hsecond, hc, hi, hs.symm, hp.symm⟩
  · rintro ⟨hkind, hg, hremarks, hsecond, hc, hi, hs, hp⟩
    exact ⟨hkind, hg, ⟨hremarks, hsecond, hs.symm, hp.symm⟩, hc, hi⟩

/-- **The registry and the derive read a struct alike.** Whether a derive accepts a struct, and
what it takes from it, can be told from the declaration and the remarks on it: the declaration is of
a struct without parameters, nothing is remarked upon and no ordinary field is marked as the link.
The derive has the fields and the link of the declaration then, and only the constructor can still
be wrong. A struct with an unreadable mark or a second link is refused. -/
theorem accept_iff_declared (derive : Derive) (m : ModulePath) (attrs : List Attribute)
    (vis : Visibility) (i : Ident) (span : Span) (g : Generics) (fields : Fields) :
    let (d, remarks) := Declaration.ofStruct m i attrs (!g.isEmpty) fields
    let item := Code.Item.struct attrs vis i span g fields
    (∀ s, derive.accept item = .ok s
      ↔ d.kind = .struct ∧ d.generic = false ∧ remarks = []
        ∧ (∀ f ∈ fields.ordinary, f.isLink = false)
        ∧ constructorOf attrs = .ok s.constructor ∧ s.ident = d.ident
        ∧ s.fields = d.fields.map DeclaredField.ident
        ∧ s.parent = d.parent.map DeclaredField.ident)
      ∧ d.fields = fields.ordinary.filterMap (·.declared?)
      ∧ d.parent = fields.link?.bind (·.declared?)
      ∧ remarks = fields.byName.flatMap (·.remarks d.pathString)
      ∧ ((remarks ≠ [] ∨ ∃ f ∈ fields.ordinary, f.isLink = true)
        → ∃ refusal, derive.accept item = .error refusal) := by
  rw [Declaration.ofStruct_eq]
  have accepted (s : DerivedStruct) : derive.acceptStruct attrs i span g fields = .ok s ↔ _ :=
    acceptStruct_eq_ok_iff_read (m.itemPath i.name)
  refine ⟨accepted, rfl, rfl, rfl, fun hbad => ?_⟩
  cases haccept : derive.acceptStruct attrs i span g fields with
  | error refusal => exact ⟨refusal, haccept⟩
  | ok s =>
      obtain ⟨-, -, hremarks, hsecond, -⟩ := (accepted s).mp haccept
      rcases hbad with hremarked | ⟨f, hf, hmarked⟩
      · exact absurd hremarks hremarked
      · rw [hsecond f hf] at hmarked
        cases hmarked

/-- The fields of a dog, and what the last one is marked with. -/
def dogFields (mark : List Attribute) : Fields :=
  .named
    [BuilderSpec.fieldOf [] "breed" (BuilderSpec.namedType "String"),
      BuilderSpec.fieldOf [BuilderSpec.attributeOn "test_builder" "parent"] "animal"
        (BuilderSpec.namedType "Animal"),
      BuilderSpec.fieldOf mark "age" (BuilderSpec.namedType "u8")] false

def dog (mark : List Attribute) : Item :=
  .struct [] .everywhere ⟨"Dog", false⟩ Span.nowhere Generics.none (dogFields mark)

/-- The dog is accepted if its last field has no mark, and refused if that is a second link or if
nobody knows the mark. -/
theorem accept_dog :
    (∃ s, testBuilder.accept (dog []) = .ok s
        ∧ s.fields = [⟨"breed", false⟩, ⟨"age", false⟩] ∧ s.parent = some ⟨"animal", false⟩)
      ∧ (∃ refusal, testBuilder.accept (dog [BuilderSpec.attributeOn "test_builder" "parent"])
        = .error refusal)
      ∧ ∃ refusal, testBuilder.accept (dog [BuilderSpec.attributeOn "test_builder" "skip"])
        = .error refusal := by
  have agree (mark : List Attribute) := accept_iff_declared testBuilder .root [] .everywhere
    ⟨"Dog", false⟩ Span.nowhere Generics.none (dogFields mark)
  simp only [Declaration.ofStruct_eq] at agree
  refine ⟨⟨⟨⟨"Dog", false⟩, [⟨"breed", false⟩, ⟨"age", false⟩], some ⟨"animal", false⟩, none⟩,
    ((agree []).1 _).mpr ?_, rfl, rfl⟩, (agree _).2.2.2.2 (.inr ?_), (agree _).2.2.2.2 (.inl ?_)⟩
  · refine ⟨rfl, rfl, ?_, ?_, rfl, rfl, ?_, ?_⟩ <;> decide +kernel
  · decide +kernel
  · decide +kernel

end Derive

end BuilderForge
