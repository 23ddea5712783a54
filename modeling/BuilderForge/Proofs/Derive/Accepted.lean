import BuilderForge.Derive
import BuilderForge.Proofs.Registry.Building

set_option autoImplicit false

/-! # Structs read twice

A struct is read once by the registry, as a declaration, and once by the derive, which has stricter
rules. Of a struct that the derive accepts, both take the same fields in the same order and the same
link to the parent (`Accepted.fields_parent`).
-/

namespace BuilderForge

open Code (Ident Item Field)

/-- What a step hands on to the next if both go well. -/
theorem bind_eq_ok {ε α β : Type} {x : Except ε α} {f : α → Except ε β} {b : β}
    (h : x >>= f = .ok b) : ∃ a, x = .ok a ∧ f a = .ok b := by
  cases x with
  | error e => cases h
  | ok a => exact ⟨a, rfl, h⟩

theorem bind_eq_ok_iff {ε α β : Type} {x : Except ε α} {f : α → Except ε β} {b : β} :
    x >>= f = .ok b ↔ ∃ a, x = .ok a ∧ f a = .ok b := by
  constructor
  · exact bind_eq_ok
  · rintro ⟨a, rfl, h⟩
    exact h

/-- What fails in two steps fails in the first, or in the second. -/
theorem bind_eq_error {ε α β : Type} {x : Except ε α} {f : α → Except ε β} {e : ε}
    (h : x >>= f = .error e) : x = .error e ∨ ∃ a, x = .ok a ∧ f a = .error e := by
  cases x with
  | error e' => exact Or.inl (congrArg Except.error (Except.error.inj h))
  | ok a => exact Or.inr ⟨a, rfl, h⟩

theorem pure_eq_ok_iff {ε α : Type} {a b : α} : (pure a : Except ε α) = .ok b ↔ b = a := by
  rw [show (pure a : Except ε α) = .ok a from rfl, Except.ok.injEq]
  exact eq_comm

/-- The identifiers of the fields and of the link to the parent. -/
def Declaration.idents (d : Declaration) : List Ident × Option Ident :=
  (d.fields.map DeclaredField.ident, d.parent.map DeclaredField.ident)

/-- A field that the derive takes is taken by the registry for the same. -/
theorem idents_addField {d : Declaration} {remarks : List Diagnostic} {f : Field}
    {found : List Ident × Option Ident} (h : addDerivedField d.idents f = .ok found) :
    (Declaration.addField (d, remarks) f).1.idents = found := by
  unfold addDerivedField at h
  unfold Declaration.addField
  cases hname : f.ident with
  | none =>
      simp only [hname] at h
      exact Except.ok.inj h
  | some i =>
      simp only [hname] at h
      cases hlink : isParentLink f.attrs with
      | error e =>
          simp only [hlink] at h
          cases h
      | ok isParent =>
          cases isParent with
          | false =>
              simp only [hlink] at h
              obtain rfl := Except.ok.inj h
              simp [Declaration.idents]
          | true =>
              cases hparent : d.parent with
              | none =>
                  simp only [hlink, Declaration.idents, hparent, Option.map_none] at h
                  obtain rfl := Except.ok.inj h
                  simp [Declaration.idents, hparent]
              | some link =>
                  simp only [hlink, Declaration.idents, hparent, Option.map_some] at h
                  cases h

/-- So are all fields of a struct. -/
theorem idents_foldl_addField (fs : List Field) {d : Declaration} {remarks : List Diagnostic}
    {found : List Ident × Option Ident} (h : fs.foldlM addDerivedField d.idents = .ok found) :
    (fs.foldl Declaration.addField (d, remarks)).1.idents = found := by
  induction fs generalizing d remarks with
  | nil => exact Except.ok.inj h
  | cons f fs ih =>
      rw [List.foldlM_cons] at h
      obtain ⟨next, hadd, h⟩ := bind_eq_ok h
      rw [← idents_addField hadd] at h
      rw [List.foldl_cons]
      exact ih h

namespace Derive

variable {derive : Derive} {attrs : List Code.Attribute} {i : Ident} {span : Code.Span}
  {g : Code.Generics} {s : DerivedStruct}

/-- What an accepted struct has taken from its fields. -/
theorem foldlM_of_acceptStruct {fs : List Field} {trailing : Bool}
    (h : derive.acceptStruct attrs i span g (.named fs trailing) = .ok s) :
    fs.foldlM addDerivedField ([], none) = .ok (s.fields, s.parent) := by
  unfold acceptStruct at h
  obtain ⟨named, hnamed, h⟩ := bind_eq_ok h
  obtain rfl := Except.ok.inj hnamed
  cases hg : g.isEmpty with
  | false =>
      simp only [hg] at h
      cases h
  | true =>
      simp only [hg, Bool.not_true, Bool.false_eq_true, if_false] at h
      obtain ⟨found, hfound, h⟩ := bind_eq_ok h
      cases hc : constructorOf attrs with
      | error e =>
          simp only [hc] at h
          cases h
      | ok c =>
          simp only [hc] at h
          obtain rfl := Except.ok.inj h
          exact hfound

/-- The registry takes the same. -/
theorem idents_of_acceptStruct {fields : Code.Fields}
    (h : derive.acceptStruct attrs i span g fields = .ok s) (m : ModulePath) (generic : Bool) :
    (Declaration.ofStruct m i attrs generic fields).1.idents = (s.fields, s.parent) := by
  cases fields with
  | tuple fs trailing => cases h
  | named fs trailing => exact idents_foldl_addField fs (foldlM_of_acceptStruct h)
  | unit =>
      -- no fields at all are read like an empty list of them
      have hnamed : derive.acceptStruct attrs i span g (.named [] false) = .ok s := h
      exact Except.ok.inj (foldlM_of_acceptStruct hnamed)

end Derive

/-- An item that declares `d` is accepted by a derive, which takes `s` from it. -/
def Accepted (d : Declaration) (s : DerivedStruct) : Prop :=
  ∃ (m : ModulePath) (i : Item) (derive : Derive),
    i.declaration? m = some d ∧ derive.accept i = .ok s

/-- The registry and the derive agree on the fields of a struct and on its link. -/
theorem Accepted.fields_parent {d : Declaration} {s : DerivedStruct} (h : Accepted d s) :
    s.fields = d.fields.map DeclaredField.ident ∧ s.parent = d.parent.map DeclaredField.ident := by
  obtain ⟨m, i, derive, hd, hs⟩ := h
  cases i with
  | struct attrs vis i span g fields =>
      obtain rfl := Option.some.inj hd
      have hidents := Derive.idents_of_acceptStruct hs m (!g.isEmpty)
      exact ⟨(congrArg Prod.fst hidents).symm, (congrArg Prod.snd hidents).symm⟩
  | enum attrs vis i span g variants => cases hs
  | union attrs vis i span g fields => cases hs
  | _ => cases hd

/-- There is an arm for each field of the declaration. -/
theorem Accepted.arms {d : Declaration} {s : DerivedStruct} (h : Accepted d s) :
    s.fieldMatch.arms = d.fields.map fun f => ⟨f.ident.name, f.ident⟩ := by
  show s.fields.map (fun i => (⟨i.name, i⟩ : Arm)) = _
  rw [h.fields_parent.1, List.map_map]
  rfl

/-- A name without an arm is left to the parent of the declaration, if it has one. -/
theorem Accepted.fallback {d : Declaration} {s : DerivedStruct} (h : Accepted d s) :
    s.fieldMatch.fallback
      = match d.parent with
        | some link => .parent link.ident
        | none => .notFound := by
  have hparent := h.fields_parent.2
  unfold DerivedStruct.fieldMatch FieldMatch.ofFields
  rw [hparent]
  cases d.parent <;> rfl

end BuilderForge
