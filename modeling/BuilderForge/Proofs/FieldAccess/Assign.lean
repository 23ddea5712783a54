import BuilderForge.Instance
import BuilderForge.Proofs.FieldAccess.Walk

set_option autoImplicit false

/-! # Assigning along the walk

An instance is read layer by layer: its own slots, those of the parent behind its link, and so on.
`put` replaces the value of the one slot at a place. Assigning by name is exactly that, at the place
the walk leads to, if the value has the type of the one it replaces (`setField_of_reach`).
-/

namespace BuilderForge

open Code (Ident)

/-- One struct of an instance: its type, its slots, and the field that holds the parent. -/
structure Layer where
  type : ValueType
  slots : List Slot
  link : Option Ident

/-- The slot with another value. -/
def Slot.with (v : Value) (s : Slot) : Slot := { s with value := v }

namespace Layer

/-- The match that is derived for the struct. -/
def fieldMatch (l : Layer) : FieldMatch := .ofFields (l.slots.map Slot.ident) l.link

/-- What assigning keeps of a layer: all but the values, of which it keeps the types. -/
def shape (l : Layer) : ValueType × List (Ident × ValueType) × Option Ident :=
  (l.type, l.slots.map (fun s => (s.ident, s.value.type)), l.link)

/-- The layer with another value in a slot. -/
def put (index : Nat) (v : Value) (l : Layer) : Layer :=
  { l with slots := l.slots.modify index (Slot.with v) }

end Layer

namespace Instance

/-- The structs of an instance, outermost first. -/
def layers : Instance → List Layer
  | .root t ss => [⟨t, ss, none⟩]
  | .child t ss link parent => ⟨t, ss, some link⟩ :: parent.layers

/-- The derived matches along an instance. -/
def fieldMatches (x : Instance) : List FieldMatch := x.layers.map Layer.fieldMatch

def shape (x : Instance) : List (ValueType × List (Ident × ValueType) × Option Ident) :=
  x.layers.map Layer.shape

/-- The slot at a place. -/
def slot? (x : Instance) (p : FieldPlace) : Option Slot :=
  x.layers[p.level]?.bind fun l => l.slots[p.index]?

/-- An instance with another value in the slot of this index at this level. -/
def putAt : Instance → Nat → Nat → Value → Instance
  | .root t ss, 0, index, v => .root t (ss.modify index (Slot.with v))
  | .root t ss, _ + 1, _, _ => .root t ss
  | .child t ss link parent, 0, index, v => .child t (ss.modify index (Slot.with v)) link parent
  | .child t ss link parent, level + 1, index, v => .child t ss link (parent.putAt level index v)

/-- An instance with another value in the slot at a place. -/
def put (x : Instance) (p : FieldPlace) (v : Value) : Instance := x.putAt p.level p.index v

/-- An instance of accepted structs: it has their fields and their links. -/
def IsOf (x : Instance) (ss : List DerivedStruct) : Prop :=
  x.layers.map (fun l => (l.slots.map Slot.ident, l.link)) = ss.map fun s => (s.fields, s.parent)

/-! ## Replacing one value -/

theorem layers_putAt (x : Instance) (level index : Nat) (v : Value) :
    (x.putAt level index v).layers = x.layers.modify level (Layer.put index v) := by
  induction x generalizing level with
  | root t ss => cases level <;> simp [putAt, layers, Layer.put]
  | child t ss link parent ih =>
      cases level with
      | zero => rfl
      | succ level =>
          rw [putAt, layers, layers, ih, List.modify_succ_cons]

/-- Only the slot at the place changes. -/
theorem slot?_put (x : Instance) (p q : FieldPlace) (v : Value) :
    (x.put p v).slot? q = if p = q then (x.slot? q).map (Slot.with v) else x.slot? q := by
  obtain ⟨level, index⟩ := p
  obtain ⟨level', index'⟩ := q
  simp only [slot?, put, layers_putAt, List.getElem?_modify, FieldPlace.mk.injEq]
  cases x.layers[level']? with
  | none => simp
  | some l =>
      by_cases hlevel : level = level'
      · simp only [hlevel, if_true, Option.bind_some, Layer.put, true_and]
        by_cases hindex : index = index'
        · simp [hindex]
        · simp [hindex]
      · simp [hlevel]

/-- A value of the same type leaves the shape as it is. -/
theorem shape_put {x : Instance} {p : FieldPlace} {s : Slot} {v : Value} (hs : x.slot? p = some s)
    (hv : v.type = s.value.type) : (x.put p v).shape = x.shape := by
  obtain ⟨l, hl, hslot⟩ := Option.bind_eq_some_iff.mp hs
  have hlayer : (l.put p.index v).shape = l.shape := by
    have hslots : (l.slots.modify p.index (Slot.with v)).map (fun s => (s.ident, s.value.type))
        = l.slots.map fun s => (s.ident, s.value.type) := by
      apply List.ext_getElem?
      intro i
      rw [List.getElem?_map, List.getElem?_modify, List.getElem?_map]
      by_cases hi : p.index = i
      · rw [← hi, hslot]
        simp [Slot.with, hv]
      · simp [hi]
    simp only [Layer.shape, Layer.put, hslots]
  rw [shape, shape, put, layers_putAt]
  apply List.ext_getElem?
  intro i
  rw [List.getElem?_map, List.getElem?_modify, List.getElem?_map]
  by_cases hi : p.level = i
  · rw [← hi, hl]
    simp [hlayer]
  · simp [hi]

/-- The order of two replacements at different places does not matter. -/
theorem put_comm (x : Instance) {p q : FieldPlace} (hpq : p ≠ q) (v w : Value) :
    (x.put p v).put q w = (x.put q w).put p v := by
  obtain ⟨level, index⟩ := p
  obtain ⟨level', index'⟩ := q
  -- in this form the hypothesis goes down the levels with the induction
  have hindex : level = level' → index ≠ index' := by
    rintro rfl rfl
    exact hpq rfl
  clear hpq
  unfold put
  dsimp only
  induction x generalizing level level' with
  | root t ss =>
      cases level with
      | zero =>
          cases level' with
          | zero =>
              simp only [putAt]
              rw [List.modify_modify_ne _ _ _ (hindex rfl)]
          | succ level' => rfl
      | succ level => cases level' <;> rfl
  | child t ss link parent ih =>
      cases level with
      | zero =>
          cases level' with
          | zero =>
              simp only [putAt]
              rw [List.modify_modify_ne _ _ _ (hindex rfl)]
          | succ level' => rfl
      | succ level =>
          cases level' with
          | zero => rfl
          | succ level' =>
              simp only [putAt]
              rw [ih level level' fun h => hindex (congrArg (· + 1) h)]

/-! ## Assigning -/

/-- The match of an instance is told by its shape. -/
theorem fieldMatches_of_shape {x y : Instance} (h : x.shape = y.shape) :
    x.fieldMatches = y.fieldMatches := by
  have key : ∀ z : Instance, z.fieldMatches
      = z.shape.map fun l => FieldMatch.ofFields (l.2.1.map Prod.fst) l.2.2 := by
    intro z
    rw [fieldMatches, shape, List.map_map]
    apply List.map_congr_left
    intro l _
    simp [Layer.fieldMatch, Layer.shape, List.map_map, Function.comp_def]
  rw [key, key, h]

/-- An instance of accepted structs is assigned by their matches. -/
theorem IsOf.fieldMatches {x : Instance} {ss : List DerivedStruct} (h : x.IsOf ss) :
    x.fieldMatches = ss.map DerivedStruct.fieldMatch := by
  have hmatches := congrArg (List.map fun e => FieldMatch.ofFields e.1 e.2) h
  rw [List.map_map, List.map_map] at hmatches
  exact hmatches

/-- The first slot of an identifier is the one that is assigned. -/
theorem assignSlot_of_first (owner : ValueType) (name : String) (v : Value) {ss : List Slot}
    {index : Nat} {s : Slot} (hs : ss[index]? = some s)
    (hfirst : ∀ j < index, ∀ t, ss[j]? = some t → t.ident ≠ s.ident) :
    assignSlot owner s.ident name v ss
      = if v.type = s.value.type then .ok (ss.modify index (Slot.with v))
        else .error (.typeMismatch owner name s.value.type) := by
  induction ss generalizing index with
  | nil => simp at hs
  | cons t ss ih =>
      cases index with
      | zero =>
          obtain rfl : t = s := by simpa using hs
          simp only [assignSlot, if_true, List.modify_zero_cons]
          rfl
      | succ index =>
          have ht : t.ident ≠ s.ident := hfirst 0 (by omega) t (by simp)
          have hrest := ih (by simpa using hs) fun j hj u hu =>
            hfirst (j + 1) (by omega) u (by simpa using hu)
          rw [assignSlot, if_neg ht, hrest, List.modify_succ_cons]
          split <;> rfl

/-- An arm for a name belongs to the first slot of the name, which is the one that is assigned. -/
theorem assignSlot_of_arm {ss : List Slot} {link : Option Ident} {name : String} {index : Nat}
    (h : ((FieldMatch.ofFields (ss.map Slot.ident) link).arms.findIdx? fun a => a.key == name)
      = some index) :
    ∃ s, ss[index]? = some s
      ∧ (FieldMatch.ofFields (ss.map Slot.ident) link).field? name = some s.ident
      ∧ ∀ owner v, assignSlot owner s.ident name v ss
        = if v.type = s.value.type then .ok (ss.modify index (Slot.with v))
          else .error (.typeMismatch owner name s.value.type) := by
  have hindex := h
  simp only [FieldMatch.ofFields, List.findIdx?_map] at hindex
  obtain ⟨hlt, hname, hearlier⟩ := List.findIdx?_eq_some_iff_getElem.mp hindex
  have hs : ss[index]? = some ss[index] := by simp [hlt]
  -- an earlier slot of the same identifier would have had an earlier arm for the name
  have hfirst : ∀ j < index, ∀ t, ss[j]? = some t → t.ident ≠ ss[index].ident := by
    intro j hj t ht heq
    obtain ⟨hjlt, rfl⟩ := List.getElem?_eq_some_iff.mp ht
    have := hearlier j hj
    simp only [Function.comp] at this hname
    rw [heq] at this
    exact this hname
  refine ⟨ss[index], hs, ?_, fun owner v => assignSlot_of_first owner name v hs hfirst⟩
  rw [FieldMatch.field?, List.find?_eq_bind_findIdx?_getElem?, h]
  simp [FieldMatch.ofFields, hlt]

theorem field?_of_findIdx?_none {ss : List Slot} {link : Option Ident} {name : String}
    (h : ((FieldMatch.ofFields (ss.map Slot.ident) link).arms.findIdx? fun a => a.key == name)
      = none) : (FieldMatch.ofFields (ss.map Slot.ident) link).field? name = none := by
  rw [FieldMatch.field?, List.find?_eq_bind_findIdx?_getElem?, h]
  rfl

/-- Assigning by name replaces the value at the place that the walk leads to. If the value is not of
the type of what is there, the struct that has the field refuses it. -/
theorem setField_at {x : Instance} {name : String} {p : FieldPlace}
    (h : FieldMatch.reach x.fieldMatches name = some p) (v : Value) :
    ∃ l s, x.layers[p.level]? = some l ∧ l.slots[p.index]? = some s ∧ x.setField name v
      = if v.type = s.value.type then .ok (x.put p v)
        else .error (.typeMismatch l.type name s.value.type) := by
  induction x generalizing p with
  | root t ss =>
      rw [Instance.fieldMatches, layers, List.map_singleton, FieldMatch.reach_cons] at h
      cases hindex : (Layer.fieldMatch ⟨t, ss, none⟩).arms.findIdx? fun a => a.key == name with
      | none =>
          rw [hindex] at h
          cases h
      | some index =>
          rw [hindex] at h
          obtain rfl := Option.some.inj h
          obtain ⟨s, hs, hfield, hassign⟩ := assignSlot_of_arm hindex
          refine ⟨⟨t, ss, none⟩, s, rfl, hs, ?_⟩
          rw [setField, hfield]
          dsimp only
          rw [hassign]
          split <;> rfl
  | child t ss link parent ih =>
      rw [Instance.fieldMatches, layers, List.map_cons, FieldMatch.reach_cons] at h
      cases hindex : (Layer.fieldMatch ⟨t, ss, some link⟩).arms.findIdx? fun a => a.key == name with
      | none =>
          rw [hindex] at h
          obtain ⟨q, hq, rfl⟩ := Option.map_eq_some_iff.mp h
          obtain ⟨l, s, hl, hs, hset⟩ := ih hq
          refine ⟨l, s, hl, hs, ?_⟩
          rw [setField, field?_of_findIdx?_none hindex]
          dsimp only
          rw [hset]
          split <;> rfl
      | some index =>
          rw [hindex] at h
          obtain rfl := Option.some.inj h
          obtain ⟨s, hs, hfield, hassign⟩ := assignSlot_of_arm hindex
          refine ⟨⟨t, ss, some link⟩, s, rfl, hs, ?_⟩
          rw [setField, hfield]
          dsimp only
          rw [hassign]
          split <;> rfl

/-- The value at the place is the one that is replaced. -/
theorem setField_of_reach {x : Instance} {name : String} {p : FieldPlace}
    (h : FieldMatch.reach x.fieldMatches name = some p) (v : Value) :
    ∃ s owner, x.slot? p = some s ∧ x.setField name v
      = if v.type = s.value.type then .ok (x.put p v)
        else .error (.typeMismatch owner name s.value.type) := by
  obtain ⟨l, s, hl, hs, hset⟩ := setField_at h v
  refine ⟨s, l.type, ?_, hset⟩
  rw [slot?, hl]
  exact hs

/-- A name that leads nowhere is not found. -/
theorem setField_of_not_reach {x : Instance} {name : String}
    (h : FieldMatch.reach x.fieldMatches name = none) (v : Value) :
    x.setField name v = .error (.notFound name) := by
  induction x with
  | root t ss =>
      rw [Instance.fieldMatches, layers, List.map_singleton, FieldMatch.reach_cons] at h
      cases hindex : (Layer.fieldMatch ⟨t, ss, none⟩).arms.findIdx? fun a => a.key == name with
      | none => rw [setField, field?_of_findIdx?_none hindex]
      | some index =>
          rw [hindex] at h
          cases h
  | child t ss link parent ih =>
      rw [Instance.fieldMatches, layers, List.map_cons, FieldMatch.reach_cons] at h
      cases hindex : (Layer.fieldMatch ⟨t, ss, some link⟩).arms.findIdx? fun a => a.key == name with
      | none =>
          rw [hindex] at h
          rw [setField, field?_of_findIdx?_none hindex]
          dsimp only
          rw [ih (Option.map_eq_none_iff.mp h)]
          rfl
      | some index =>
          rw [hindex] at h
          cases h

end Instance

end BuilderForge
