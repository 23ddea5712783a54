import BuilderForge.Proofs.FieldAccess.Assign
import BuilderForge.Sample

set_option autoImplicit false

/-! # What an assignment changes

The nearest field of a name is the one in the first struct, from the outermost on, that has a field
of the name among its own (`IsNearest`). An assignment by name concerns this field and no other: it
replaces the value that is there (`DiffersAt`), or is refused because of its type, even if a struct
farther up has a field of the same name that would take the value. It fails only as a whole: what it
leaves of the instance then is what was there before (`assign_eq`).
-/

namespace BuilderForge

namespace Instance

variable {x : Instance} {name : String} {p : FieldPlace}

/-! ## Assigning in place -/

theorem assignFirst_eq (owner : ValueType) (i : Code.Ident) (name : String) (v : Value)
    (ss : List Slot) :
    assignFirst owner i name v ss
      = match assignSlot owner i name v ss with
        | .ok ss' => (ss', .ok ())
        | .error e => (ss, .error e) := by
  induction ss with
  | nil => rfl
  | cons s ss ih =>
      rw [assignFirst, assignSlot]
      by_cases hi : s.ident = i
      · rw [if_pos hi, if_pos hi]
        split <;> rfl
      · rw [if_neg hi, if_neg hi, ih]
        cases assignSlot owner i name v ss <;> rfl

/-- Assigning in place ends as `setField` does. If it fails, the instance is left as it was. -/
theorem assign_eq (x : Instance) (name : String) (v : Value) :
    x.assign name v
      = match x.setField name v with
        | .ok y => (y, .ok ())
        | .error e => (x, .error e) := by
  induction x with
  | root t ss =>
      rw [assign, setField]
      cases (FieldMatch.ofFields (ss.map Slot.ident) none).field? name with
      | none => rfl
      | some i =>
          dsimp only
          rw [assignFirst_eq]
          cases assignSlot t i name v ss <;> rfl
  | child t ss link parent ih =>
      rw [assign, setField]
      cases (FieldMatch.ofFields (ss.map Slot.ident) (some link)).field? name with
      | none =>
          dsimp only
          rw [ih]
          cases parent.setField name v <;> rfl
      | some i =>
          dsimp only
          rw [assignFirst_eq]
          cases assignSlot t i name v ss <;> rfl

/-! ## The nearest field -/

/-- The nearest field of a name: the struct `l` at its level has a field of the name as the slot
`s`, and no struct farther out has one. -/
structure IsNearest (x : Instance) (name : String) (p : FieldPlace) (l : Layer) (s : Slot) :
    Prop where
  layer : x.layers[p.level]? = some l
  slot : l.slots[p.index]? = some s
  ident : s.ident.name = name
  /-- It is the only one of its name in the struct, or else the first. -/
  first : ∀ index < p.index, ∀ t, l.slots[index]? = some t → t.ident.name ≠ name
  outer : ∀ level < p.level, ∀ l', x.layers[level]? = some l' → ∀ t ∈ l'.slots,
    t.ident.name ≠ name

/-- An arm for a name stands where the first slot of the name does. -/
theorem findIdx?_arms_eq_some_iff {l : Layer} {index : Nat} :
    (l.fieldMatch.arms.findIdx? fun a => a.key == name) = some index
      ↔ ∃ s, l.slots[index]? = some s ∧ s.ident.name = name
        ∧ ∀ j < index, ∀ t, l.slots[j]? = some t → t.ident.name ≠ name := by
  have harms : (l.fieldMatch.arms.findIdx? fun a => a.key == name)
      = l.slots.findIdx? fun s => s.ident.name == name := by
    simp [Layer.fieldMatch, FieldMatch.ofFields, List.findIdx?_map, Function.comp_def]
  rw [harms, List.findIdx?_eq_some_iff_getElem]
  constructor
  · rintro ⟨hlt, hname, hearlier⟩
    refine ⟨l.slots[index], List.getElem?_eq_getElem hlt, by simpa using hname, ?_⟩
    intro j hj t ht
    obtain ⟨hjlt, rfl⟩ := List.getElem?_eq_some_iff.mp ht
    simpa using hearlier j hj
  · rintro ⟨s, hs, hname, hearlier⟩
    obtain ⟨hlt, rfl⟩ := List.getElem?_eq_some_iff.mp hs
    refine ⟨hlt, by simpa using hname, ?_⟩
    intro j hj
    simpa using hearlier j hj _ (List.getElem?_eq_getElem (by omega))

theorem findIdx?_arms_eq_none_iff {l : Layer} :
    (l.fieldMatch.arms.findIdx? fun a => a.key == name) = none
      ↔ ∀ s ∈ l.slots, s.ident.name ≠ name := by
  simp [Layer.fieldMatch, FieldMatch.ofFields, List.findIdx?_map, Function.comp_def]

/-- An own field is the nearest one if there is an arm for the name. -/
theorem isNearest_zero_iff {l₀ l : Layer} {above : List Layer} (hx : x.layers = l₀ :: above)
    {index : Nat} {s : Slot} :
    x.IsNearest name ⟨0, index⟩ l s
      ↔ l = l₀ ∧ l₀.slots[index]? = some s
        ∧ (l₀.fieldMatch.arms.findIdx? fun a => a.key == name) = some index := by
  rw [findIdx?_arms_eq_some_iff]
  constructor
  · intro h
    have hlayer := h.layer
    rw [hx] at hlayer
    obtain rfl := Option.some.inj hlayer
    exact ⟨rfl, h.slot, s, h.slot, h.ident, h.first⟩
  · rintro ⟨rfl, hs, t, ht, hname, hfirst⟩
    obtain rfl := Option.some.inj (hs.symm.trans ht)
    refine ⟨by rw [hx]; rfl, hs, hname, hfirst, ?_⟩
    intro level hlevel
    exact absurd hlevel (Nat.not_lt_zero level)

/-- A field farther up is the nearest one if it is for the parent, and no own field has the name. -/
theorem isNearest_succ_iff {y : Instance} {l₀ l : Layer} (hx : x.layers = l₀ :: y.layers)
    {level index : Nat} {s : Slot} :
    x.IsNearest name ⟨level + 1, index⟩ l s
      ↔ (l₀.fieldMatch.arms.findIdx? fun a => a.key == name) = none
        ∧ y.IsNearest name ⟨level, index⟩ l s := by
  rw [findIdx?_arms_eq_none_iff]
  constructor
  · intro h
    refine ⟨h.outer 0 (Nat.succ_pos level) l₀ (by rw [hx]; rfl), ?_, h.slot, h.ident, h.first, ?_⟩
    · have hlayer := h.layer
      rw [hx] at hlayer
      exact hlayer
    · intro below hbelow l' hl'
      exact h.outer (below + 1) (Nat.succ_lt_succ hbelow) l' (by rw [hx]; exact hl')
  · rintro ⟨hown, h⟩
    refine ⟨by rw [hx]; exact h.layer, h.slot, h.ident, h.first, ?_⟩
    intro below hbelow l' hl'
    rw [hx] at hl'
    cases below with
    | zero =>
        obtain rfl := Option.some.inj hl'
        exact hown
    | succ below => exact h.outer below (Nat.lt_of_succ_lt_succ hbelow) l' hl'

theorem exists_isNearest_zero_iff {l₀ : Layer} {above : List Layer} (hx : x.layers = l₀ :: above)
    {index : Nat} :
    (∃ l s, x.IsNearest name ⟨0, index⟩ l s)
      ↔ (l₀.fieldMatch.arms.findIdx? fun a => a.key == name) = some index := by
  simp only [isNearest_zero_iff hx]
  constructor
  · rintro ⟨l, s, -, -, h⟩
    exact h
  · intro h
    obtain ⟨s, hs, -⟩ := findIdx?_arms_eq_some_iff.mp h
    exact ⟨l₀, s, rfl, hs, h⟩

/-! ## The walk to the nearest field -/

theorem reach_root (t : ValueType) (ss : List Slot) (name : String) :
    FieldMatch.reach (fieldMatches (.root t ss)) name
      = ((Layer.fieldMatch ⟨t, ss, none⟩).arms.findIdx? fun a => a.key == name).map
        (FieldPlace.mk 0) := by
  rw [fieldMatches, layers, List.map_singleton, FieldMatch.reach_cons]
  cases (Layer.fieldMatch ⟨t, ss, none⟩).arms.findIdx? fun a => a.key == name <;> rfl

theorem reach_child (t : ValueType) (ss : List Slot) (link : Code.Ident) (parent : Instance)
    (name : String) :
    FieldMatch.reach (fieldMatches (.child t ss link parent)) name
      = (((Layer.fieldMatch ⟨t, ss, some link⟩).arms.findIdx? fun a => a.key == name).map
          (FieldPlace.mk 0)).or
        ((FieldMatch.reach parent.fieldMatches name).map fun p => ⟨p.level + 1, p.index⟩) := by
  rw [fieldMatches, layers, List.map_cons, FieldMatch.reach_cons]
  cases (Layer.fieldMatch ⟨t, ss, some link⟩).arms.findIdx? fun a => a.key == name <;> rfl

/-- The walk ends at the nearest field of the name. -/
theorem reach_eq_some_iff :
    FieldMatch.reach x.fieldMatches name = some p ↔ ∃ l s, x.IsNearest name p l s := by
  obtain ⟨level, index⟩ := p
  induction x generalizing level with
  | root t ss =>
      rw [reach_root]
      cases level with
      | zero => simp [exists_isNearest_zero_iff (x := .root t ss) rfl]
      | succ level =>
          -- there is no struct behind the only one
          have hnone : ¬ ∃ l s, IsNearest (.root t ss) name ⟨level + 1, index⟩ l s := by
            rintro ⟨l, s, h⟩
            have hlayer := h.layer
            cases hlayer
          simp [hnone]
  | child t ss link parent ih =>
      rw [reach_child]
      cases level with
      | zero =>
          rw [exists_isNearest_zero_iff (x := .child t ss link parent) rfl]
          cases (Layer.fieldMatch ⟨t, ss, some link⟩).arms.findIdx? fun a => a.key == name <;> simp
      | succ level =>
          simp only [isNearest_succ_iff (x := .child t ss link parent) (y := parent) rfl]
          cases (Layer.fieldMatch ⟨t, ss, some link⟩).arms.findIdx? fun a => a.key == name with
          | none =>
              simp only [true_and, ← ih level]
              cases FieldMatch.reach parent.fieldMatches name with
              | none => simp
              | some q => cases q; simp
          | some i => simp

/-- The walk ends nowhere if no struct of the instance has a field of the name. -/
theorem reach_eq_none_iff :
    FieldMatch.reach x.fieldMatches name = none ↔ name ∉ x.fieldNames := by
  induction x with
  | root t ss =>
      rw [reach_root, Option.map_eq_none_iff, findIdx?_arms_eq_none_iff]
      simp [fieldNames]
  | child t ss link parent ih =>
      rw [reach_child, Option.or_eq_none_iff, Option.map_eq_none_iff, findIdx?_arms_eq_none_iff,
        Option.map_eq_none_iff, ih]
      simp [fieldNames]

/-- There is a nearest field of every name that occurs among the fields. -/
theorem exists_isNearest_iff : (∃ p l s, x.IsNearest name p l s) ↔ name ∈ x.fieldNames := by
  simp only [← reach_eq_some_iff]
  rw [← Option.ne_none_iff_exists', ne_eq, reach_eq_none_iff, not_not]

/-! ## One field or none -/

/-- `y` differs from `x` in one slot at most: `v` is what is there. Types, identifiers and links are
the same everywhere. -/
structure DiffersAt (x y : Instance) (p : FieldPlace) (v : Value) : Prop where
  shape : y.shape = x.shape
  here : y.slot? p = (x.slot? p).map (Slot.with v)
  elsewhere : ∀ q, q ≠ p → y.slot? q = x.slot? q

theorem differsAt_put {s : Slot} {v : Value} (hs : x.slot? p = some s)
    (hv : v.type = s.value.type) : x.DiffersAt (x.put p v) p v where
  shape := shape_put hs hv
  here := by rw [slot?_put, if_pos rfl]
  elsewhere := fun q hq => by rw [slot?_put, if_neg hq.symm]

theorem IsNearest.slot? {l : Layer} {s : Slot} (h : x.IsNearest name p l s) :
    x.slot? p = some s := by
  rw [Instance.slot?, h.layer]
  exact h.slot

/-- What `setField` says about the nearest field. -/
theorem setField_of_isNearest {l : Layer} {s : Slot} (h : x.IsNearest name p l s) (v : Value) :
    x.setField name v
      = if v.type = s.value.type then .ok (x.put p v)
        else .error (.typeMismatch l.type name s.value.type) := by
  obtain ⟨l', s', hl', hs', hset⟩ := setField_at (reach_eq_some_iff.mpr ⟨l, s, h⟩) v
  obtain rfl := Option.some.inj (h.layer.symm.trans hl')
  obtain rfl := Option.some.inj (h.slot.symm.trans hs')
  exact hset

/-- **An assignment by name is exact and all or nothing.** The nearest field of the name takes a
value of its type, and nothing else changes. A value of another type is refused in the name of the
struct that has the field, whatever fields there are farther up, and a name without a field is not
found; the instance is what it was then. -/
theorem assign_exact (x : Instance) (name : String) (v : Value) :
    (name ∉ x.fieldNames → x.assign name v = (x, .error (.notFound name)))
    ∧ (name ∈ x.fieldNames ↔ ∃ p l s, x.IsNearest name p l s)
    ∧ ∀ p l s, x.IsNearest name p l s →
      (v.type ≠ s.value.type →
        x.assign name v = (x, .error (.typeMismatch l.type name s.value.type)))
      ∧ (v.type = s.value.type →
        ∃ y, x.assign name v = (y, .ok ()) ∧ x.DiffersAt y p v) := by
  refine ⟨fun hname => ?_, exists_isNearest_iff.symm, fun p l s h => ⟨fun htype => ?_, ?_⟩⟩
  · rw [assign_eq, setField_of_not_reach (reach_eq_none_iff.mpr hname)]
  · rw [assign_eq, setField_of_isNearest h, if_neg htype]
  · intro htype
    refine ⟨x.put p v, ?_, differsAt_put h.slot? htype⟩
    rw [assign_eq, setField_of_isNearest h, if_pos htype]

/-- The nearest `id` of an invoice is a text. A number is refused for it although the record behind
has a number for its `id`, and neither of them changes. The link to the record is no field. -/
theorem assign_invoice :
    (∃ l s, Sample.invoiceInstance.IsNearest "id" ⟨0, 0⟩ l s)
      ∧ Sample.invoiceInstance.assign "id" (Sample.u64 7)
        = (Sample.invoiceInstance,
          .error (.typeMismatch (Sample.typeIn "accounts" "Invoice") "id" .string))
      ∧ Sample.invoiceInstance.assign "record" (Sample.u64 7)
        = (Sample.invoiceInstance, .error (.notFound "record"))
      ∧ ∃ y, Sample.invoiceInstance.assign "created_by" (.string "me") = (y, .ok ())
        ∧ Sample.invoiceInstance.DiffersAt y ⟨1, 1⟩ (.string "me") := by
  have hid : Sample.invoiceInstance.IsNearest "id" ⟨0, 0⟩ _ _ :=
    (isNearest_zero_iff rfl).mpr ⟨rfl, rfl, rfl⟩
  have hcreated : Sample.invoiceInstance.IsNearest "created_by" ⟨1, 1⟩ _ _ :=
    (isNearest_succ_iff (y := Sample.recordInstance) rfl).mpr
      ⟨rfl, (isNearest_zero_iff rfl).mpr ⟨rfl, rfl, rfl⟩⟩
  obtain ⟨-, -, hassign⟩ := assign_exact Sample.invoiceInstance "id" (Sample.u64 7)
  obtain ⟨hmissing, -⟩ := assign_exact Sample.invoiceInstance "record" (Sample.u64 7)
  obtain ⟨-, -, hfits⟩ := assign_exact Sample.invoiceInstance "created_by" (.string "me")
  exact ⟨⟨_, _, hid⟩, (hassign _ _ _ hid).1 (by decide), hmissing (by decide),
    (hfits _ _ _ hcreated).2 rfl⟩

end Instance

end BuilderForge
