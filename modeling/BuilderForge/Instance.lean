import BuilderForge.Derive
import BuilderForge.Instance.Fault

set_option autoImplicit false

/-! # Instances

A value of a struct whose fields are assigned by name. It holds a slot for each of its own fields
and, if its struct has a parent, an instance of the parent behind the link. Assigning goes by the
derived match on names (`FieldMatch`): the first struct from the outermost on that has a field of
the name is the one that is assigned, or refuses the value. -/

namespace BuilderForge

open Code (Ident)

/-- A field with the value it holds. -/
structure Slot where
  ident : Ident
  value : Value
  deriving Repr

/-- A value of a struct. -/
inductive Instance where
  | root (type : ValueType) (slots : List Slot)
  | child (type : ValueType) (slots : List Slot) (link : Ident) (parent : Instance)
  deriving Repr

namespace Instance

def type : Instance → ValueType
  | .root t _ => t
  | .child t _ _ _ => t

def slots : Instance → List Slot
  | .root _ ss => ss
  | .child _ ss _ _ => ss

/-- The field that holds the parent. -/
def link? : Instance → Option Ident
  | .root .. => none
  | .child _ _ link _ => some link

/-- The match on names that is derived for the struct of the instance. -/
def fieldMatch (x : Instance) : FieldMatch := .ofFields (x.slots.map Slot.ident) x.link?

/-- The names of the fields of the struct and its parents, from the outermost on. -/
def fieldNames : Instance → List String
  | .root _ ss => ss.map fun s => s.ident.name
  | .child _ ss _ parent => (ss.map fun s => s.ident.name) ++ parent.fieldNames

/-! ## Assigning -/

/-- Puts a value into the slot of a field if it has the type of what the slot holds. -/
def assignSlot (owner : ValueType) (i : Ident) (name : String) (v : Value) :
    List Slot → Except FieldFailure (List Slot)
  | [] => .error (.notFound name)
  | s :: ss =>
      if s.ident = i then
        if v.type = s.value.type then .ok ({ s with value := v } :: ss)
        else .error (.typeMismatch owner name s.value.type)
      else (assignSlot owner i name v ss).map (s :: ·)

/-- Assigns the field of a name: an own one, or else one of the parent. What comes out is the
instance afterwards, or the failure alone; `assign` says what is left of the instance then. -/
def setField : Instance → String → Value → Except FieldFailure Instance
  | .root t ss, name, v =>
      match (FieldMatch.ofFields (ss.map Slot.ident) none).field? name with
      | some i => (assignSlot t i name v ss).map (.root t)
      | none => .error (.notFound name)
  | .child t ss link parent, name, v =>
      match (FieldMatch.ofFields (ss.map Slot.ident) (some link)).field? name with
      | some i => (assignSlot t i name v ss).map fun ss => .child t ss link parent
      | none => (parent.setField name v).map (.child t ss link)

/-! ## Assigning in place -/

/-- What `assignSlot` leaves in the slots, and how it ends. -/
def assignFirst (owner : ValueType) (i : Ident) (name : String) (v : Value) :
    List Slot → List Slot × Except FieldFailure Unit
  | [] => ([], .error (.notFound name))
  | s :: ss =>
      if s.ident = i then
        if v.type = s.value.type then ({ s with value := v } :: ss, .ok ())
        else (s :: ss, .error (.typeMismatch owner name s.value.type))
      else
        let (ss, result) := assignFirst owner i name v ss
        (s :: ss, result)

/-- What assigning leaves of an instance, and how it ends: an own field is assigned, or else the
parent behind the link. -/
def assign : Instance → String → Value → Instance × Except FieldFailure Unit
  | .root t ss, name, v =>
      match (FieldMatch.ofFields (ss.map Slot.ident) none).field? name with
      | some i =>
          let (ss, result) := assignFirst t i name v ss
          (.root t ss, result)
      | none => (.root t ss, .error (.notFound name))
  | .child t ss link parent, name, v =>
      match (FieldMatch.ofFields (ss.map Slot.ident) (some link)).field? name with
      | some i =>
          let (ss, result) := assignFirst t i name v ss
          (.child t ss link parent, result)
      | none =>
          let (parent, result) := parent.assign name v
          (.child t ss link parent, result)

/-! ## Building -/

/-- What a setter of a builder does to the target. -/
def set (x : Instance) (name : String) (v : Value) : Except Fault Instance :=
  match x.setField name v with
  | .ok y => .ok y
  | .error cause => .error (.assign x.type name cause)

/-- What setters do one after the other. -/
def setAll (x : Instance) (steps : List (String × Value)) : Except Fault Instance :=
  steps.foldlM (fun x s => x.set s.1 s.2) x

end Instance

end BuilderForge
