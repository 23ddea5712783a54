import BuilderForge.Instance.Value

set_option autoImplicit false

/-! # Faults

What goes wrong while a builder runs: the target cannot be made, or a field cannot be assigned.
A fault keeps the failure it comes from as its cause, and `Fault.chain` tells both. -/

namespace BuilderForge

/-- Why a field is not assigned. -/
inductive FieldFailure where
  | notFound (field : String)
  | typeMismatch (owner : ValueType) (field : String) (expected : ValueType)
  deriving DecidableEq, Repr

namespace FieldFailure

def message : FieldFailure → String
  | .notFound field => "field not found: `" ++ field ++ "`"
  | .typeMismatch owner field expected =>
      "field `" ++ field ++ "` of `" ++ owner.name ++ "` rejected the value: expected `"
        ++ expected.name ++ "`"

end FieldFailure

/-- Why a value is not made. -/
inductive ConstructFailure where
  | noZeroArgConstructor (type : ValueType)
  | panicked (type : ValueType) (message : String)
  deriving DecidableEq, Repr

namespace ConstructFailure

def message : ConstructFailure → String
  | .noZeroArgConstructor type =>
      "`" ++ type.name ++ "` has no zero-argument constructor; derive `Default` or add "
        ++ "`#[test_builder(constructor = path)]`"
  | .panicked type message =>
      "zero-argument constructor of `" ++ type.name ++ "` panicked: " ++ message

end ConstructFailure

/-- What a builder stops with. -/
inductive Fault where
  | instantiate (type : ValueType) (cause : ConstructFailure)
  | assign (type : ValueType) (field : String) (cause : FieldFailure)
  deriving DecidableEq, Repr

namespace Fault

def message : Fault → String
  | .instantiate type _ => "could not instantiate `" ++ type.name ++ "`"
  | .assign type field _ => "could not assign field `" ++ field ++ "` of `" ++ type.name ++ "`"

/-- What the cause of the fault says. -/
def causeMessage : Fault → String
  | .instantiate _ cause => cause.message
  | .assign _ _ cause => cause.message

/-- The fault and its cause. A builder panics with this text. -/
def chain (f : Fault) : String := f.message ++ ": " ++ f.causeMessage

end Fault

/-! ## Running a constructor -/

/-- What a panic carries. -/
inductive Payload where
  | text (s : String)
  | other
  deriving DecidableEq, Repr

namespace Payload

def message : Payload → String
  | .text s => s
  | .other => "non-string panic payload"

end Payload

/-- How the run of a function ends. -/
inductive Outcome (α : Type) where
  | returned (value : α)
  | panicked (payload : Payload)
  deriving Repr

/-- The value that a constructor of `type` returns; a panic becomes a failure. -/
def construct {α : Type} (type : ValueType) : Outcome α → Except ConstructFailure α
  | .returned a => .ok a
  | .panicked payload => .error (.panicked type payload.message)

end BuilderForge
