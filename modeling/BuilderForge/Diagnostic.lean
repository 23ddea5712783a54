set_option autoImplicit false

/-! # What can go wrong

`BuilderFailure` says why one type got no builder. A `Diagnostic` is a remark of a run; none of them
stops it. `Statistics` counts what a run did. -/

namespace BuilderForge

/-! ## Failures -/

/-- Why an annotated type got no builder. -/
inductive BuilderFailure where
  | unresolvedAncestor (typeName ancestor : String)
  | ancestorNotStruct (typeName ancestor itemKind : String)
  | missingFieldAccess (typeName ancestor : String)
  | unnamedFields (typeName : String)
  | unsupportedGenerics (typeName : String)
  | inheritanceCycle (typeName : String) (chain : List String)
  | shadowedField (field declaredOn shadowedBy : String)
  | reservedSetterName (field declaredOn : String)
  | notReachable (typeName path : String)
  | moduleNameCollision («namespace» name : String)
  deriving DecidableEq, Repr

namespace BuilderFailure

def message : BuilderFailure → String
  | .unresolvedAncestor t a =>
      "parent `" ++ a ++ "` of `" ++ t ++ "` does not name a struct known to this crate"
  | .ancestorNotStruct t a k =>
      "parent `" ++ a ++ "` of `" ++ t ++ "` is declared as " ++ k
        ++ "; only structs with named fields can be parents"
  | .missingFieldAccess t a =>
      "parent `" ++ a ++ "` of `" ++ t ++ "` must derive `FieldAccess` or `TestBuilder`"
  | .unnamedFields t => "`" ++ t ++ "` is a tuple struct; builders need named fields"
  | .unsupportedGenerics t => "`" ++ t ++ "` is generic; generic types are not supported"
  | .inheritanceCycle t chain =>
      "inheritance cycle through `" ++ t ++ "`: " ++ " -> ".intercalate chain
  | .shadowedField f d s =>
      "field `" ++ f ++ "` of `" ++ d ++ "` is shadowed by `" ++ s
        ++ "`; set shadow policy to most-derived to keep only the nearest setter"
  | .reservedSetterName f d =>
      "field `" ++ f ++ "` of `" ++ d ++ "` would produce a setter named `" ++ f
        ++ "`, which the builder reserves"
  | .notReachable t p =>
      "builder for `" ++ t ++ "` cannot name `" ++ p
        ++ "`: it is private to its module and has no crate-visible re-export"
  | .moduleNameCollision n m =>
      "`" ++ m ++ "` in `" ++ n ++ "` is claimed by both a builder module and a namespace module"

end BuilderFailure

/-! ## Diagnostics -/

/-- How serious a remark is. -/
inductive Level where
  | note
  | warning
  | error
  deriving DecidableEq, Repr

/-- A remark of a run. -/
inductive Diagnostic where
  | markerMisuse (typeName : String)
  | generationFailed (typeName error : String)
  | writeFailed (path owner error : String)
  | parseFailed (path error : String)
  | missingModuleFile (module declaredIn : String)
  | unresolvedTypeName (typeName field name : String)
  | invalidFieldAttribute (typeName field error : String)
  | generatedBuilder (typeName code : String)
  deriving DecidableEq, Repr

namespace Diagnostic

def message : Diagnostic → String
  | .markerMisuse t => "TestBuilder annotation can not be used on " ++ t
  | .generationFailed t e => "Failed to generate builder for '" ++ t ++ "': " ++ e
  | .writeFailed p o e => "Failed to write '" ++ p ++ "' for '" ++ o ++ "': " ++ e
  | .parseFailed p e => "Failed to parse '" ++ p ++ "': " ++ e
  | .missingModuleFile m d => "Module '" ++ m ++ "' declared in '" ++ d ++ "' has no source file"
  | .unresolvedTypeName t f n =>
      "'" ++ t ++ "." ++ f ++ "': could not resolve '" ++ n ++ "', emitted as written"
  | .invalidFieldAttribute t f e =>
      "'" ++ t ++ "." ++ f ++ "': ignoring #[test_builder] attribute: " ++ e
  | .generatedBuilder t c => "Generated builder for '" ++ t ++ "':\n" ++ c

def level : Diagnostic → Level
  | .markerMisuse _ | .generationFailed .. | .writeFailed .. | .parseFailed .. => .error
  | .missingModuleFile .. | .unresolvedTypeName .. | .invalidFieldAttribute .. => .warning
  | .generatedBuilder .. => .note

def isError (d : Diagnostic) : Bool := d.level = .error

/-- The type the remark is about, if it is about one. -/
def typeName? : Diagnostic → Option String
  | .markerMisuse t | .generationFailed t _ | .unresolvedTypeName t _ _
  | .invalidFieldAttribute t _ _ | .generatedBuilder t _ => some t
  | .writeFailed _ o _ => some o
  | .parseFailed .. | .missingModuleFile .. => none

/-- The number of remarks of a level. -/
def count (level : Level) (ds : List Diagnostic) : Nat := ds.countP fun d => d.level = level

end Diagnostic

/-! ## Statistics -/

/-- What a run did, in numbers. -/
structure Statistics where
  filesScanned : Nat := 0
  typesRegistered : Nat := 0
  annotatedTypes : Nat := 0
  buildersGenerated : Nat := 0
  settersGenerated : Nat := 0
  shadowedFieldsSkipped : Nat := 0
  filesEmitted : Nat := 0
  deriving DecidableEq, Repr

end BuilderForge
