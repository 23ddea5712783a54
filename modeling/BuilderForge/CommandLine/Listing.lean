import BuilderForge.Generation
import BuilderForge.Text.Json
import BuilderForge.Text.Table

set_option autoImplicit false

/-! # The list of builders

What is told about the builders of a crate, and about the types that get none. -/

namespace BuilderForge.CommandLine

open Text (Json Table)

/-- A failure, and the type that it is about. -/
structure ListedFailure where
  typeName : Option String
  message : String
  deriving DecidableEq, Repr

structure Listing where
  builders : List BuilderSummary
  failures : List ListedFailure
  deriving DecidableEq, Repr

namespace Listing

def ofGenerated (g : Generated) : Listing where
  builders := g.builders
  failures := g.errors.map fun d => ⟨d.typeName?, d.message⟩

/-! ## As JSON -/

def builderJson (b : BuilderSummary) : Json :=
  .object [
    ("type_name", .text b.typeName),
    ("wrapper", .text b.wrapper),
    ("module", .text b.module),
    ("parents", .texts b.parents),
    ("setters", .texts b.setters),
    ("skipped", .texts b.skipped)]

def failureJson (f : ListedFailure) : Json :=
  .object [("type_name", .optionalText f.typeName), ("message", .text f.message)]

def json (l : Listing) : Json :=
  .object [
    ("builders", .list (l.builders.map builderJson)),
    ("failures", .list (l.failures.map failureJson))]

/-! ## As a table -/

/-- What stands in a cell without a content. -/
def nothing : String := "-"

/-- The parents of a type, nearest first. -/
def parentChain (parents : List String) : String :=
  if parents.isEmpty then nothing else " -> ".intercalate parents

/-- The setters of a builder, and the fields that have none. -/
def setterText (b : BuilderSummary) : String :=
  ", ".intercalate b.setters
    ++ if b.skipped.isEmpty then "" else " (skipped " ++ ", ".intercalate b.skipped ++ ")"

def builderRow (b : BuilderSummary) : List String :=
  [b.typeName, b.wrapper, parentChain b.parents, setterText b]

def failureRow (f : ListedFailure) : List String :=
  [f.typeName.getD nothing, nothing, nothing, f.message]

def table (l : Listing) : Table where
  head := ["TYPE", "BUILDER", "PARENTS", "SETTERS"]
  rows := l.builders.map builderRow ++ l.failures.map failureRow

end Listing

end BuilderForge.CommandLine
