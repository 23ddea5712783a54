import BuilderForge.CommandLine.Paint
import BuilderForge.Diagnostic
import BuilderForge.Generation

set_option autoImplicit false

/-! # What a run says

Lines for the output and for the error output, in the order in which they are said. -/

namespace BuilderForge.CommandLine

/-- A line, and whether it is for the error output. -/
inductive Said where
  | out (line : String)
  | err (line : String)
  deriving DecidableEq, Repr

/-- What was said, and what the run failed of. -/
structure Transcript where
  said : List Said := []
  failure : Option String := none
  deriving DecidableEq, Repr

namespace Transcript

def textOf (lines : List String) : String := String.join (lines.map fun l => l ++ "\n")

def stdout (t : Transcript) : String :=
  textOf (t.said.filterMap fun s => match s with
    | .out line => some line
    | .err _ => none)

def stderr (t : Transcript) : String :=
  textOf (t.said.filterMap fun s => match s with
    | .err line => some line
    | .out _ => none)

end Transcript

/-- How a run talks: painted, with the time as a stamp, and how much. -/
structure Voice where
  palette : Palette
  stamp : String
  verbose : Bool := false
  quiet : Bool := false

namespace Voice

/-- Nothing but errors is said if the run is to be quiet. -/
def unlessQuiet (v : Voice) (lines : List Said) : List Said := if v.quiet then [] else lines

def stamped (v : Voice) (role : Role) (text : String) : Said :=
  .out (v.palette.paint .timestamp v.stamp ++ " " ++ v.palette.paint role text)

/-- A remark on how far the run is. -/
def info (v : Voice) (text : String) : List Said := v.unlessQuiet [v.stamped .primary text]

/-- The end of a run without errors. -/
def success (v : Voice) (text : String) : List Said :=
  v.unlessQuiet [.out "", v.stamped .success text]

/-! ## Numbers -/

def statistic (v : Voice) (label value : String) : Said :=
  .out ("            " ++ v.palette.paint .label label ++ " " ++ v.palette.paint .value value)

/-- A number that is only told if it is not zero. -/
def ifAny (v : Voice) (n : Nat) (label : String) (value : Nat → String := toString) : List Said :=
  if n > 0 then [v.statistic label (value n)] else []

def statistics (v : Voice) (s : Statistics) (remarks : List Diagnostic) : List Said :=
  v.unlessQuiet (
    [v.statistic "Files scanned:" (toString s.filesScanned),
      v.statistic "Types registered:" (toString s.typesRegistered),
      v.statistic "Annotated types:" (toString s.annotatedTypes),
      v.statistic "Builders generated:" (toString s.buildersGenerated),
      v.statistic "" (toString s.settersGenerated ++ " setters")]
    ++ v.ifAny s.shadowedFieldsSkipped "" (fun n => toString n ++ " shadowed fields skipped")
    ++ [v.statistic "Files emitted:" (toString s.filesEmitted)]
    ++ v.ifAny (Diagnostic.count .error remarks) "Errors:"
    ++ v.ifAny (Diagnostic.count .warning remarks) "Warnings:")

/-! ## Remarks -/

/-- Whether remarks of a level are told. -/
def tells (v : Voice) : Level → Bool
  | .error => true
  | .warning => !v.quiet
  | .note => v.verbose && !v.quiet

/-- A remark after the word for its level. -/
def remark (v : Voice) (d : Diagnostic) : Said :=
  let (label, role) := match d.level with
    | .error => ("Error:", Role.error)
    | .warning => ("Warning:", Role.warning)
    | .note => ("Note:", Role.note)
  .err (v.palette.paint role label ++ " " ++ v.palette.paint .primary d.message)

/-- The remarks that are told, with a blank line between them and what the output has before. -/
def remarks (v : Voice) (ds : List Diagnostic) : List Said :=
  match ds.filter fun d => v.tells d.level with
  | [] => []
  | told => .out "" :: told.map v.remark

end Voice

end BuilderForge.CommandLine
