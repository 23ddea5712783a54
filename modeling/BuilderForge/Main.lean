import BuilderForge.CommandLine
import Std.Time.Zoned

set_option autoImplicit false

/-! # The program

The part that touches the real disk. Files are copied into a `Disk` as far as a run needs them, the
run happens there, and what it changed is written back. -/

namespace BuilderForge.Main

open CommandLine

/-! ## From the real disk -/

/-- Copies what is at a path: the text of a file, or a directory without its entries. -/
def fetch (d : Disk) (path : String) : IO Disk := do
  if path.isEmpty then return d
  match ← (IO.FS.readBinFile path).toBaseIO with
  | .ok bytes => return (d.write path (.ofBytes bytes.toList)).1
  | .error _ =>
      match ← (IO.FS.realPath path).toBaseIO with
      | .ok _ => return (d.makeDirectories (FilePath.ancestors path)).1
      | .error _ => return d

/-- Copies what is at all of these paths. -/
def fetchAll (d : Disk) (paths : List String) : IO Disk := paths.foldlM fetch d

/-- Copies the files of the crate that are reached from these. -/
partial def fetchModules (s : ScanSettings) (scan : Scan) (d : Disk) : IO Disk := do
  match scan.pending with
  | [] => return d
  | f :: _ =>
      let d ← fetchAll d f.candidates
      match Scan.step d s scan with
      | .error _ => return d
      | .ok scan => fetchModules s scan d

/-- Copies the files of a crate. -/
def fetchCrate (s : ScanSettings) (d : Disk) : IO Disk := do
  let d ← fetchAll d (["lib.rs", "main.rs"].map (FilePath.join s.root))
  match Scan.start d s with
  | .error _ => return d
  | .ok scan => fetchModules s scan d

/-- Where a command looks for the crate. -/
def scanSettings : Command → ScanSettings
  | .list r => ⟨r.crateRoot, r.rootModule⟩
  | .generate r => ⟨r.crateRoot, r.rootModule⟩

/-- The paths of all files, from the top of the disk. -/
def filesOf (d : Disk) : List (String × Content) :=
  d.root.files.map fun (names, content) => ("/" ++ "/".intercalate names, content)

/-- The files that a run changes. -/
def changed (before after : Disk) : List (String × Content) :=
  let old := filesOf before
  (filesOf after).filter fun f => !old.contains f

/-- Copies what stands where a run would write, so that it finds what is in its way. -/
def fetchTargets (run : Disk → Disk) (d : Disk) : IO Disk := do
  let targets := (changed d (run d)).map fun f => f.1
  fetchAll d (targets.flatMap fun path => (FilePath.ancestors path).reverse)

/-! ## To the real disk -/

def store (path : String) (content : Content) : IO Unit := do
  if let some dir := FilePath.parent? path then IO.FS.createDirAll dir
  match content with
  | .text s => IO.FS.writeFile path s
  | .binary bytes => IO.FS.writeBinFile path ⟨bytes.toArray⟩

def tell (t : Transcript) : IO Unit := do
  for s in t.said do
    match s with
    | .out line => IO.println line
    | .err line => IO.eprintln line

/-! ## Usage -/

def version : String := "0.4.1"

def usage : String := "\n".intercalate [
  "Usage: builder-forge [OPTIONS] <COMMAND>",
  "",
  "Commands:",
  "  list      List annotated structs and the builders they get",
  "  generate  Generate builder sources",
  "  help      Print this message",
  "",
  "Options:",
  "  --color <always|auto|never>       When output has colours",
  "  --theme <dark|light|auto>         The background of the terminal",
  "  -h, --help                        Print this message",
  "  -V, --version                     Print the version",
  "",
  "Both commands:",
  "  -c, --crate-root <DIR>            The directory of lib.rs or main.rs",
  "  --shadow-policy <reject|most-derived>",
  "  --root-module <NAME>              The module that holds the builders",
  "",
  "list:",
  "  --json                            Print JSON instead of a table",
  "",
  "generate:",
  "  -o, --output <PATH>               The output directory or file",
  "  --layout <tree|single-file>",
  "  --visibility <public|crate>",
  "  --only <TYPES>, --exclude <TYPES>",
  "  -v, --verbose and -q, --quiet"]

/-- What is said about words that are not a request, unless they ask for a text. -/
def complaint : UsageFailure → String
  | .helpAsked | .versionAsked | .nothingAsked => usage
  | .missingSubcommand => "error: a command is missing"
  | .invalidSubcommand => "error: there is no such command"
  | .invalidValue => "error: an option has no valid value"
  | .unknownArgument => "error: there is no such option"
  | .repeated => "error: an option is given more than once"
  | .uncalledValue => "error: an option has a value and takes none"

def refuse (e : UsageFailure) : IO UInt32 := do
  match e with
  | .helpAsked =>
      IO.println usage
      return 0
  | .versionAsked =>
      IO.println ("builder-forge " ++ version)
      return 0
  | _ =>
      IO.eprintln (complaint e)
      return 2

/-! ## The run -/

/-- The time of day, as it is put in front of a line. -/
def timeStamp : IO String := do
  let now ← Std.Time.PlainTime.now
  let two (n : Int) := (if n < 10 then "0" else "") ++ toString n
  return "[" ++ ":".intercalate [two now.hour.val, two now.minute.val, two now.second.val] ++ "]"

def perform (a : Arguments) : IO UInt32 := do
  let current := (FilePath.pieces (← IO.currentDir).toString).filter fun name => !name.isEmpty
  let terminal : Terminal := {
    isTerminal := ← (← IO.getStdout).isTty
    colorVariable := ← IO.getEnv "COLORFGBG" }
  let surroundings : Surroundings := { terminal, stamp := ← timeStamp }
  let run (d : Disk) := a.run surroundings d
  let d ← fetchCrate (scanSettings a.command) (Disk.empty current)
  let d ← fetchTargets (fun d => (run d).1) d
  let (after, t) := run d
  for (path, content) in changed d after do store path content
  tell t
  match t.failure with
  | none => return 0
  | some failure =>
      IO.eprintln ("Error: " ++ failure)
      return 1

end BuilderForge.Main

def main (words : List String) : IO UInt32 := do
  match BuilderForge.CommandLine.Arguments.parse words with
  | .error e => BuilderForge.Main.refuse e
  | .ok a => BuilderForge.Main.perform a
