import BuilderForge.Generation
import BuilderForge.Output
import BuilderForge.Scan

set_option autoImplicit false

/-! # Generating while a crate is built

A build script puts all builders into one file of the directory for build output. What is wrong with
single types becomes a warning of the build and does not stop it. -/

namespace BuilderForge

/-- The variables that a build is told its directories by. -/
structure BuildEnvironment where
  outDir : Option String := none
  manifestDir : Option String := none

/-- What a build script is set to. Without a root, the crate is in `src` beside its manifest. -/
structure BuildScript where
  root : Option String := none
  config : Config := {}
  fileName : String := ModuleTree.singleFileName

inductive BuildFailure where
  | noOutDir
  | noManifestDir
  | scan (root : String) (failure : ScanFailure)
  | render (failure : RenderFailure)
  /-- The scan of the crate has no end. -/
  | endless (root : String)

namespace BuildFailure

def message : BuildFailure → String
  | .noOutDir => "OUT_DIR is not set; run this from a build script"
  | .noManifestDir => "CARGO_MANIFEST_DIR is not set"
  | .scan root failure => "failed to scan " ++ root ++ ": " ++ failure.message
  | .render failure => failure.message
  | .endless root => "failed to scan " ++ root ++ ": the declared modules have no end"

end BuildFailure

namespace BuildScript

/-- The directory of the crate. -/
def rootIn (b : BuildScript) (e : BuildEnvironment) : Except BuildFailure String :=
  match b.root, e.manifestDir with
  | some root, _ => .ok root
  | none, some dir => .ok (FilePath.join dir "src")
  | none, none => .error .noManifestDir

/-- What is made for the crate, all of it in one file. -/
def generated (b : BuildScript) (root : String) (d : Disk) : Except BuildFailure Generated := do
  let sources ← match scan? d ⟨root, b.config.rootModule⟩ with
    | none => .error (.endless root)
    | some (.error e) => .error (.scan root e)
    | some (.ok sources) => .ok sources
  match generate { b.config with layout := .singleFile } sources with
  | .error e => .error (.render e)
  | .ok g => return { g with files := g.files.map fun f => { f with path := b.fileName } }

/-- What the build is told: to run the script again when the crate changes, and every remark that is
more than a note, in one line each. -/
def directives (root : String) (remarks : List Diagnostic) : List String :=
  ("cargo::rerun-if-changed=" ++ root) ::
    (remarks.filter fun r => r.level ≠ .note).map fun r =>
      "cargo::warning=" ++ r.message.map fun c => if c = '\n' then ' ' else c

/-- Runs the script with this directory for its output, and answers what was made and what the build
is told. -/
def runInto (b : BuildScript) (e : BuildEnvironment) (outDir : String) (d : Disk) :
    Disk × Except BuildFailure (Generated × List String) :=
  match (do
      let root ← b.rootIn e
      return (root, ← b.generated root d)) with
  | .error failure => (d, .error failure)
  | .ok (root, g) =>
      let (d, remarks) := Output.writeAll d outDir g.files
      let g := { g with diagnostics := g.diagnostics ++ remarks }
      (d, .ok (g, directives root g.diagnostics))

def run (b : BuildScript) (e : BuildEnvironment) (d : Disk) :
    Disk × Except BuildFailure (Generated × List String) :=
  match e.outDir with
  | none => (d, .error .noOutDir)
  | some dir => b.runInto e dir d

end BuildScript

end BuilderForge
