import BuilderForge.CommandLine.Listing
import BuilderForge.CommandLine.Transcript
import BuilderForge.Output
import BuilderForge.Scan

set_option autoImplicit false

/-! # Running a command

A command reads the crate from a disk and says what it finds. Only `generate` changes the disk. -/

namespace BuilderForge.CommandLine

/-- What a command is run in: the terminal, and the time as it is told. -/
structure Surroundings where
  terminal : Terminal := {}
  stamp : String

/-- What is said if the modules of a crate declare each other without an end. -/
def endless (root : String) : String := "the modules under " ++ root ++ " have no end"

def sources (d : Disk) (s : ScanSettings) : Except String SourceSet :=
  match scan? d s with
  | none => .error (endless s.root)
  | some (.error e) => .error e.message
  | some (.ok sources) => .ok sources

/-- What is made for sources. -/
def made (c : Config) (sources : SourceSet) : Except String Generated :=
  (generate c sources).mapError RenderFailure.message

/-! ## Listing -/

namespace ListRequest

/-- The builders that the crate would get. -/
def listing (r : ListRequest) (d : Disk) : Except String Listing := do
  let sources ← sources d ⟨r.crateRoot, r.rootModule⟩
  let config : Config := { rootModule := r.rootModule, shadowPolicy := r.shadowPolicy }
  return .ofGenerated (← made config sources)

def run (r : ListRequest) (columns : Nat) (d : Disk) : Transcript :=
  match r.listing d with
  | .error failure => { failure }
  | .ok l =>
      if r.json then { said := [.out (l.json.pretty 0)] }
      else { said := (l.table.render columns).map .out }

end ListRequest

/-! ## Generating -/

structure Job where
  crateRoot : String
  output : String
  config : Config

namespace GenerateRequest

/-- Where builders go if nothing is said about it: to the place of the module that holds them. -/
def defaultOutput (r : GenerateRequest) : String :=
  FilePath.join r.crateRoot (match r.layout with
    | .tree => r.rootModule
    | .singleFile => r.rootModule ++ ".rs")

/-- The job that is asked for, unless it is for an exposure that does not exist. -/
def job (r : GenerateRequest) : Except String Job :=
  match Exposure.parse? r.visibility with
  | none =>
      .error ("Invalid visibility '" ++ r.visibility ++ "': expected 'public' or 'crate'")
  | some exposure =>
      .ok {
        crateRoot := r.crateRoot
        output := r.output.getD r.defaultOutput
        config := {
          rootModule := r.rootModule
          layout := r.layout
          exposure
          shadowPolicy := r.shadowPolicy
          only := r.only
          exclude := r.exclude } }

end GenerateRequest

namespace Job

/-- Writes files to the output. A single file has the path that the output says. -/
def write (j : Job) (d : Disk) (files : List GeneratedFile) : Disk × List Diagnostic :=
  match j.config.layout with
  | .tree => Output.writeAll d j.output files
  | .singleFile =>
      let path := (FilePath.fileName? j.output).getD ""
      Output.writeAll d ((FilePath.parent? j.output).getD "")
        (files.map fun f => { f with path })

/-- The failure of a run with some errors. -/
def failureOf (errors : Nat) : String :=
  toString errors ++ " error(s) during generation; see messages above"

/-- What is said about a run that came to its end. -/
def report (v : Voice) (g : Generated) : Transcript :=
  let told := v.statistics g.statistics g.diagnostics ++ v.remarks g.diagnostics
  let errors := g.errors.length
  if errors > 0 then { said := told, failure := failureOf errors }
  else { said := told ++ v.success "Successfully generated builders" }

def run (j : Job) (v : Voice) (d : Disk) : Disk × Transcript :=
  let scanning := v.info ("Scanning crate sources in: " ++ j.crateRoot)
  match sources d ⟨j.crateRoot, j.config.rootModule⟩ with
  | .error failure => (d, { said := scanning, failure })
  | .ok sources =>
      let generating := scanning ++ v.info "Generating builders..."
      match made j.config sources with
      | .error failure => (d, { said := generating, failure })
      | .ok g =>
          let writing := generating ++ v.info ("Writing to: " ++ j.output)
          let (d, failed) := j.write d g.files
          let t := report v { g with diagnostics := g.diagnostics ++ failed }
          (d, { t with said := writing ++ t.said })

end Job

/-! ## Both -/

/-- Does what is asked for. -/
def Arguments.run (a : Arguments) (s : Surroundings) (d : Disk) : Disk × Transcript :=
  match a.command with
  | .list r => (d, r.run s.terminal.columns d)
  | .generate r =>
      match r.job with
      | .error failure => (d, { failure })
      | .ok job =>
          let palette := s.terminal.palette a.color a.theme
          job.run ⟨palette, s.stamp, r.verbose, r.quiet⟩ d

end BuilderForge.CommandLine
