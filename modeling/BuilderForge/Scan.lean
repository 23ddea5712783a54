import BuilderForge.Code.StringLiteral
import BuilderForge.Config
import BuilderForge.Disk
import BuilderForge.Source

set_option autoImplicit false

/-! # Finding the files of a crate

A crate starts with `lib.rs` or `main.rs`. A module that is declared without a body has it in a file
of its own: the one its `path` attribute names, or else `name.rs` or `name/mod.rs`. Files are read
in the order in which their modules are declared, the ones nearest to the entry first.

The files that are still to be read are a queue, and `Scan.step` reads the first of them. Nothing
keeps a file from declaring itself as a module, so that a scan can go on for ever: `Scan.run` takes
the number of steps that it may have. -/

namespace BuilderForge

open Code (Item Attribute Tree)

/-- Where to look for a crate, and the module at its top that is left alone. -/
structure ScanSettings where
  root : String
  skipModule : String := defaultRootModule

/-- A file that is still to be read: the first of the candidates that can be. One that owns its
directory has the files of its modules beside it, any other in a directory of its name. -/
structure PendingFile where
  module : ModulePath
  candidates : List String
  ownsDirectory : Bool
  declaredIn : Option String
  deriving DecidableEq, Repr

inductive ScanFailure where
  | missingEntry (root : String)
  | unreadable (path : String) (cause : DiskFailure)
  deriving DecidableEq, Repr

namespace ScanFailure

def message : ScanFailure → String
  | .missingEntry root => "no `lib.rs` or `main.rs` under " ++ root
  | .unreadable path cause => "failed to read " ++ path ++ ": " ++ cause.message

end ScanFailure

/-! ## Declared modules -/

/-- The path that the first `path` attribute with a text names. -/
def pathAttribute? (attrs : List Attribute) : Option String :=
  attrs.findSome? fun a =>
    match a.args with
    | .value _ (.literal s) => if a.isNamed "path" then Code.StringLiteral.text? s else none
    | _ => none

/-- Where modules are declared: in which module, in which directory its own modules have their
files, and which directory `path` attributes start from. -/
structure ModulePlace where
  module : ModulePath
  childDir : String
  pathDir : String
  deriving DecidableEq, Repr

namespace ModulePlace

/-- The body of a module inside of the present one. -/
def inside (p : ModulePlace) (name : String) : ModulePlace :=
  let dir := FilePath.join p.childDir name
  ⟨p.module.child name, dir, dir⟩

/-- The file of a module that is declared here without a body. -/
def pending (p : ModulePlace) (declaredIn name : String) (attrs : List Attribute) : PendingFile :=
  match pathAttribute? attrs with
  | some path => ⟨p.module.child name, [FilePath.join p.pathDir path], true, some declaredIn⟩
  | none =>
      ⟨p.module.child name,
        [FilePath.join p.childDir (name ++ ".rs"),
          FilePath.join (FilePath.join p.childDir name) "mod.rs"], false, some declaredIn⟩

end ModulePlace

mutual

/-- The files of the modules that an item declares, at any depth. -/
def declaredFiles (skipModule declaredIn : String) (p : ModulePlace) : Item → List PendingFile
  | .module attrs _ _ i content =>
      if p.module.isRoot && i.name == skipModule then []
      else
        match content with
        | some items => declaredFilesAll skipModule declaredIn (p.inside i.name) items
        | none => [p.pending declaredIn i.name attrs]
  | _ => []

def declaredFilesAll (skipModule declaredIn : String) (p : ModulePlace) :
    List Item → List PendingFile
  | [] => []
  | i :: is =>
      declaredFiles skipModule declaredIn p i ++ declaredFilesAll skipModule declaredIn p is

end

/-! ## The scan -/

/-- A scan as far as it got. -/
structure Scan where
  pending : List PendingFile
  sources : SourceSet

namespace Scan

/-- The file that the crate starts with. -/
def entry? (d : Disk) (root : String) : Option String :=
  (["lib.rs", "main.rs"].map (FilePath.join root)).find? d.has

/-- The first of some files that can be read, and its text. -/
def readFirst? (d : Disk) (candidates : List String) : Option (String × String) :=
  candidates.findSome? fun path =>
    match d.read path with
    | .ok text => some (path, text)
    | .error _ => none

/-- Where a file that was found at a path declares modules. -/
def placeOf (f : PendingFile) (path : String) : ModulePlace :=
  let dir := (FilePath.parent? path).getD ""
  let name := FilePath.fileName? path
  let childDir := if f.ownsDirectory || name == some "mod.rs" then dir
    else FilePath.join dir ((name.map FilePath.stem).getD "")
  ⟨f.module, childDir, dir⟩

/-- The beginning of a scan. -/
def start (d : Disk) (s : ScanSettings) : Except ScanFailure Scan :=
  match entry? d s.root with
  | some path => .ok ⟨[⟨ModulePath.root, [path], true, none⟩], {}⟩
  | none => .error (.missingEntry s.root)

/-- Goes on with a file that cannot be read. The entry has to be readable. -/
def missing (d : Disk) (s : ScanSettings) (f : PendingFile) (sources : SourceSet) :
    Except ScanFailure SourceSet :=
  match f.declaredIn with
  | some path => .ok (sources.remark (.missingModuleFile f.module.display path))
  | none =>
      let path := f.candidates.headD s.root
      match d.read path with
      | .error cause => .error (.unreadable path cause)
      | .ok _ => .ok sources

/-- Reads the first file of the queue and adds those it declares. -/
def step (d : Disk) (s : ScanSettings) (scan : Scan) : Except ScanFailure Scan :=
  match scan.pending with
  | [] => .ok scan
  | f :: rest =>
      match readFirst? d f.candidates with
      | none => do return ⟨rest, ← missing d s f scan.sources⟩
      | some (path, text) =>
          match scan.sources.add f.module path text with
          | (sources, none) => .ok ⟨rest, sources⟩
          | (sources, some code) =>
              .ok ⟨rest ++ declaredFilesAll s.skipModule path (placeOf f path) code.items, sources⟩

/-- Goes on for at most this many steps. There is no answer if the scan is not over then. -/
def run (d : Disk) (s : ScanSettings) : Nat → Scan → Option (Except ScanFailure SourceSet)
  | 0, scan => if scan.pending.isEmpty then some (.ok scan.sources) else none
  | n + 1, scan =>
      if scan.pending.isEmpty then some (.ok scan.sources)
      else
        match step d s scan with
        | .error e => some (.error e)
        | .ok scan => run d s n scan

/-- The number of steps that a scan may take. A file declares no more modules than it has
characters, and so this is enough for every scan that goes down no further than the disk has files
and a path has characters, of which there are never more than usual if there is no limit. It is more
than can be waited for in any case. -/
def enough (d : Disk) : Nat :=
  let sizes := d.root.files.map fun (_, c) => match c with
    | .text s => s.length
    | .binary _ => 0
  Nat.pow (sizes.foldl max 0 + 2) (sizes.length + d.limits.path.getD 4095 + 2)

end Scan

/-- The sources of a crate, unless looking for them never ends. -/
def scan? (d : Disk) (s : ScanSettings) : Option (Except ScanFailure SourceSet) :=
  match Scan.start d s with
  | .error e => some (.error e)
  | .ok scan => Scan.run d s (Scan.enough d) scan

end BuilderForge
