import BuilderForge.Disk
import BuilderForge.ModuleTree

set_option autoImplicit false

/-! # Writing generated files

Generated files are written below a directory. One that cannot be written is remarked upon, and the
others are written all the same. -/

namespace BuilderForge.Output

/-- What a file without an owner is called. -/
def moduleFile : String := "module file"

/-- Writes a file below the directory `root`. -/
def write (d : Disk) (root : String) (f : GeneratedFile) : Disk × Except Diagnostic String :=
  let path := FilePath.join root f.path
  match d.write path (.text f.code) with
  | (d, none) => (d, .ok path)
  | (d, some e) => (d, .error (.writeFailed path (f.owner.getD moduleFile) e.message))

/-- Writes files below the directory `root`, and answers what is to be said about those that could
not be written. -/
def writeAll (d : Disk) (root : String) : List GeneratedFile → Disk × List Diagnostic
  | [] => (d, [])
  | f :: fs =>
      match write d root f with
      | (d, .ok _) => writeAll d root fs
      | (d, .error remark) =>
          let (d, remarks) := writeAll d root fs
          (d, remark :: remarks)

end BuilderForge.Output
