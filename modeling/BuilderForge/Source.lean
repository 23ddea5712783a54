import BuilderForge.Code.Parser.File
import BuilderForge.Diagnostic
import BuilderForge.ModulePath

set_option autoImplicit false

/-! # Sources of a crate

The source files of a crate, each with the module that it is the body of. A file that cannot be read
as code is left out and remarked upon. -/

namespace BuilderForge

/-- A source file and the module that it is the body of. -/
structure SourceFile where
  path : String
  module : ModulePath
  code : Code.File

/-- The source files of a crate, and what is to be said about those that are missing. -/
structure SourceSet where
  files : List SourceFile := []
  diagnostics : List Diagnostic := []

namespace SourceSet

/-- Adds a remark. -/
def remark (s : SourceSet) (d : Diagnostic) : SourceSet :=
  { s with diagnostics := s.diagnostics ++ [d] }

/-- Adds a file with this text, and answers its code if it can be read. -/
def add (s : SourceSet) (module : ModulePath) (path text : String) : SourceSet × Option Code.File :=
  match Code.File.parse text with
  | .ok code => ({ s with files := s.files ++ [⟨path, module, code⟩] }, some code)
  | .error e => (s.remark (.parseFailed path e.located), none)

end SourceSet

end BuilderForge
