import BuilderForge.ModuleTree

set_option autoImplicit false

/-! # A generation run

Every annotated type that the settings select either gets a builder or fails with one error; a type
that fails has no effect on the others. The builders are then written in the layout of the
settings.

The names that a module exports are a set, and in which order a run enumerates them is not
determined. So a run is one from a registry: that of the crate, with the names listed in some
order. -/

namespace BuilderForge

open Code.Tokens

/-- What there is to be told about one builder. -/
structure BuilderSummary where
  typeName : String
  wrapper : String
  module : String
  /-- The parents of the type, nearest first. -/
  parents : List String
  setters : List String
  skipped : List String
  deriving DecidableEq, Repr

namespace BuilderSummary

def ofSpec (s : BuilderSpec) (chain : List String) : BuilderSummary :=
  { typeName := s.targetName
    wrapper := s.wrapper.text
    module := s.space.itemPath s.module.text
    parents := chain.drop 1
    setters := s.setters.map fun x => x.fieldName
    skipped := s.skipped.map fun f => f.declaredOn ++ "." ++ f.ident.name }

end BuilderSummary

/-- What a run leads to. -/
structure Generated where
  files : List GeneratedFile
  builders : List BuilderSummary
  statistics : Statistics
  diagnostics : List Diagnostic
  deriving Repr

namespace Generated

def errors (g : Generated) : List Diagnostic := g.diagnostics.filter Diagnostic.isError

def hasErrors (g : Generated) : Bool := g.diagnostics.any Diagnostic.isError

end Generated

namespace Statistics

def countBuilder (s : Statistics) (spec : BuilderSpec) : Statistics :=
  { s with
    buildersGenerated := s.buildersGenerated + 1
    settersGenerated := s.settersGenerated + spec.setters.length
    shadowedFieldsSkipped := s.shadowedFieldsSkipped + spec.skipped.length }

end Statistics

/-- A builder with the chain it was made from. -/
structure PlannedBuilder where
  spec : BuilderSpec
  chain : FieldChain

/-- The plan of the builder of a type. The type is named by a path that the whole crate can name. -/
def planBuilder (r : Registry) (policy : ShadowPolicy) (exposure : Exposure) (d : Declaration) :
    Except BuilderFailure PlannedBuilder := do
  if d.kind = .tupleStruct then .error (.unnamedFields d.pathString)
  let chain ← FieldChain.ofDecl r d
  let spec ← BuilderSpec.ofFields policy exposure d chain.fields
  return ⟨{ spec with target := chain.target }, chain⟩

/-- A run as far as it got. -/
structure Progress where
  tree : ModuleTree
  builders : List BuilderSummary
  statistics : Statistics
  diagnostics : List Diagnostic

namespace Progress

/-- Adds a remark. -/
def remark (p : Progress) (d : Diagnostic) : Progress :=
  { p with diagnostics := p.diagnostics ++ [d] }

/-- The builder of a plan as it stands in the tree. -/
def rendered (s : BuilderSpec) : RenderedBuilder := ⟨s.module, s.wrapper, s.targetName, s.code⟩

/-- What there is to be said about a builder that was added: names without a known meaning, and the
code. -/
def remarks (b : PlannedBuilder) (code : String) : List Diagnostic :=
  (b.chain.unresolved.map fun (field, name) =>
    .unresolvedTypeName b.spec.targetName field name)
    ++ [.generatedBuilder b.spec.targetName code]

/-- Goes on with a type. The outer error is one of code that cannot be written. -/
def addType (c : Config) (r : Registry) (p : Progress) (d : Declaration) :
    Except RenderFailure Progress := do
  if !c.selects d.pathString then return p
  let statistics := { p.statistics with annotatedTypes := p.statistics.annotatedTypes + 1 }
  let p := { p with statistics }
  if d.kind = .enum || d.kind = .union then return p.remark (.markerMisuse d.ident.name)
  let added : Except BuilderFailure (PlannedBuilder × ModuleTree) := do
    let b ← planBuilder r c.shadowPolicy c.exposure d
    return (b, ← p.tree.insert b.spec.space (rendered b.spec))
  match added with
  | .error failure => return p.remark (.generationFailed d.pathString failure.message)
  | .ok (b, tree) =>
      let code ← ModuleTree.formatted (word "mod" ++ ident b.spec.module ++ braces b.spec.code)
      return {
        tree
        builders := p.builders ++ [.ofSpec b.spec b.chain.chain]
        statistics := p.statistics.countBuilder b.spec
        diagnostics := p.diagnostics ++ remarks b code }

end Progress

/-- Makes builders for the annotated types of a crate, of which this is the registry. -/
def generateFrom (c : Config) (r : Registry) (sources : SourceSet) :
    Except RenderFailure Generated := do
  let start : Progress :=
    { tree := ModuleTree.empty
      builders := []
      statistics := { filesScanned := sources.files.length, typesRegistered := r.types.length }
      diagnostics := sources.diagnostics ++ r.diagnostics }
  let p ← r.annotated.foldlM (Progress.addType c r) start
  let files ← match c.layout with
    | .tree => p.tree.renderTree c.exposure
    | .singleFile => (do return [← p.tree.renderSingleFile c.exposure])
  let statistics := { p.statistics with filesEmitted := files.length }
  return ⟨files, p.builders, statistics, p.diagnostics⟩

/-- Makes builders for the annotated types of a crate. What modules export is enumerated in the order
in which it is declared. -/
def generate (c : Config) (sources : SourceSet) : Except RenderFailure Generated :=
  generateFrom c (Registry.ofSources sources) sources

end BuilderForge
