import BuilderForge.BuilderCode
import BuilderForge.Code.Format

set_option autoImplicit false

/-! # The tree of builder modules

Builder modules are arranged as the modules of the crate are: a builder stands in the module of the
tree that has the path of the module of its type. A builder and a module inside of one module cannot
have one name. The tree is written as one file with inline modules, or as a file for each module
and each builder. -/

namespace BuilderForge

open Code (Ident Tokens)
open Code.Tokens

/-- The code of a builder with the names it goes by. -/
structure RenderedBuilder where
  module : Ident
  wrapper : Ident
  /-- The path to the type that the builder is for. -/
  owner : String
  contents : Tokens
  deriving Repr

mutual

/-- Builders, in the order they were added, and the modules beside them, sorted by name. -/
inductive ModuleTree where
  | node (builders : List RenderedBuilder) (children : ModuleForest)

/-- Modules with their names. -/
inductive ModuleForest where
  | nil
  | cons (name : String) (tree : ModuleTree) (rest : ModuleForest)

end

/-- A file to be written, with a path relative to where all of them go. -/
structure GeneratedFile where
  path : String
  code : String
  /-- The type that the file was made for, if it was made for one. -/
  owner : Option String
  deriving DecidableEq, Repr

/-- Why a tree could not be written. -/
inductive RenderFailure where
  /-- The name of a module is no identifier. -/
  | badName (error : NameError)
  /-- The code cannot be read. -/
  | unreadable (error : Code.ParseError)
  deriving Repr

def RenderFailure.message : RenderFailure → String
  | .badName e => e.message
  | .unreadable e => e.message

namespace ModuleForest

def find? (name : String) : ModuleForest → Option ModuleTree
  | .nil => none
  | .cons n t rest => if n = name then some t else rest.find? name

/-- Replaces the module of a name, which is an empty one if there is none so far. -/
def modify (name : String) (f : ModuleTree → ModuleTree) : ModuleForest → ModuleForest
  | .nil => .cons name (f (.node [] .nil)) .nil
  | .cons n t rest =>
      if n = name then .cons n (f t) rest
      else if name < n then .cons name (f (.node [] .nil)) (.cons n t rest)
      else .cons n t (rest.modify name f)

end ModuleForest

namespace ModuleTree

/-- The tree without builders. -/
def empty : ModuleTree := .node [] .nil

def builders : ModuleTree → List RenderedBuilder
  | .node bs _ => bs

def children : ModuleTree → ModuleForest
  | .node _ cs => cs

/-! ## Size -/

mutual

def size : ModuleTree → Nat
  | .node bs cs => bs.length + forestSize cs

/-- The number of builders in modules. -/
def forestSize : ModuleForest → Nat
  | .nil => 0
  | .cons _ t rest => size t + forestSize rest

end

def isEmpty (t : ModuleTree) : Bool := t.size = 0

/-! ## Adding builders -/

/-- Whether one of the builders has the module of this name. -/
def hasBuilder (t : ModuleTree) (name : String) : Bool :=
  t.builders.any fun b => b.module.isWritten name

/-- The names that stand in the way of a builder module, from the module `walked` on. -/
def collision? (walked : ModulePath) (module : Ident) :
    List String → Option ModuleTree → Option BuilderFailure
  | [], t =>
      let taken := match t with
        | none => false
        | some t => (t.children.find? module.text).isSome || t.hasBuilder module.text
      if taken then some (.moduleNameCollision walked.display module.text) else none
  | name :: rest, t =>
      let taken := match t with
        | none => false
        | some t => t.hasBuilder name
      if taken then some (.moduleNameCollision walked.display name)
      else collision? (walked.child name) module rest (t.bind fun t => t.children.find? name)

/-- Adds a builder below the modules of these names. -/
def push (b : RenderedBuilder) : List String → ModuleTree → ModuleTree
  | [], .node bs cs => .node (bs ++ [b]) cs
  | name :: rest, .node bs cs => .node bs (cs.modify name (push b rest))

/-- Adds a builder to the module `space`. Where a builder and a module would have one name, the
tree stays as it is. -/
def insert (t : ModuleTree) (space : ModulePath) (b : RenderedBuilder) :
    Except BuilderFailure ModuleTree :=
  match collision? ModulePath.root b.module space.segments (some t) with
  | some failure => .error failure
  | none => .ok (push b space.segments t)

/-! ## Writing -/

/-- The lines at the beginning of every file. They are plain comments, so that a file can be
included anywhere. -/
def header : String :=
  "// AUTO-GENERATED CODE - DO NOT EDIT!\n" ++ "//\n"
    ++ "// Builders for structs annotated with `#[derive(TestBuilder)]`.\n"
    ++ "// Generated by `testbuilder-gen` v0.4.1\n"

def withHeader (code : String) : String := if code.isEmpty then header else header ++ "\n" ++ code

/-- The name of the file that holds all builders. -/
def singleFileName : String := "testbuilder.rs"

/-- The identifier of a module, if its name can be one. -/
def moduleIdent (name : String) : Except RenderFailure Ident :=
  let i := identFor name
  match nameError? i with
  | some e => .error (.badName e)
  | none => .ok i

def formatted (ts : Tokens) : Except RenderFailure String :=
  match ts.format with
  | .ok code => .ok code
  | .error e => .error (.unreadable e)

/-- The declaration of a builder module, whose content is `body`, and of its wrapper. -/
def builderDecl (vis : Tokens) (b : RenderedBuilder) (body : Tokens) : Tokens :=
  attributeOf (word "allow" ++ parens (word "dead_code")) ++ vis ++ word "mod" ++ ident b.module
    ++ body ++ attributeOf (word "allow" ++ parens (word "unused_imports")) ++ vis ++ word "use"
    ++ ident b.module ++ op "::" ++ ident b.wrapper ++ op ";"

mutual

def inlineTokens (vis : Tokens) : ModuleTree → Except RenderFailure Tokens
  | .node bs cs => do
      return bs.flatMap (fun b => builderDecl vis b (braces b.contents)) ++ (← inlineForest vis cs)

/-- Modules as inline modules; those without builders are left out. -/
def inlineForest (vis : Tokens) : ModuleForest → Except RenderFailure Tokens
  | .nil => return []
  | .cons name t rest => do
      if t.isEmpty then inlineForest vis rest
      else
        let i ← moduleIdent name
        let inner ← inlineTokens vis t
        return vis ++ word "mod" ++ ident i ++ braces inner ++ (← inlineForest vis rest)

end

def renderSingleFile (t : ModuleTree) (exposure : Exposure) :
    Except RenderFailure GeneratedFile := do
  let ts ← t.inlineTokens exposure.tokens
  let code ← if ts.isEmpty then pure "" else formatted ts
  return ⟨singleFileName, withHeader code, none⟩

/-- A path below a directory, which is none at the top. -/
def inDir (dir name : String) : String := if dir.isEmpty then name else dir ++ "/" ++ name

/-- The declarations of modules that stand in files of their own. -/
def childDecls (vis : Tokens) : ModuleForest → Except RenderFailure Tokens
  | .nil => return []
  | .cons name t rest => do
      if t.isEmpty then childDecls vis rest
      else
        let i ← moduleIdent name
        return vis ++ word "mod" ++ ident i ++ op ";" ++ (← childDecls vis rest)

mutual

/-- A file for the module itself, one for each builder, and those of the modules inside. -/
def treeFiles (vis : Tokens) (dir : String) : ModuleTree → Except RenderFailure (List GeneratedFile)
  | .node bs cs => do
      let decls := bs.flatMap fun b => builderDecl vis b (op ";")
      let code ← formatted (decls ++ (← childDecls vis cs))
      let files ← bs.mapM fun b => do
        let code ← formatted b.contents
        return (⟨inDir dir (b.module.text ++ ".rs"), withHeader code, some b.owner⟩ : GeneratedFile)
      return ⟨inDir dir "mod.rs", withHeader code, none⟩ :: files ++ (← forestFiles vis dir cs)

/-- The files of modules; those without builders have none. -/
def forestFiles (vis : Tokens) (dir : String) :
    ModuleForest → Except RenderFailure (List GeneratedFile)
  | .nil => return []
  | .cons name t rest => do
      let files ← if t.isEmpty then pure [] else treeFiles vis (inDir dir name) t
      return files ++ (← forestFiles vis dir rest)

end

/-- A file for each module and each builder. -/
def renderTree (t : ModuleTree) (exposure : Exposure) : Except RenderFailure (List GeneratedFile) :=
  if t.isEmpty then .ok [] else t.treeFiles exposure.tokens ""

end ModuleTree

end BuilderForge
