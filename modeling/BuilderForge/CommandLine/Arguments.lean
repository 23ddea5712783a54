import BuilderForge.CommandLine.Options
import BuilderForge.Config

set_option autoImplicit false

/-! # What can be asked for

There are two commands: one lists the builders that a crate would get, the other writes them. How
output looks can be said before the command or after it; what is said after it counts. -/

namespace BuilderForge.CommandLine

/-- When output has colours. -/
inductive ColorMode where
  | always
  | auto
  | never
  deriving DecidableEq, Repr

/-- Which colours there are: those for a dark or a light background, or for the one that the
terminal tells of. -/
inductive ThemeMode where
  | dark
  | light
  | auto
  deriving DecidableEq, Repr

/-- How output is to look, as far as it is said. -/
structure Appearance where
  color : Option ColorMode := none
  theme : Option ThemeMode := none
  deriving DecidableEq, Repr

/-- What is said in `a`, and what else is said in `b`. -/
def Appearance.orElse (a b : Appearance) : Appearance := ⟨a.color <|> b.color, a.theme <|> b.theme⟩

structure ListRequest where
  crateRoot : String := "src"
  shadowPolicy : ShadowPolicy := .reject
  rootModule : String := defaultRootModule
  json : Bool := false
  deriving DecidableEq, Repr

structure GenerateRequest where
  crateRoot : String := "src"
  output : Option String := none
  layout : Layout := .tree
  visibility : String := "public"
  shadowPolicy : ShadowPolicy := .reject
  rootModule : String := defaultRootModule
  only : List String := []
  exclude : List String := []
  verbose : Bool := false
  quiet : Bool := false
  deriving DecidableEq, Repr

inductive Command where
  | list (r : ListRequest)
  | generate (r : GenerateRequest)
  deriving DecidableEq, Repr

structure Arguments where
  command : Command
  color : ColorMode
  theme : ThemeMode
  deriving DecidableEq, Repr

/-! ## Options -/

/-- The options on how output looks. -/
def appearanceOptions : List (NamedOption Appearance) := [
  { name := "color"
    effect := .oneOf [("always", .always), ("auto", .auto), ("never", .never)]
      fun c a => { a with color := some c } },
  { name := "theme"
    effect := .oneOf [("dark", .dark), ("light", .light), ("auto", .auto)]
      fun t a => { a with theme := some t } }]

def helpOption {σ : Type} : NamedOption σ := ⟨"help", some 'h', .stop .helpAsked⟩

/-- The words for what happens to a hidden field. -/
def shadowPolicies : List (String × ShadowPolicy) :=
  [("reject", .reject), ("most-derived", .mostDerived)]

def listOptions : List (NamedOption ListRequest) := [
  { name := "crate-root", letter := some 'c'
    effect := .path fun v r => { r with crateRoot := v } },
  { name := "shadow-policy"
    effect := .oneOf shadowPolicies fun p r => { r with shadowPolicy := p } },
  { name := "root-module", effect := .text fun v r => { r with rootModule := v } },
  { name := "json", effect := .flag fun r => { r with json := true } }]

def generateOptions : List (NamedOption GenerateRequest) := [
  { name := "crate-root", letter := some 'c'
    effect := .path fun v r => { r with crateRoot := v } },
  { name := "output", letter := some 'o'
    effect := .path fun v r => { r with output := some v } },
  { name := "layout"
    effect := .oneOf [("tree", Layout.tree), ("single-file", .singleFile)]
      fun l r => { r with layout := l } },
  { name := "visibility", effect := .text fun v r => { r with visibility := v } },
  { name := "shadow-policy"
    effect := .oneOf shadowPolicies fun p r => { r with shadowPolicy := p } },
  { name := "root-module", effect := .text fun v r => { r with rootModule := v } },
  { name := "only", effect := .values fun vs r => { r with only := r.only ++ vs } },
  { name := "exclude", effect := .values fun vs r => { r with exclude := r.exclude ++ vs } },
  { name := "verbose", letter := some 'v', effect := .flag fun r => { r with verbose := true } },
  { name := "quiet", letter := some 'q', effect := .flag fun r => { r with quiet := true } }]

/-! ## Reading -/

/-- What can be said before the command. -/
def outerStage : Stage Appearance where
  options := appearanceOptions ++ [helpOption, ⟨"version", some 'V', .stop .versionAsked⟩]
  subcommands := ["list", "generate", "help"]

/-- What can be said after a command with these options. -/
def innerStage {α : Type} (options : List (NamedOption α)) : Stage (α × Appearance) where
  options := options.map (NamedOption.within Prod.fst fun a t => (a, t.2))
    ++ appearanceOptions.map (NamedOption.within Prod.snd fun b t => (t.1, b))
    ++ [helpOption]

/-- Reads the words after a command. -/
def readRequest {α : Type} (options : List (NamedOption α)) (start : α) (words : List String) :
    Except UsageFailure (α × Appearance) := do
  let (r, _) ← (innerStage options).readWords ⟨(start, {}), [], .none⟩ words
  return (← r.settle).settings

/-- What asking for help on these words leads to. Commands have no subcommands. -/
def helpOn : List String → UsageFailure
  | [] => .helpAsked
  | [word] => if outerStage.subcommands.contains word then .helpAsked else .invalidSubcommand
  | _ => .invalidSubcommand

/-- Reads a command line, without the name of the program. What is wrong after the command comes to
light before a pending option in front of it. -/
def Arguments.parse (words : List String) : Except UsageFailure Arguments := do
  let (outer, command) ← outerStage.readWords ⟨{}, [], .none⟩ words
  let (request, inner) ← match command with
    | none => do
        let outer ← outer.settle
        .error (if outer.seen.isEmpty then .nothingAsked else .missingSubcommand)
    | some (name, words) =>
        if name == "list" then do
          let (r, inner) ← readRequest listOptions {} words
          pure (Command.list r, inner)
        else if name == "generate" then do
          let (r, inner) ← readRequest generateOptions {} words
          pure (Command.generate r, inner)
        else .error (helpOn words)
  let a := inner.orElse (← outer.settle).settings
  return ⟨request, a.color.getD .auto, a.theme.getD .auto⟩

end BuilderForge.CommandLine
