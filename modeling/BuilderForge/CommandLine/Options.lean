import BuilderForge.Text.Split

set_option autoImplicit false

/-! # Options

The words of a command line are read from left to right. An option is written by its name after two
dashes, or by its letter after one; letters can share a dash. The value of an option stands behind
an equals sign, right behind the letter or in the next word, whatever that looks like unless it is
an option itself. After a word `--` no word is an option.

An option takes effect on settings of the type `σ`. A value in a word of its own is looked at late:
only when the next option takes effect, or at the end. -/

namespace BuilderForge.CommandLine

/-- Why words are not a request to do something. -/
inductive UsageFailure where
  | helpAsked
  | versionAsked
  | nothingAsked
  | missingSubcommand
  | invalidSubcommand
  | invalidValue
  | unknownArgument
  /-- An option is given again that can be given once. -/
  | repeated
  /-- An option has a value and takes none. -/
  | uncalledValue
  deriving DecidableEq, Repr

/-- What an option does. -/
inductive Effect (σ : Type) where
  /-- The reading stops. -/
  | stop (e : UsageFailure)
  | flag (set : σ → σ)
  /-- A value that is not one of the option's has no outcome. -/
  | value (set : String → σ → Option σ)
  /-- The value is a list with commas; given again, it goes on. -/
  | values (add : List String → σ → σ)

namespace Effect

variable {σ : Type}

/-- The value is any text. -/
def text (set : String → σ → σ) : Effect σ := .value fun v s => some (set v s)

/-- The value is a path, which is not empty. -/
def path (set : String → σ → σ) : Effect σ :=
  .value fun v s => if v.isEmpty then none else some (set v s)

/-- The value is one of some words. -/
def oneOf {α : Type} (words : List (String × α)) (set : α → σ → σ) : Effect σ :=
  .value fun v s => (words.lookup v).map fun a => set a s

end Effect

structure NamedOption (σ : Type) where
  name : String
  letter : Option Char := none
  effect : Effect σ

namespace NamedOption

variable {σ τ : Type}

def takesValue (o : NamedOption σ) : Bool :=
  match o.effect with
  | .stop _ | .flag _ => false
  | .value _ | .values _ => true

/-- The option for settings that the former ones are a part of. -/
def within (get : τ → σ) (put : σ → τ → τ) (o : NamedOption σ) : NamedOption τ where
  name := o.name
  letter := o.letter
  effect := match o.effect with
    | .stop e => .stop e
    | .flag set => .flag fun t => put (set (get t)) t
    | .value set => .value fun v t => (set v (get t)).map fun s => put s t
    | .values add => .values fun vs t => put (add vs (get t)) t

end NamedOption

/-- An option whose value is not settled: it is in the next word, or it is known. -/
inductive Pending (σ : Type) where
  | none
  | waiting (o : NamedOption σ)
  | filled (o : NamedOption σ) (value : String)

/-- A command line as far as it is read. -/
structure Reading (σ : Type) where
  settings : σ
  /-- The names of the options that took effect. -/
  seen : List String := []
  pending : Pending σ := .none

namespace Reading

variable {σ : Type}

def isWaiting (r : Reading σ) : Bool :=
  match r.pending with
  | .waiting _ => true
  | _ => false

/-- The reading with other settings, after an option. -/
def after (r : Reading σ) (o : NamedOption σ) (settings : σ) : Reading σ :=
  { r with settings, seen := o.name :: r.seen }

/-- An option takes effect, one without a value with any text for it. -/
def give (r : Reading σ) (o : NamedOption σ) (value : String) : Except UsageFailure (Reading σ) :=
  match o.effect with
  | .stop e => .error e
  | .values add =>
      .ok (r.after o (add ((Text.splitAt ',' value.toList).map String.ofList) r.settings))
  | .flag set =>
      if r.seen.contains o.name then .error .repeated else .ok (r.after o (set r.settings))
  | .value set =>
      if r.seen.contains o.name then .error .repeated
      else
        match set value r.settings with
        | some settings => .ok (r.after o settings)
        | none => .error .invalidValue

/-- The pending option takes effect. -/
def settle (r : Reading σ) : Except UsageFailure (Reading σ) :=
  match r.pending with
  | .none => .ok r
  | .waiting _ => .error .invalidValue
  | .filled o value => { r with pending := .none }.give o value

/-- An option takes effect after the pending one. -/
def react (r : Reading σ) (o : NamedOption σ) (value : String) :
    Except UsageFailure (Reading σ) := do
  (← r.settle).give o value

def await (r : Reading σ) (o : NamedOption σ) : Except UsageFailure (Reading σ) := do
  return { ← r.settle with pending := .waiting o }

end Reading

/-- What can be said before a subcommand, and which subcommands there are. -/
structure Stage (σ : Type) where
  options : List (NamedOption σ)
  subcommands : List String := []

namespace Stage

variable {σ : Type}

/-- What is behind the first equals sign, if there is one. -/
def attached? (text : List Char) : Option String :=
  match text.dropWhile (· != '=') with
  | _ :: value => some (String.ofList value)
  | [] => none

/-- Goes on with a word of two dashes and this text. -/
def readName (s : Stage σ) (r : Reading σ) (text : List Char) :
    Except UsageFailure (Reading σ) :=
  let name := String.ofList (text.takeWhile (· != '='))
  match s.options.find? fun o => o.name == name with
  | none => .error .unknownArgument
  | some o =>
      match o.takesValue, attached? text with
      | true, some value => r.react o value
      | true, none => r.await o
      | false, some _ => .error .uncalledValue
      | false, none => r.react o ""

/-- Goes on with a word of one dash and these letters. -/
def readLetters (s : Stage σ) : Reading σ → List Char → Except UsageFailure (Reading σ)
  | r, [] => .ok r
  | r, c :: rest =>
      match s.options.find? fun o => o.letter == some c with
      | none => .error .unknownArgument
      | some o =>
          if o.takesValue then
            match rest with
            | [] => r.await o
            | '=' :: value => r.react o (String.ofList value)
            | value => r.react o (String.ofList value)
          else do
            let r ← r.react o ""
            s.readLetters r rest

/-- What is wrong with a word that has no place. -/
def misplaced (s : Stage σ) (word : String) : UsageFailure :=
  if s.subcommands.isEmpty || s.subcommands.contains word then .unknownArgument
  else .invalidSubcommand

/-- Reads words up to a subcommand, and answers the words after it. The last option can still be
pending. -/
def readWords (s : Stage σ) :
    Reading σ → List String → Except UsageFailure (Reading σ × Option (String × List String))
  | r, [] => .ok (r, none)
  | r, word :: rest =>
      if !r.isWaiting && s.subcommands.contains word then .ok (r, some (word, rest))
      else
        match word.toList with
        | ['-', '-'] =>
            match rest with
            | [] => .ok (r, none)
            | next :: _ => .error (s.misplaced next)
        | '-' :: '-' :: text => do
            let r ← s.readName r text
            s.readWords r rest
        | '-' :: c :: letters => do
            let r ← s.readLetters r (c :: letters)
            s.readWords r rest
        | _ =>
            match r.pending with
            | .waiting o => s.readWords { r with pending := .filled o word } rest
            | _ => .error (s.misplaced word)

end Stage

end BuilderForge.CommandLine
