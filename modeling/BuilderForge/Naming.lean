import BuilderForge.Code.Token
import BuilderForge.Text.Letter
import BuilderForge.Text.Word
import BuilderForge.Text.Quoted

set_option autoImplicit false

/-! # Names of generated things

The builder of the type `HttpServer` is entered through the wrapper `THttpServer` and lives in the
module `t_http_server`. A name that is spelled like a keyword is written as a raw identifier. -/

namespace BuilderForge

open Code (Ident)

/-! ## Identifiers -/

/-- The words that cannot be written as they are. -/
def forbiddenWords : List String :=
  ["as", "break", "const", "continue", "crate", "else", "enum", "extern", "false", "fn", "for",
    "if", "impl", "in", "let", "loop", "match", "mod", "move", "mut", "pub", "ref", "return",
    "static", "struct", "super", "trait", "true", "type", "unsafe", "use", "where", "while",
    "async", "await", "dyn", "try", "abstract", "become", "box", "do", "final", "macro",
    "override", "priv", "typeof", "unsized", "virtual", "yield", "gen", "self", "Self"]

/-- The words that name a place in the module tree, or the type at hand. They cannot be raw. -/
def placeNames : List String := ["self", "Self", "crate", "super"]

/-- The identifier for a name: raw if the name is a forbidden word that can be raw, or if it is
given with the mark of a raw identifier. -/
def identFor (name : String) : Ident :=
  if forbiddenWords.contains name && !placeNames.contains name then ⟨name, true⟩
  else
    match name.toList with
    | 'r' :: '#' :: rest => ⟨String.ofList rest, true⟩
    | _ => ⟨name, false⟩

inductive NameError where
  | empty
  | number
  | malformed (text : String)
  | unrawable (text : String)
  deriving DecidableEq, Repr

namespace NameError

def message : NameError → String
  | .empty => "Ident is not allowed to be empty; use Option<Ident>"
  | .number => "Ident cannot be a number; use Literal instead"
  | .malformed text => Text.quote text ++ " is not a valid Ident"
  | .unrawable text => "`r#" ++ text ++ "` cannot be a raw identifier"

end NameError

/-- What is wrong with an identifier, if anything is. -/
def nameError? (i : Ident) : Option NameError :=
  match i.name.toList with
  | [] => some .empty
  | c :: cs =>
      if (c :: cs).all Char.isDigit then some .number
      else if !(Text.isWordStart c && cs.all Text.isWordPart) then some (.malformed i.name)
      else if i.raw && ("_" :: placeNames).contains i.name then some (.unrawable i.name)
      else none

/-! ## Words -/

/-- Whether a word ends between `c` and `d`, where `next` follows `d`: a capital begins a word
behind a small letter, and in front of one. -/
def isWordBoundary (c d : Char) (next : Option Char) : Bool :=
  Text.isUpper d && (Text.isLower c || next.any Text.isLower)

/-- The words of a part of a name that holds no underscore. -/
def partWords : List Char → List (List Char)
  | [] => []
  | [c] => [[c]]
  | c :: d :: rest =>
      match partWords (d :: rest) with
      | [] => [[c]]
      | w :: ws => if isWordBoundary c d rest.head? then [c] :: w :: ws else (c :: w) :: ws

/-- The stretches of a name between underscores; the empty ones are left out. -/
def nameParts : List Char → List (List Char)
  | [] => []
  | '_' :: rest => nameParts rest
  | c :: rest =>
      match rest, nameParts rest with
      | d :: _, p :: ps => if d = '_' then [c] :: p :: ps else (c :: p) :: ps
      | _, ps => [c] :: ps

/-- The words of a name, as in `Http` and `Server` for `HttpServer`. -/
def splitWords (name : String) : List String :=
  (nameParts name.toList).flatMap fun p => (partWords p).map String.ofList

/-- The name of the wrapper that leads to the builder of a type. -/
def wrapperIdent (type : Ident) : Ident := ⟨"T" ++ type.name, false⟩

def builderModuleIdent (type : Ident) : Ident :=
  ⟨"t_" ++ "_".intercalate ((splitWords type.name).map Text.toLower), false⟩

/-! ## Setters -/

/-- The methods that every builder has, so that no setter can be named like one. -/
def reservedSetterNames : List String := ["new", "try_new", "build", "set_field"]

end BuilderForge
