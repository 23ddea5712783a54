import BuilderForge.BuilderSpec
import BuilderForge.Code.Spell

set_option autoImplicit false

/-! # The code of a builder

A builder module holds the wrapper that leads to the builder, and the builder with its setters.
Fields are assigned by name through the field access of the target, and the target is made by its
zero-argument constructor, so that the module can stand anywhere even if the fields are private. -/

namespace BuilderForge

open Code (Ident Tokens)
open Code.Tokens

/-- How an exposure is written. -/
def Exposure.tokens : Exposure → Tokens
  | .everyone => word "pub"
  | .crateOnly => word "pub" ++ parens (word "crate")

/-- A function in the body of a type. -/
structure Method where
  attributes : Tokens
  visibility : Tokens
  name : Ident
  generics : Tokens := []
  params : Tokens
  result : Tokens
  body : Tokens
  deriving Repr

namespace Method

def tokens (m : Method) : Tokens :=
  m.attributes ++ m.visibility ++ word "fn" ++ ident m.name ++ m.generics ++ parens m.params
    ++ op "->" ++ m.result ++ braces m.body

end Method

/-- The body of a type, or of a trait for it. -/
def implTokens (head : Tokens) (methods : List Method) : Tokens :=
  word "impl" ++ head ++ braces (methods.flatMap Method.tokens)

/-- The attribute of a function whose result has to be used. -/
def mustUse : Tokens := attributeOf (word "must_use")

/-- The path to a result of the standard library. -/
def resultPath : Tokens := spell ":: core :: result :: Result"

namespace BuilderSpec

variable (s : BuilderSpec)

def entry : Method :=
  { attributes := documentedLines
      [" Starts a builder from the zero-argument constructor.", "", " # Panics", "",
        " Panics when the target cannot be instantiated."] ++ mustUse
    visibility := s.exposure.tokens
    name := ⟨"builder", false⟩
    params := []
    result := word "Builder"
    body := spell "Builder :: new" ++ parens [] }

/-- The function that makes a builder or panics. -/
def newMethod : Method :=
  { attributes := documentedLines
      [" # Panics", "", " Panics when the target cannot be instantiated."] ++ mustUse
    visibility := s.exposure.tokens
    name := ⟨"new", false⟩
    params := []
    result := word "Self"
    body := spell "match Self :: try_new" ++ parens [] ++ braces
      (resultPath ++ spell ":: Ok" ++ parens (word "builder") ++ spell "=> builder ,"
        ++ resultPath ++ spell ":: Err" ++ parens (word "fault")
        ++ spell "=> :: testbuilder :: raise" ++ parens (word "fault") ++ op ",") }

/-- The function that makes a builder if the target can be made. -/
def tryNewMethod : Method :=
  { attributes := []
    visibility := s.exposure.tokens
    name := ⟨"try_new", false⟩
    params := []
    result := resultPath ++ spell "< Self , :: testbuilder :: Fault >"
    body := spell "let target = <" ++ s.target.tokens
      ++ spell "as :: testbuilder :: Instantiate > :: instantiate" ++ parens []
      ++ spell ". map_err" ++ parens
        (spell ":: testbuilder :: Fault :: instantiate :: <" ++ s.target.tokens ++ op ">")
      ++ spell "? ;" ++ resultPath ++ spell ":: Ok" ++ parens
        (word "Self" ++ braces (word "target")) }

/-- The function that all setters go through. -/
def setFieldMethod : Method :=
  { attributes := attributeOf (word "allow" ++ parens (word "dead_code"))
    visibility := []
    name := ⟨"set_field", false⟩
    generics := spell "< V : :: core :: any :: Any >"
    params := spell "mut self , field : & str , value : V"
    result := word "Self"
    body := spell "if let" ++ resultPath ++ spell ":: Err" ++ parens (word "source")
      ++ spell "= :: testbuilder :: FieldAccess :: set_field" ++ parens
        (spell "& mut self . target , field , :: std :: boxed :: Box :: new"
          ++ parens (word "value"))
      ++ braces (spell ":: testbuilder :: raise" ++ parens
        (spell ":: testbuilder :: Fault :: assign :: <" ++ s.target.tokens ++ op ">"
          ++ parens (spell "field , source")) ++ op ";")
      ++ word "self" }

def setterMethod (x : Setter) : Method :=
  let doc := if x.declaredOn == s.targetName then "Sets `" ++ x.fieldName ++ "`."
    else "Sets `" ++ x.fieldName ++ "`, declared on `" ++ x.declaredOn ++ "`."
  { attributes := documented doc ++ mustUse
    visibility := s.exposure.tokens
    name := x.ident
    params := spell "self ," ++ ident x.ident ++ op ":" ++ x.type.tokens
    result := word "Self"
    body := spell "self . set_field" ++ parens (text x.fieldName ++ op "," ++ ident x.ident) }

def buildMethod : Method :=
  { attributes := mustUse
    visibility := s.exposure.tokens
    name := ⟨"build", false⟩
    params := word "self"
    result := s.target.tokens
    body := spell "self . target" }

def methods : List Method :=
  [s.newMethod, s.tryNewMethod, s.setFieldMethod] ++ s.setters.map s.setterMethod
    ++ [s.buildMethod]

def defaultMethod : Method :=
  { attributes := []
    visibility := []
    name := ⟨"default", false⟩
    params := []
    result := word "Self"
    body := spell "Self :: new" ++ parens [] }

/-- The content of the builder module. -/
def code : Tokens :=
  documented ("Entry point for building `" ++ s.targetName ++ "` values in tests.")
    ++ s.exposure.tokens ++ word "struct" ++ ident s.wrapper ++ op ";"
    ++ implTokens (ident s.wrapper) [s.entry]
    ++ documented ("Builds a `" ++ s.targetName ++ "` by assigning fields one at a time.")
    ++ s.exposure.tokens ++ spell "struct Builder"
    ++ braces (spell "target :" ++ s.target.tokens ++ op ",")
    ++ implTokens (word "Builder") s.methods
    ++ implTokens (spell ":: core :: default :: Default for Builder") [defaultMethod]

end BuilderSpec

end BuilderForge
