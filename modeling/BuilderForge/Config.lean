import BuilderForge.ModulePath
import BuilderForge.Text.Blank

set_option autoImplicit false

/-! # Settings of a generation run

Which types get builders, who can see these, where they go and what happens when a field hides
another one. -/

namespace BuilderForge

/-- Who can see the generated builders. -/
inductive Exposure where
  | everyone
  | crateOnly
  deriving DecidableEq, Repr

namespace Exposure

def parse? : String → Option Exposure
  | "public" => some .everyone
  | "crate" => some .crateOnly
  | _ => none

end Exposure

/-- Where builders go: each into a file of its own, or all into one file. -/
inductive Layout where
  | tree
  | singleFile
  deriving DecidableEq, Repr

/-- What happens to a field that a nearer struct declares again: the type is refused, or only the
nearest declaration gets a setter. -/
inductive ShadowPolicy where
  | reject
  | mostDerived
  deriving DecidableEq, Repr

/-- The module that holds the builders unless another one is chosen. -/
def defaultRootModule : String := "testbuilder"

/-- The settings of a generation run. An empty `only` lets every type through. -/
structure Config where
  rootModule : String := defaultRootModule
  layout : Layout := .tree
  exposure : Exposure := .everyone
  shadowPolicy : ShadowPolicy := .reject
  only : List String := []
  exclude : List String := []
  deriving Repr

namespace Config

/-- Whether the text `s` begins with `t`, and what follows then. -/
def afterStart? (s t : String) : Option String :=
  if t.toList.isPrefixOf s.toList then some (String.ofList (s.toList.drop t.length)) else none

def lastName (path : String) : String :=
  String.ofList (((ModulePath.pieces path.toList.reverse).headD []).reverse)

/-- Whether an entry of a list means the type: by its full path, by its path without `crate` or by
its bare name. -/
def names (entry typePath : String) : Bool :=
  let entry := Text.trim entry
  typePath == entry || afterStart? typePath "crate::" == some entry || lastName typePath == entry

/-- Whether the lists of the settings let a type through. -/
def selects (c : Config) (typePath : String) : Bool :=
  (c.only.isEmpty || c.only.any fun e => names e typePath)
    && !c.exclude.any fun e => names e typePath

end Config

end BuilderForge
