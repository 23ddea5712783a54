import BuilderForge.Code.Tree

set_option autoImplicit false

/-! # Items

What a source file is made of. Structs, enums, unions, modules and imports are known in full,
because builders are made from the first and names are looked up through the others. Of a type
alias, trait, constant or static only the declared name matters; every other item is kept as the
tree it was read as. `Item.tree` is the code of an item. -/

namespace BuilderForge.Code

/-! ## Attributes -/

/-- What stands in an attribute behind its path. -/
inductive AttributeArgs where
  | nothing
  | list (delimiter : Delimiter) (tokens : Tokens) (closing : Span)
  | value (equals : Span) (value : Tree)
  deriving Repr

/-- `#[path args]`, or `#![path args]` inside of what it speaks of. -/
structure Attribute where
  inner : Bool
  path : Path
  pathSpan : Span
  args : AttributeArgs
  deriving Repr

namespace Attribute

/-- Whether the attribute is named by the single word `s`. -/
def isNamed (a : Attribute) (s : String) : Bool := a.path.isName s

def tree (a : Attribute) : Tree :=
  let args : List Tree :=
    match a.args with
    | .nothing => []
    | .list d ts _ => [.group d [.raw ts]]
    | .value _ v => [.op "=", v]
  .node .attributeEntry
    [.op "#", if a.inner then .op "!" else Tree.absent,
      .group .bracket (a.path.toTree .other :: args)]

end Attribute

/-! ## Visibility -/

/-- Who can name an item: its own module, everyone, or the module a path leads to. -/
inductive Visibility where
  | inherited
  | everywhere
  | within (explicit : Bool) (path : Path)
  deriving Repr

namespace Visibility

def isInherited : Visibility → Bool
  | .inherited => true
  | _ => false

def tree : Visibility → Tree
  | .inherited => Tree.absent
  | .everywhere => .node .visibility [Tree.keyword "pub"]
  | .within explicit path =>
      .node .visibility
        [Tree.keyword "pub", .group .paren
          [if explicit then Tree.keyword "in" else Tree.absent, path.toTree .other]]

end Visibility

/-! ## Declarations -/

/-- The parameters of a declaration, separators among them, and its `where` clause. The span is
that of the angle brackets. -/
structure Generics where
  params : List Tree
  clause : Tree
  span : Span
  deriving Repr

namespace Generics

def none : Generics := ⟨[], Tree.absent, Span.nowhere⟩

def isEmpty (g : Generics) : Bool := g.params.isEmpty

def tree (g : Generics) : Tree :=
  if g.params.isEmpty then Tree.absent
  else .node .generics [.op "<", .node .parameters g.params, .op ">"]

end Generics

/-- A field of a struct, union or variant. Only the fields of a tuple have no name. -/
structure Field where
  attrs : List Attribute
  visibility : Visibility
  ident : Option Ident
  identSpan : Span
  type : Tree
  deriving Repr

/-- The fields of a struct, union or variant. `trailing` says whether a comma stands behind the last
one. -/
inductive Fields where
  | named (fields : List Field) (trailing : Bool)
  | tuple (fields : List Field) (trailing : Bool)
  | unit
  deriving Repr

/-- Attributes as one tree. -/
def attributesTree (attrs : List Attribute) : Tree :=
  .node .attributes (attrs.map Attribute.tree)

namespace Field

def tree (f : Field) : Tree :=
  let name : List Tree :=
    match f.ident with
    | some i => [.word i, .op ":"]
    | none => [Tree.absent, Tree.absent]
  .node .fieldDecl ([attributesTree f.attrs, f.visibility.tree] ++ name ++ [f.type])

end Field

/-- Trees with a separator between them. -/
def separated (separator : String) : List Tree → List Tree
  | [] => []
  | [t] => [t]
  | t :: u :: us => t :: .op separator :: separated separator (u :: us)

/-- Trees with commas between them and, if it is `trailing`, behind the last. -/
def listed (ts : List Tree) (trailing : Bool) : List Tree :=
  separated "," ts ++ if trailing then [.op ","] else []

namespace Fields

def tree : Fields → Tree
  | .named fs trailing => .node .fields [.group .brace (listed (fs.map Field.tree) trailing)]
  | .tuple fs trailing => .node .fields [.group .paren (listed (fs.map Field.tree) trailing)]
  | .unit => Tree.absent

end Fields

/-! ## Imports -/

/-- What a `use` item brings in. `trailing` says whether a comma stands behind the last tree of a
group. -/
inductive UseTree where
  | path (ident : Ident) (rest : UseTree)
  | name (ident : Ident)
  | rename (ident «alias» : Ident)
  | glob
  | group (trees : List UseTree) (trailing : Bool)
  deriving Repr

namespace UseTree

mutual

def tree : UseTree → Tree
  | .path i rest => .node .useTree [.word i, .op "::", tree rest]
  | .name i => .node .useTree [.word i]
  | .rename i j => .node .useTree [.word i, Tree.keyword "as", .word j]
  | .glob => .node .useTree [.op "*"]
  | .group ts trailing => .node .useTree [.group .brace (listed (treeAll ts) trailing)]

def treeAll : List UseTree → List Tree
  | [] => []
  | t :: ts => tree t :: treeAll ts

end

end UseTree

/-! ## Items -/

/-- An item of a module. -/
inductive Item where
  | struct (attrs : List Attribute) (visibility : Visibility) (ident : Ident) (identSpan : Span)
      (generics : Generics) (fields : Fields)
  | enum (attrs : List Attribute) (visibility : Visibility) (ident : Ident) (identSpan : Span)
      (generics : Generics) (variants : List Tree)
  | union (attrs : List Attribute) (visibility : Visibility) (ident : Ident) (identSpan : Span)
      (generics : Generics) (fields : Fields)
  | named (visibility : Visibility) (ident : Ident) (tree : Tree)
  | use (attrs : List Attribute) (visibility : Visibility) (leadingColon : Bool) (tree : UseTree)
  | externCrate (attrs : List Attribute) (visibility : Visibility) (ident : Ident)
      (rename : Option Ident)
  | module (attrs : List Attribute) (visibility : Visibility) (isUnsafe : Bool) (ident : Ident)
      (content : Option (List Item))
  | other (tree : Tree)

namespace Item

/-- The attributes in front of an item, and those that stand in its body. -/
def outerAttributes (attrs : List Attribute) : Tree :=
  attributesTree (attrs.filter fun a => !a.inner)

def innerAttributes (attrs : List Attribute) : Tree :=
  attributesTree (attrs.filter fun a => a.inner)

mutual

def tree : Item → Tree
  | .struct attrs vis i _ g fields =>
      .node .structItem
        ([outerAttributes attrs, vis.tree, Tree.keyword "struct", .word i, g.tree] ++
          match fields with
          | .named _ _ => [g.clause, fields.tree, Tree.absent, Tree.absent]
          | .tuple _ _ => [Tree.absent, fields.tree, g.clause, .op ";"]
          | .unit => [Tree.absent, Tree.absent, g.clause, .op ";"])
  | .enum attrs vis i _ g variants =>
      .node .enumItem [outerAttributes attrs, vis.tree, Tree.keyword "enum", .word i, g.tree,
        g.clause, .group .brace variants]
  | .union attrs vis i _ g fields =>
      .node .unionItem [outerAttributes attrs, vis.tree, Tree.keyword "union", .word i, g.tree,
        g.clause, fields.tree]
  | .named _ _ t => t
  | .use attrs vis leading t =>
      .node .useItem [outerAttributes attrs, vis.tree, Tree.keyword "use",
        if leading then .op "::" else Tree.absent, t.tree, .op ";"]
  | .externCrate attrs vis i none =>
      .node .externCrate [outerAttributes attrs, vis.tree, Tree.keyword "extern",
        Tree.keyword "crate", .word i, .op ";"]
  | .externCrate attrs vis i (some j) =>
      .node .externCrate [outerAttributes attrs, vis.tree, Tree.keyword "extern",
        Tree.keyword "crate", .word i, Tree.keyword "as", .word j, .op ";"]
  | .module attrs vis isUnsafe i content =>
      .node .moduleItem
        [outerAttributes attrs, vis.tree,
          if isUnsafe then Tree.keyword "unsafe" else Tree.absent, Tree.keyword "mod", .word i,
          match content with
          | none => .op ";"
          | some items => .group .brace (innerAttributes attrs :: treeAll items)]
  | .other t => t

def treeAll : List Item → List Tree
  | [] => []
  | i :: is => tree i :: treeAll is

end

end Item

/-- A source file: the attributes at its beginning and its items. -/
structure File where
  attrs : List Attribute
  items : List Item

end BuilderForge.Code
