import BuilderForge.Code.Format.Item
import BuilderForge.Code.Parser.File

set_option autoImplicit false

/-! # Formatting source files

The formatting functions as a whole. They call each other only on parts of what they are given, so a
depth in proportion to the depth of a tree is enough. -/

namespace BuilderForge.Code

open Layout

mutual

/-- How deep the parts of a tree are nested. -/
def Tree.depth : Tree → Nat
  | .group _ body => Tree.depthAll body + 1
  | .node _ parts => Tree.depthAll parts + 1
  | .path _ _ segments => Segment.depthAll segments + 1
  | _ => 1

def Tree.depthAll : List Tree → Nat
  | [] => 0
  | t :: ts => max (Tree.depth t) (Tree.depthAll ts)

def Segment.depth : Segment → Nat
  | .mk _ none => 0
  | .mk _ (some a) => Tree.depth a

def Segment.depthAll : List Segment → Nat
  | [] => 0
  | s :: ss => max (Segment.depth s) (Segment.depthAll ss)

end

/-- Formatting functions that call each other at most `depth` times in a row. -/
def Formatter.ofDepth : Nat → Formatter
  | 0 => ⟨fun _ => [], fun _ _ => [], fun _ => [], fun _ => [], fun _ => []⟩
  | depth + 1 =>
      { type := fun t => Format.typeDocs (ofDepth depth) t
        expr := fun lineStart t => Format.exprDocs (ofDepth depth) lineStart t
        pattern := fun t => Format.patternDocs (ofDepth depth) t
        statement := fun t => Format.statementDocs (ofDepth depth) t
        item := fun t => Format.itemDocs (ofDepth depth) t }

/-- The trees of a source file, one for its attributes and one for each item. -/
def File.trees (file : File) : List Tree := attributesTree file.attrs :: file.items.map Item.tree

def File.format (file : File) : String :=
  let trees := file.trees
  let f := Formatter.ofDepth (2 * Tree.depthAll trees + 16)
  render (cbox 0 (trees.flatMap f.item))

/-- The lines of a source file that is given by its tokens. -/
def Tokens.format (ts : Tokens) : Except ParseError String := (File.ofTokens ts).map File.format

end BuilderForge.Code
