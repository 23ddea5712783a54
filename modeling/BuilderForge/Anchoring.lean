import BuilderForge.Resolution

set_option autoImplicit false

/-! # Anchoring types

A type written in one module is turned into one that means the same in every module: each path
in it that names a type, a value or a bound becomes a path from the root of the crate or from
another crate. Names without a known meaning stay as they are and are noted, and so are items that
cannot be named from everywhere. -/

namespace BuilderForge

open Code (Tree Kind Segment Path PathRole)

/-- What an anchored type leaves to be said: paths without a known meaning, and paths to items that
cannot be named from everywhere in the crate. -/
structure AnchorNotes where
  unresolved : List String := []
  unreachable : List String := []
  deriving DecidableEq, Repr

namespace AnchorNotes

/-- First the notes `n`, then the notes `m`. -/
def append (n m : AnchorNotes) : AnchorNotes :=
  ⟨n.unresolved ++ m.unresolved, n.unreachable ++ m.unreachable⟩

end AnchorNotes

/-- What becomes of the names of a path. -/
inductive PathChange where
  /-- The path stays as it is. -/
  | keep
  /-- The path is replaced. The arguments of its last name stay with the last new name. -/
  | replace (leading : Bool) (names : List String)
  deriving DecidableEq, Repr

/-- What `Self` stands for. The arguments of its names are anchored, and what there is to be said
about them goes with them. -/
structure SelfPath where
  leading : Bool
  segments : List (Segment × AnchorNotes)

structure Place where
  registry : Registry
  module : ModulePath
  self : Option SelfPath := none

namespace Place

/-- How the names of a path are written in a note. -/
def written (segments : List Segment) : String :=
  "::".intercalate (segments.map fun s => s.ident.text)

/-- What becomes of a path, and what there is to be said about it. -/
def change (p : Place) (leading : Bool) (segments : List Segment) : PathChange × AnchorNotes :=
  match p.registry.resolvePath p.module ⟨leading, segments⟩ with
  | .crate names =>
      match p.registry.visiblePath? names with
      | some visible => (.replace false ("crate" :: visible), {})
      | none => (.replace false ("crate" :: names), ⟨[], [ModulePath.displaySegments names]⟩)
  | .external names => (.replace true names, {})
  | .builtin => (.keep, {})
  | .unresolved => (.keep, ⟨[written segments], []⟩)

/-- A new path of these names, the last of which gets the arguments. -/
def rebuilt : List String → Option Tree → List Segment
  | [], _ => []
  | [name], args => [.mk (identFor name) args]
  | name :: more, args => .ofIdent (identFor name) :: rebuilt more args

def note (n : AnchorNotes) : StateM AnchorNotes Unit := modify fun m => m.append n

def beginsWithSelf (segments : List Segment) : Bool :=
  match segments with
  | .mk i _ :: _ => i.isWritten "Self"
  | [] => false

/-- Whether a type is the word `Self` as it stands. -/
def isSelfWord : Tree → Bool
  | .path _ leading segments => Code.Path.isName ⟨leading, segments⟩ "Self"
  | _ => false

/-- Anchors the word `Self`, which stands for a path, by itself. -/
def selfType (p : Place) (self : SelfPath) (role : PathRole) : StateM AnchorNotes Tree := do
  let front := self.segments.map (·.1)
  let (change, notes) := p.change self.leading front
  note notes
  match change with
  | .keep =>
      self.segments.forM fun s => note s.2
      return .path role self.leading front
  | .replace leading names =>
      let last := self.segments.getLast?
      note ((last.map (·.2)).getD {})
      return .path role leading (rebuilt names (last.bind fun s => s.1.arguments))

/-- Anchors a receiver behind its attributes. One without a type is of type `Self` or refers to one;
that has to be said if `Self` means something else elsewhere. -/
def receiver (p : Place) (ampersand name isMutable word : Tree) :
    StateM AnchorNotes (List Tree) := do
  match p.self with
  | none => return [ampersand, name, isMutable, word, Tree.absent, Tree.absent]
  | some self =>
      let t ← p.selfType self .type
      if isSelfWord t then return [ampersand, name, isMutable, word, Tree.absent, Tree.absent]
      let t := if ampersand.isAbsent then t
        else .node .referenceType [ampersand, name, isMutable, t]
      return [ampersand, name, isMutable, word, .op ":", t]

/-- An anchored part of a node with what there is to be said about it. If the part is a body that
begins with attributes, these are apart: they speak of the whole node. -/
structure Part where
  tree : Tree
  attributes : AnchorNotes := {}
  notes : AnchorNotes

/-- Whether a part of a declaration stands in front of what its parameters are used in. -/
def isFront (t : Tree) : Bool :=
  match t with
  | .word _ | .op _ => true
  | .node k _ => [Kind.absent, .visibility, .abi, .generics].contains k
  | _ => false

def isClause (t : Tree) : Bool :=
  match t with
  | .node .whereClause _ => true
  | _ => false

def isAttributes (t : Tree) : Bool :=
  match t with
  | .node .attributes _ => true
  | _ => false

/-- What there is to be said about the parts of a node in the order they are looked at: attributes
come first, those in front and those in its body, and a `where` clause comes with the parameters it
is about, wherever it stands. -/
def inOrder (parts : List Part) : List AnchorNotes :=
  let (front, rest) := parts.span fun t => isAttributes t.tree
  let (clauses, others) := rest.partition fun t => isClause t.tree
  let (declared, used) := others.span fun t => isFront t.tree
  front.map Part.notes ++ parts.map Part.attributes
    ++ (declared ++ clauses ++ used).map Part.notes

/-- Notes about the parts of a group, and the parts. -/
def noteParts (parts : List Part) : StateM AnchorNotes (List Tree) := do
  parts.forM fun t => note (t.attributes.append t.notes)
  return parts.map Part.tree

/-- Notes about each of some things, and the things. -/
def noteAll {α : Type} (found : List (α × AnchorNotes)) : StateM AnchorNotes (List α) := do
  found.forM fun a => note a.2
  return found.map (·.1)

/-- The arguments of the last name of a path. -/
def lastArguments (anchored : List (Segment × AnchorNotes)) : StateM AnchorNotes (Option Tree) :=
  match anchored.getLast? with
  | none => return none
  | some (s, notes) => do
      note notes
      return s.arguments

/-- Anchors a path, given its names with their arguments anchored. `between` is what there is to be
said about what is looked at behind the names and in front of their arguments. -/
def path (p : Place) (between : AnchorNotes) (role : PathRole) (leading : Bool)
    (segments : List Segment) (anchored : List (Segment × AnchorNotes)) :
    StateM AnchorNotes Tree := do
  if role = .other || leading then
    note between
    return .path role leading (← noteAll anchored)
  else
    match beginsWithSelf segments, p.self with
    | true, none =>
        note between
        return .path role false (← noteAll anchored)
    | false, _ =>
        let (change, notes) := p.change false segments
        note (notes.append between)
        match change with
        | .keep => return .path role false (← noteAll anchored)
        | .replace leading names =>
            return .path role leading (rebuilt names (← lastArguments anchored))
    | true, some self =>
        match segments with
        | [_] =>
            note between
            p.selfType self role
        | _ =>
            let front := self.segments.map (·.1)
            let (change, notes) := p.change self.leading (front ++ segments.drop 1)
            note (notes.append between)
            match change with
            | .keep =>
                self.segments.forM fun s => note s.2
                return .path role self.leading (front ++ (← noteAll (anchored.drop 1)))
            | .replace leading names =>
                return .path role leading (rebuilt names (← lastArguments anchored))

/-- The parts of a bound with those in front of the name anchored: its binder, which can stand at two
places, and its marks. `name` anchors the name of the trait, given what there is to be said about
them. -/
def bound (early mark question late : Tree × AnchorNotes)
    (name : AnchorNotes → StateM AnchorNotes Tree) : StateM AnchorNotes (List Tree) := do
  let front := early.2.append (mark.2.append (question.2.append late.2))
  return [early.1, mark.1, question.1, late.1, ← name front]

mutual

def tree (p : Place) : Tree → StateM AnchorNotes Tree
  | .group d body => return .group d (← noteParts (trees p body))
  | .node .boxPattern parts => return .node .boxPattern parts
  | .node .traitBound [early, mark, question, late, .path role leading segments] => do
      let name := fun n => p.path n role leading segments (names p segments)
      return .node .traitBound (← bound ((tree p early).run {}) ((tree p mark).run {})
        ((tree p question).run {}) ((tree p late).run {}) name)
  | .node .traitBound [.group d [early, mark, question, late, .path role leading segments]] => do
      let name := fun n => p.path n role leading segments (names p segments)
      return .node .traitBound [.group d (← bound ((tree p early).run {}) ((tree p mark).run {})
        ((tree p question).run {}) ((tree p late).run {}) name)]
  | .node .attributed [attrs, .path role leading segments] => do
      let (attrs, notes) := (tree p attrs).run {}
      let e ← p.path notes role leading segments (names p segments)
      return .node .attributed [attrs, e]
  | .node .receiver [attrs, ampersand, name, isMutable, word, .node .absent [], _] => do
      let attrs ← tree p attrs
      let ampersand ← tree p ampersand
      let name ← tree p name
      let isMutable ← tree p isMutable
      let word ← tree p word
      return .node .receiver (attrs :: (← p.receiver ampersand name isMutable word))
  | .node k parts => do
      let found := trees p parts
      (inOrder found).forM note
      return .node k (found.map Part.tree)
  | .path role leading segments => p.path {} role leading segments (names p segments)
  | t => return t

/-- Anchors trees, each with what there is to be said about it. -/
def trees (p : Place) : List Tree → List Part
  | [] => []
  | .group d (.node .attributes attrs :: body) :: ts =>
      let (front, attributes) := (tree p (.node .attributes attrs)).run {}
      let (body, notes) := (noteParts (trees p body)).run {}
      ⟨.group d (front :: body), attributes, notes⟩ :: trees p ts
  | t :: ts =>
      let (t, notes) := (tree p t).run {}
      ⟨t, {}, notes⟩ :: trees p ts

def arguments (p : Place) : Segment → StateM AnchorNotes Segment
  | .mk i none => return .mk i none
  | .mk i (some a) => return .mk i (some (← tree p a))

/-- Anchors the arguments of names, each with what there is to be said about it. -/
def names (p : Place) : List Segment → List (Segment × AnchorNotes)
  | [] => []
  | s :: ss => (arguments p s).run {} :: names p ss

end

/-- The place with `path` for `Self`. -/
def withSelf (p : Place) (path : Path) : Place :=
  let bare : Place := { p with self := none }
  { p with self := some ⟨path.leadingColon, path.segments.map fun s => (bare.arguments s).run {}⟩ }

end Place

/-- A type that means the same in every module, with what there is to be said about it. -/
structure AnchoredType where
  type : Tree
  notes : AnchorNotes
  deriving Repr

def Place.anchor (p : Place) (type : Tree) : AnchoredType :=
  let (type, notes) := (p.tree type).run {}
  ⟨type, notes⟩

end BuilderForge
