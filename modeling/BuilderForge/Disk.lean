import BuilderForge.FilePath

set_option autoImplicit false

/-! # The disk

Files and directories as a tree, and what can be done with them by path: read, ask, make a
directory, write a file. A path is followed name by name, and every name on the way has to be that
of a directory, also where `..` leads out of it again. An operation that fails halfway leaves the
disk as far as it came. -/

namespace BuilderForge

/-- What a file holds: text, or bytes that are none. -/
inductive Content where
  | text (s : String)
  | binary (bytes : List UInt8)
  deriving DecidableEq, Repr

/-- Bytes as content. -/
def Content.ofBytes (bytes : List UInt8) : Content :=
  match String.fromUTF8? ⟨bytes.toArray⟩ with
  | some s => .text s
  | none => .binary bytes

/-- A file, or a directory with what it holds under each name. -/
inductive Node where
  | file (content : Content)
  | directory (entries : List (String × Node))
  deriving Repr

namespace Node

/-- The entry of a name. -/
def child? (n : Node) (name : String) : Option Node :=
  match n with
  | .file _ => none
  | .directory entries => entries.lookup name

/-- What stands below a node at the end of these names. -/
def get? : Node → List String → Option Node
  | n, [] => some n
  | n, name :: rest => (n.child? name).bind fun c => c.get? rest

/-- Entries with the one of a name replaced or added. -/
def putEntry (name : String) (n : Node) : List (String × Node) → List (String × Node)
  | [] => [(name, n)]
  | (k, m) :: rest => if k = name then (k, n) :: rest else (k, m) :: putEntry name n rest

/-- The node with another one below it at the end of these names, all but the last of which have to
be there. -/
def put : Node → List String → Node → Node
  | _, [], new => new
  | .file c, _ :: _, _ => .file c
  | .directory entries, name :: rest, new =>
      match rest, entries.lookup name with
      | [], _ => .directory (putEntry name new entries)
      | _ :: _, some c => .directory (putEntry name (c.put rest new) entries)
      | _ :: _, none => .directory entries

mutual

/-- All files at and below a node, each with the names that lead to it. -/
def files : Node → List (List String × Content)
  | .file c => [([], c)]
  | .directory entries => entryFiles entries

def entryFiles : List (String × Node) → List (List String × Content)
  | [] => []
  | (name, n) :: rest => (files n).map (fun (names, c) => (name :: names, c)) ++ entryFiles rest

end

end Node

/-- Why an operation on the disk fails. -/
inductive DiskFailure where
  | notFound
  | exists
  | notDirectory
  | isDirectory
  | nameTooLong
  | nulInName
  | notText
  deriving DecidableEq, Repr

namespace DiskFailure

def message : DiskFailure → String
  | .notFound => "No such file or directory (os error 2)"
  | .exists => "File exists (os error 17)"
  | .notDirectory => "Not a directory (os error 20)"
  | .isDirectory => "Is a directory (os error 21)"
  | .nameTooLong => "File name too long (os error 36)"
  | .nulInName => "file name contained an unexpected NUL byte"
  | .notText => "stream did not contain valid UTF-8"

end DiskFailure

/-- The most bytes of a name and of a path, as far as there are limits. -/
structure DiskLimits where
  name : Option Nat
  path : Option Nat
  deriving DecidableEq, Repr

namespace DiskLimits

/-- Names and paths can be of any length. -/
def unlimited : DiskLimits := ⟨none, none⟩

def usual : DiskLimits := ⟨some 255, some 4095⟩

def allowsName (l : DiskLimits) (name : String) : Bool := l.name.all (name.utf8ByteSize ≤ ·)

def allowsPath (l : DiskLimits) (path : String) : Bool := l.path.all (path.utf8ByteSize ≤ ·)

theorem allowsName_unlimited (name : String) : unlimited.allowsName name = true := rfl

theorem allowsPath_unlimited (path : String) : unlimited.allowsPath path = true := rfl

end DiskLimits

/-- A disk, with the names that lead from its top to the working directory. -/
structure Disk where
  root : Node
  current : List String
  limits : DiskLimits
  deriving Repr

namespace Disk

/-- A disk with the usual limits and an empty working directory that these names lead to. -/
def empty (current : List String) : Disk :=
  ⟨current.foldr (fun name n => .directory [(name, n)]) (.directory []), current, .usual⟩

/-- What stands at the end of these names. -/
def get? (d : Disk) (names : List String) : Option Node := d.root.get? names

/-- The files of the working directory. -/
def files (d : Disk) : List (List String × Content) :=
  ((d.get? d.current).map Node.files).getD []

/-! ## Following paths -/

/-- What is wrong with a path wherever it leads. -/
def pathFailure? (d : Disk) (path : String) : Option DiskFailure :=
  if path.toList.contains (Char.ofNat 0) then some .nulInName
  else if path.isEmpty then some .notFound
  else if !d.limits.allowsPath path then some .nameTooLong
  else none

/-- Where a path starts. -/
def startOf (d : Disk) (path : String) : List String :=
  if FilePath.isAbsolute path then [] else d.current

/-- The directory at the end of these names. -/
def directory (d : Disk) (names : List String) : Except DiskFailure Unit :=
  match d.get? names with
  | some (.directory _) => .ok ()
  | some (.file _) => .error .notDirectory
  | none => .error .notFound

/-- Where one more piece of a path leads, from the names so far. -/
def follow (d : Disk) (names : List String) (piece : String) :
    Except DiskFailure (List String) := do
  d.directory names
  if piece.isEmpty || piece == "." then return names
  else if piece == ".." then return names.dropLast
  else if !d.limits.allowsName piece then .error .nameTooLong
  else
    match d.get? (names ++ [piece]) with
    | some _ => return names ++ [piece]
    | none => .error .notFound

/-- The names that a path leads to. -/
def locate (d : Disk) (path : String) : Except DiskFailure (List String) :=
  match d.pathFailure? path with
  | some e => .error e
  | none => (FilePath.pieces path).foldlM d.follow (d.startOf path)

/-! ## Asking and reading -/

def has (d : Disk) (path : String) : Bool :=
  match d.locate path with
  | .ok _ => true
  | .error _ => false

def hasDirectory (d : Disk) (path : String) : Bool :=
  match (d.locate path).bind d.directory with
  | .ok _ => true
  | .error _ => false

def read (d : Disk) (path : String) : Except DiskFailure String := do
  match d.get? (← d.locate path) with
  | some (.file (.text s)) => return s
  | some (.file (.binary _)) => .error .notText
  | some (.directory _) => .error .isDirectory
  | none => .error .notFound

/-! ## Writing -/

/-- A path up to its last name, with this name and whether slashes follow it. The last name of the
top is empty. -/
def splitLast (path : String) : List String × String × Bool :=
  match (FilePath.pieces path).reverse.dropWhile String.isEmpty with
  | [] => ([], "", true)
  | name :: before => (before.reverse, name, path.toList.getLast? == some '/')

/-- The directory that something new at a path would lie in, and its name there. The name can also
be one that nothing new can have. -/
def place (d : Disk) (path : String) : Except DiskFailure (List String × String × Bool) :=
  match d.pathFailure? path with
  | some e => .error e
  | none => do
      let (before, name, slashed) := splitLast path
      let dir ← before.foldlM d.follow (d.startOf path)
      d.directory dir
      return (dir, name, slashed)

/-- Whether nothing new can have this name. -/
def isTaken (name : String) : Bool := name.isEmpty || name == "." || name == ".."

def makeDirectory (d : Disk) (path : String) : Except DiskFailure Disk := do
  let (dir, name, _) ← d.place path
  if isTaken name then .error .exists
  else if !d.limits.allowsName name then .error .nameTooLong
  else
    match d.get? (dir ++ [name]) with
    | some _ => .error .exists
    | none => return { d with root := d.root.put (dir ++ [name]) (.directory []) }

/-- Makes the first of these directories, and before that the others as far as they are missing;
each lies in the next. -/
def makeDirectories (d : Disk) : List String → Disk × Option DiskFailure
  | [] => (d, none)
  | path :: outer =>
      if path.isEmpty || (FilePath.parent? path).isNone then (d, none)
      else
        match d.makeDirectory path with
        | .ok d => (d, none)
        | .error .notFound =>
            match d.makeDirectories outer with
            | (d, some e) => (d, some e)
            | (d, none) =>
                match d.makeDirectory path with
                | .ok d => (d, none)
                | .error e => (d, if d.hasDirectory path then none else some e)
        | .error e => (d, if d.hasDirectory path then none else some e)

/-- Fills the file at a path, which lies in a directory that has to be there. -/
def overwrite (d : Disk) (path : String) (content : Content) : Except DiskFailure Disk := do
  let (dir, name, slashed) ← d.place path
  if isTaken name || slashed then .error .isDirectory
  else if !d.limits.allowsName name then .error .nameTooLong
  else
    match d.get? (dir ++ [name]) with
    | some (.directory _) => .error .isDirectory
    | _ => return { d with root := d.root.put (dir ++ [name]) (.file content) }

/-- Fills the file at a path, and makes the directories it lies in. -/
def write (d : Disk) (path : String) (content : Content) : Disk × Option DiskFailure :=
  let (d, failure) := match FilePath.parent? path with
    | some dir => d.makeDirectories (FilePath.ancestors dir)
    | none => (d, none)
  match failure with
  | some e => (d, some e)
  | none =>
      match d.overwrite path content with
      | .ok d => (d, none)
      | .error e => (d, some e)

end Disk

end BuilderForge
