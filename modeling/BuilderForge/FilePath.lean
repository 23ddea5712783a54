import BuilderForge.Text.Split

set_option autoImplicit false

/-! # Paths of files

A path is a text whose names are divided by slashes; one that begins with a slash starts at the top
of the disk, any other in the working directory. Empty names and `.` mean nothing, except for a `.`
at the very beginning. The functions here only look at the text; what a path leads to is a matter of
`Disk`. -/

namespace BuilderForge.FilePath

/-- The names of a path, with the empty ones. -/
def pieces (path : String) : List String := (Text.splitAt '/' path.toList).map String.ofList

def isAbsolute (path : String) : Bool := path.toList.head? == some '/'

/-- The path `b`, starting from the directory `a`. -/
def join (a b : String) : String :=
  if isAbsolute b then b
  else if a.isEmpty || a.toList.getLast? == some '/' then a ++ b
  else a ++ "/" ++ b

/-- Names in reverse without those at the end of the path that mean nothing. What stands first in
the path is left: the empty name in front of a leading slash, or a `.`. -/
def trimEnd : List String → List String
  | [] => []
  | [first] => if first.isEmpty then [] else [first]
  | name :: before => if name.isEmpty || name == "." then trimEnd before else name :: before

/-- The names up to the last one that means something, in reverse. -/
def meaningful (path : String) : List String := trimEnd (pieces path).reverse

def ofReversed (absolute : Bool) (names : List String) : String :=
  match names with
  | [] => if absolute then "/" else ""
  | _ => "/".intercalate names.reverse

/-- The directory that the path lies in. The top and the working directory lie in none. -/
def parent? (path : String) : Option String :=
  match meaningful path with
  | [] => none
  | _ :: before => some (ofReversed (isAbsolute path) (trimEnd before))

def fileName? (path : String) : Option String :=
  match meaningful path with
  | [] => none
  | name :: _ => if name == "." || name == ".." then none else some name

/-- A name up to its last dot. A dot at the beginning is part of the name. -/
def stem (name : String) : String :=
  match name.toList.reverse.dropWhile (· != '.') with
  | _ :: c :: cs => String.ofList (c :: cs).reverse
  | _ => name

/-- The path, the directory it lies in, the one which that lies in, and so on: at most `n` more. -/
def outward (path : String) : Nat → List String
  | 0 => [path]
  | n + 1 =>
      match parent? path with
      | none => [path]
      | some p => path :: outward p n

/-- The path and all directories it lies in, the innermost first. -/
def ancestors (path : String) : List String := outward path path.length

end BuilderForge.FilePath
