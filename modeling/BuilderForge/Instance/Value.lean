set_option autoImplicit false

/-! # Values of fields

The values that fields hold while a program runs, each with its type. Assigning a field by name
compares types and nothing else, so that a `Value` says its type even where it holds nothing: an
empty list is a list of something. -/

namespace BuilderForge

/-- The type of a value. -/
inductive ValueType where
  | int (signed : Bool) (bits : Nat)
  | bool
  | unit
  | string
  | borrowedText
  | float
  | option (of : ValueType)
  | list (of : ValueType)
  | map (key value : ValueType)
  | struct (path : String)
  deriving DecidableEq, Repr

namespace ValueType

/-- The type as messages spell it: with the full path of every name that is not built in. -/
def name : ValueType → String
  | .int signed bits => (if signed then "i" else "u") ++ toString bits
  | .bool => "bool"
  | .unit => "()"
  | .string => "alloc::string::String"
  | .borrowedText => "&str"
  | .float => "f64"
  | .option t => "core::option::Option<" ++ t.name ++ ">"
  | .list t => "alloc::vec::Vec<" ++ t.name ++ ">"
  | .map k v => "alloc::collections::btree::map::BTreeMap<" ++ k.name ++ ", " ++ v.name ++ ">"
  | .struct path => path

end ValueType

/-- A value. A number with a point is its bits, and a map is its entries in the order of keys. -/
inductive Value where
  | int (signed : Bool) (bits : Nat) (n : Int)
  | bool (b : Bool)
  | unit
  | string (s : String)
  | borrowedText (s : String)
  | float (bits : UInt64)
  | nothing (of : ValueType)
  | some (v : Value)
  | list (of : ValueType) (items : List Value)
  | map (key value : ValueType) (entries : List (Value × Value))
  | struct (path : String) (fields : List (String × Value))
  deriving Repr

namespace Value

def type : Value → ValueType
  | .int signed bits _ => .int signed bits
  | .bool _ => .bool
  | .unit => .unit
  | .string _ => .string
  | .borrowedText _ => .borrowedText
  | .float _ => .float
  | .nothing t => .option t
  | .some v => .option v.type
  | .list t _ => .list t
  | .map k v _ => .map k v
  | .struct path _ => .struct path

end Value

end BuilderForge
