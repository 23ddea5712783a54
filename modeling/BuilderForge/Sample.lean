import BuilderForge.Instance

set_option autoImplicit false

/-! # Sample types

Structs that builders are tried out on: plain ones, chains of parents, a field that hides one of the
parent, names that are keywords, and every way in which a value can be made without arguments or
fail to be. -/

namespace BuilderForge

open Code (Ident)

/-- A struct to try builders on. `zeroArg` is what its constructor without arguments does, if it
has one. A struct that is not `built` is only a parent of others. -/
structure Sample where
  name : String
  module : String
  built : Bool
  zeroArg : Option (Outcome Instance)

namespace Sample

/-- The type of a struct in a module of the samples. -/
def typeIn (module name : String) : ValueType :=
  .struct ("testbuilder_fixtures::" ++ module ++ "::" ++ name)

def type (s : Sample) : ValueType := typeIn s.module s.name

/-! ## Values -/

def i32 (n : Int) : Value := .int true 32 n
def i64 (n : Int) : Value := .int true 64 n
def u8 (n : Int) : Value := .int false 8 n
def u32 (n : Int) : Value := .int false 32 n
def u64 (n : Int) : Value := .int false 64 n

def point (x y : Int) : Value :=
  .struct "testbuilder_fixtures::shapes::Point" [("x", i32 x), ("y", i32 y)]

/-- A tag, which is a tuple of one text. -/
def tag (s : String) : Value :=
  .struct "testbuilder_fixtures::animals::Tag" [("0", .borrowedText s)]

def optionalText (s : Option String) : Value :=
  match s with
  | some s => .some (.string s)
  | none => .nothing .string

def numbers (ns : List Int) : Value := .list (.int true 64) (ns.map i64)
def texts (ss : List String) : Value := .list .string (ss.map .string)
def tags (ss : List String) : Value := .list (typeIn "animals" "Tag") (ss.map tag)

def counts (entries : List (String × Nat)) : Value :=
  .map .string (.int false 32) (entries.map fun (k, n) => (.string k, u32 n))

/-! ## Instances -/

def slot (name : String) (v : Value) : Slot := ⟨⟨name, false⟩, v⟩

/-- A slot whose name is a keyword. -/
def rawSlot (name : String) (v : Value) : Slot := ⟨⟨name, true⟩, v⟩

def pointInstance (x y : Int) : Instance :=
  .root (typeIn "shapes" "Point") [slot "x" (i32 x), slot "y" (i32 y)]

def circleInstance : Instance :=
  .root (typeIn "shapes" "Circle") [slot "center" (point 0 0), slot "radius" (.float 0)]

def tokenInstance : Instance :=
  .root (typeIn "tokens" "Token")
    [rawSlot "type" (.string ""), slot "value" (.string ""), rawSlot "static" (.bool false)]

def animalInstance : Instance :=
  .root (typeIn "animals" "Animal")
    [slot "name" (.string ""), slot "legs" (u8 0), slot "tags" (tags [])]

def petInstance : Instance :=
  .child (typeIn "animals" "Pet") [slot "owner" (optionalText none)] ⟨"animal", false⟩
    animalInstance

def dogInstance : Instance :=
  .child (typeIn "animals::dog" "Dog") [slot "breed" (.string ""), slot "toys" (counts [])]
    ⟨"pet", false⟩ petInstance

def recordInstance : Instance :=
  .root (typeIn "accounts" "Record") [slot "id" (u64 0), slot "created_by" (.string "")]

/-- Its `id` hides that of the record. -/
def invoiceInstance : Instance :=
  .child (typeIn "accounts" "Invoice") [slot "id" (.string ""), slot "amount_cents" (i64 0)]
    ⟨"record", false⟩ recordInstance

def accountInstance (id : Nat) (frozen : Bool) : Instance :=
  .root (typeIn "accounts" "Account")
    [slot "id" (u64 id), slot "balance_cents" (i64 0), slot "frozen" (.bool frozen)]

def ledgerInstance (entries : List Int) : Instance :=
  .root (typeIn "accounts" "Ledger") [slot "entries" (numbers entries)]

def vaultInstance (secret : String) : Instance :=
  .root (typeIn "accounts" "Vault") [slot "secret" (.string secret)]

/-! ## The samples -/

/-- A struct whose constructor without arguments returns `x`. -/
def plain (module name : String) (x : Instance) : Sample := ⟨name, module, true, some (.returned x)⟩

/-- A struct that is only a parent of others. -/
def parentOnly (module name : String) (x : Instance) : Sample :=
  { plain module name x with built := false }

/-- All samples. An account is frozen until it has been reviewed, a ledger cannot be made without
arguments, and the constructor of a vault panics. -/
def all : List Sample :=
  [plain "shapes" "Point" (pointInstance 0 0), plain "shapes" "Circle" circleInstance,
    plain "tokens" "Token" tokenInstance, parentOnly "animals" "Animal" animalInstance,
    parentOnly "animals" "Pet" petInstance, plain "animals::dog" "Dog" dogInstance,
    parentOnly "accounts" "Record" recordInstance, plain "accounts" "Invoice" invoiceInstance,
    plain "accounts" "Account" (accountInstance 0 true), ⟨"Ledger", "accounts", true, none⟩,
    ⟨"Vault", "accounts", true, some (.panicked (.text "vault is sealed"))⟩]

/-- The sample of a name. -/
def named? (name : String) : Option Sample := all.find? fun s => s.name == name

/-- A value of the struct, made without arguments. -/
def instantiate (s : Sample) : Except ConstructFailure Instance :=
  match s.zeroArg with
  | none => .error (.noZeroArgConstructor s.type)
  | some outcome => construct s.type outcome

/-- The target of a new builder. -/
def start (s : Sample) : Except Fault Instance :=
  match s.instantiate with
  | .ok x => .ok x
  | .error cause => .error (.instantiate s.type cause)

/-- What a ledger shows of itself: the sum of its entries. -/
def total : Value → Int
  | .list _ items =>
      items.foldl (fun sum v => match v with
        | .int _ _ n => sum + n
        | _ => sum) 0
  | _ => 0

end Sample

end BuilderForge
