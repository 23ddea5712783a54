import BuilderForge.Proofs.Derive.Grammar
import BuilderForge.Proofs.Text.Quoting

set_option autoImplicit false

/-! # What a derive writes

The code of a derive is read here without knowing how it is put together: its implementations, the
functions in them, and the arms of a match. From the code for an accepted struct one reads an arm
for each field of its own, which goes by the name without the mark of a raw identifier, and a last
arm for the parent or for no field at all; and the call of the last constructor, or of the default
(`Derive.codeFor_testBuilder`).
-/

namespace BuilderForge

open Code (Attribute Fields Ident Item Tokens)
open Code.Tokens

/-! ## Reading code -/

/-- The bodies that traits have in code, each with what stands between `impl` and the body. -/
def implBodies (head : Option Tokens) : Tokens → List (Tokens × Tokens)
  | [] => []
  | .leaf (.word i) s :: ts =>
      match head with
      | none => implBodies (if i = ⟨"impl", false⟩ then some [] else none) ts
      | some front => implBodies (some (front ++ [.leaf (.word i) s])) ts
  | .group .brace body _ _ :: ts =>
      match head with
      | none => implBodies none ts
      | some front => (front, body) :: implBodies none ts
  | t :: ts => implBodies (head.map (· ++ [t])) ts

/-- The functions in a body, each with its own body. -/
def functions (name : Option Ident) : Tokens → List (Ident × Tokens)
  | [] => []
  | .leaf (.word kw) _ :: ts =>
      match ts with
      | .leaf (.word i) _ :: _ => functions (if kw = ⟨"fn", false⟩ then some i else name) ts
      | _ => functions name ts
  | .group .brace body _ _ :: ts =>
      match name with
      | none => functions none ts
      | some i => (i, body) :: functions none ts
  | _ :: ts => functions name ts

/-- How far an arm of a match is read: within its pattern, or within what it does. -/
inductive ArmPart where
  | pattern (read : Tokens)
  | body (pattern read : Tokens)

/-- The arms of a match: their patterns, and what they do. An arm ends behind a block or at a
comma. -/
def armsFrom : ArmPart → Tokens → List (Tokens × Tokens)
  | .pattern _, [] => []
  | .body p b, [] => [(p, b)]
  | .pattern [], .leaf (.punct ',' _) _ :: ts => armsFrom (.pattern []) ts
  | .pattern p, .leaf (.punct '=' true) _ :: .leaf (.punct '>' _) _ :: ts =>
      armsFrom (.body p []) ts
  | .pattern p, t :: ts => armsFrom (.pattern (p ++ [t])) ts
  | .body p b, .leaf (.punct ',' _) _ :: ts => (p, b) :: armsFrom (.pattern []) ts
  | .body p [], .group .brace body o c :: ts =>
      (p, [.group .brace body o c]) :: armsFrom (.pattern []) ts
  | .body p b, t :: ts => armsFrom (.body p (b ++ [t])) ts

/-- What an arm of a match on a text is for. -/
inductive ArmKey where
  | name (text : String)
  | anything
  deriving DecidableEq, Repr

/-- The key that a pattern stands for. -/
def armKey? : Tokens → Option ArmKey
  | [.leaf (.literal l) _] => (Code.StringLiteral.text? l).map .name
  | [.leaf (.word i) _] => if i = ⟨"_", false⟩ then some .anything else none
  | _ => none

/-- The arms of a match on a text, by their keys. -/
def keyedArms (ts : Tokens) : List (Option ArmKey × Tokens) :=
  (armsFrom (.pattern []) ts).map fun (pattern, body) => (armKey? pattern, body)

/-! ## The code in question -/

/-- The call of a function. -/
def callOf (function : Tokens) (args : List Tokens) : Tokens :=
  function ++ parens ((op ",").intercalate args)

/-- A reference to a field that can be written. -/
def fieldReference (i : Ident) : Tokens := spell "& mut self ." ++ ident i

/-- Assigns the value to a field. -/
def assignmentOf (i : Ident) : Tokens :=
  callOf (spell ":: testbuilder :: __private :: assign")
    [fieldReference i, callOf (spell ":: core :: any :: type_name :: < Self >") [], word "field",
      word "value"]

/-- Leaves the name to a parent, or says that there is no such field. -/
def fallbackOf : Option Ident → Tokens
  | some link =>
      callOf (spell ":: testbuilder :: FieldAccess :: set_field")
        [fieldReference link, word "field", word "value"]
  | none =>
      braces (callOf (word "drop") [word "value"] ++ op ";"
        ++ callOf (spell ":: core :: result :: Result :: Err")
          [callOf (spell ":: testbuilder :: __private :: not_found") [word "field"]])

theorem armsFrom_arm (a : Arm) (ts : Tokens) :
    armsFrom (.pattern []) (a.tokens ++ ts)
      = (text a.key, assignmentOf a.field) :: armsFrom (.pattern []) ts := rfl

theorem armsFrom_arms (arms : List Arm) (ts : Tokens) :
    armsFrom (.pattern []) (arms.flatMap Arm.tokens ++ ts)
      = arms.map (fun a => (text a.key, assignmentOf a.field)) ++ armsFrom (.pattern []) ts := by
  induction arms with
  | nil => rfl
  | cons a arms ih =>
      rw [List.flatMap_cons, List.append_assoc, armsFrom_arm, ih]
      rfl

theorem armsFrom_fallback (link : Option Ident) :
    armsFrom (.pattern []) (FieldMatch.ofFields [] link).fallback.tokens
      = [(word "_", fallbackOf link)] := by
  cases link <;> rfl

theorem armKey?_text (s : String) : armKey? (text s) = some (.name s) := by
  show (Code.StringLiteral.text? (Text.quoteCode s)).map ArmKey.name = _
  rw [Code.StringLiteral.text?_quoteCode]
  rfl

/-- The arms of a match on the names of fields. -/
theorem keyedArms_ofFields (own : List Ident) (link : Option Ident) :
    keyedArms ((FieldMatch.ofFields own link).arms.flatMap Arm.tokens
        ++ (FieldMatch.ofFields own link).fallback.tokens)
      = own.map (fun i => (some (.name i.name), assignmentOf i))
        ++ [(some .anything, fallbackOf link)] := by
  -- behind the arms of the fields the match goes on with the last one
  have hfallback : armsFrom (.pattern []) (FieldMatch.ofFields own link).fallback.tokens
      = [(word "_", fallbackOf link)] := armsFrom_fallback link
  rw [keyedArms, armsFrom_arms, hfallback, List.map_append]
  congr 1
  simp only [FieldMatch.ofFields, List.map_map]
  exact List.map_congr_left fun i _ => congrArg (·, assignmentOf i) (armKey?_text i.name)

/-- What stands between `impl` and the body of a trait for a type. -/
def traitFor (trait : String) (type : Ident) : Tokens :=
  spell (":: testbuilder :: " ++ trait ++ " for") ++ ident type

theorem implBodies_expand (s : DerivedStruct) :
    implBodies none (Derive.testBuilder.expand s)
      = [(traitFor "FieldAccess" s.ident, s.setFieldMethod.tokens),
          (traitFor "Instantiate" s.ident, s.instantiateMethod.tokens)] := rfl

theorem functions_setFieldMethod (s : DerivedStruct) :
    functions none s.setFieldMethod.tokens
      = [(⟨"set_field", false⟩, spell "match field" ++ braces
          (s.fieldMatch.arms.flatMap Arm.tokens ++ s.fieldMatch.fallback.tokens))] := rfl

theorem functions_instantiateMethod (s : DerivedStruct) :
    functions none s.instantiateMethod.tokens
      = [(⟨"instantiate", false⟩, s.construction.tokens)] := rfl

theorem display_probe : Construction.probe.tokens.display
    = "# [allow (unused_imports)] use :: testbuilder :: __private :: "
      ++ "\x7b ViaDefault as _ , ViaMissing as _ \x7d ; "
      ++ "(& :: testbuilder :: __private :: Probe :: < Self > :: new ()) . zero_arg ()" := by
  decide +kernel

/-! ## The result -/

/-- An item that a derive accepts. -/
def ItemIsAccepted : Item → Prop
  | .struct attrs _ _ _ g fields => IsAccepted attrs g fields
  | _ => False

/-- The code that makes a value without arguments: a call of the constructor, or of what falls back
upon the default. -/
def IsInstantiation (constructor : Option Code.Path) (body : Tokens) : Prop :=
  match constructor with
  | some path => body = callOf (spell ":: testbuilder :: __private :: construct") [path.tokens]
  | none => body.display
      = "# [allow (unused_imports)] use :: testbuilder :: __private :: "
        ++ "\x7b ViaDefault as _ , ViaMissing as _ \x7d ; "
        ++ "(& :: testbuilder :: __private :: Probe :: < Self > :: new ()) . zero_arg ()"

/-- What the code of a derive says about a struct: the name of each of its own fields stands for an
assignment to this field, any other name for the fallback, and a value is made as given. -/
def IsExpansion (type : Ident) (own : List Ident) (link : Option Ident)
    (constructor : Option Code.Path) (code : Tokens) : Prop :=
  ∃ access construction arms body,
    implBodies none code
        = [(traitFor "FieldAccess" type, access), (traitFor "Instantiate" type, construction)]
      ∧ functions none access = [(⟨"set_field", false⟩, spell "match field" ++ braces arms)]
      ∧ keyedArms arms = own.map (fun i => (some (.name i.name), assignmentOf i))
        ++ [(some .anything, fallbackOf link)]
      ∧ functions none construction = [(⟨"instantiate", false⟩, body)]
      ∧ IsInstantiation constructor body

namespace Derive

/-- The code that a derive puts beside an item. -/
def codeFor (d : Derive) (item : Item) : Except Refusal Tokens := do
  return d.expand (← d.accept item)

theorem isInstantiation_construction (s : DerivedStruct) :
    IsInstantiation s.constructor s.construction.tokens := by
  unfold DerivedStruct.construction
  cases s.constructor with
  | some path =>
      have hargs : (op ",").intercalate [path.tokens] = path.tokens := by simp [List.intercalate]
      rw [IsInstantiation, callOf, hargs]
      rfl
  | none => exact display_probe

theorem isExpansion_expand (s : DerivedStruct) :
    IsExpansion s.ident s.fields s.parent s.constructor (testBuilder.expand s) := by
  refine ⟨_, _, _, _, implBodies_expand s, functions_setFieldMethod s, ?_,
    functions_instantiateMethod s, isInstantiation_construction s⟩
  exact keyedArms_ofFields s.fields s.parent

theorem codeFor_eq_ok_iff {d : Derive} {item : Item} {code : Tokens} :
    d.codeFor item = .ok code ↔ ∃ s, d.accept item = .ok s ∧ d.expand s = code := by
  rw [codeFor, bind_eq_ok_iff]
  simp only [pure_eq_ok_iff, eq_comm (a := code)]

/-- **The derive accepts what its grammar allows, and writes what it read.** There is code for an
item exactly if this is a struct that is accepted. The code has an arm for each field that is not
marked, in order and by its name without the mark of a raw identifier, which assigns this field; all
other names are left to the marked field, or are not found if there is none. A value is made by the
last of the constructors given, or from the default if none is. -/
theorem codeFor_testBuilder (item : Item) :
    ((∃ code, testBuilder.codeFor item = .ok code) ↔ ItemIsAccepted item)
      ∧ ∀ code, testBuilder.codeFor item = .ok code →
        ∃ attrs vis i span g fields paths, item = .struct attrs vis i span g fields
          ∧ GiveConstructors attrs paths
          ∧ IsExpansion i (ownFields fields.byName) (linkFields fields.byName).head? paths.getLast?
            code := by
  simp only [codeFor_eq_ok_iff]
  cases item with
  | struct attrs vis i span g fields =>
      have accepted (s : DerivedStruct) :
          testBuilder.accept (.struct attrs vis i span g fields) = .ok s ↔ _ :=
        acceptStruct_iff_isAccepted
      refine ⟨⟨?_, fun h => ?_⟩, ?_⟩
      · rintro ⟨_, s, hs, rfl⟩
        exact ((accepted s).mp hs).1
      · obtain ⟨paths, hpaths⟩ := exists_giveConstructors_iff.mpr h.constructors
        exact ⟨_, _, (accepted _).mpr ⟨h, paths, hpaths, rfl⟩, rfl⟩
      · rintro _ ⟨s, hs, rfl⟩
        obtain ⟨-, paths, hpaths, rfl⟩ := (accepted s).mp hs
        exact ⟨attrs, vis, i, span, g, fields, paths, rfl, hpaths,
          isExpansion_expand ⟨i, ownFields fields.byName, (linkFields fields.byName).head?,
            paths.getLast?⟩⟩
  | _ =>
      refine ⟨⟨?_, fun h => h.elim⟩, ?_⟩
      · rintro ⟨_, s, hs, -⟩
        cases hs
      · rintro _ ⟨s, hs, -⟩
        cases hs

/-- The code for a dog, whose last field has no mark. -/
theorem codeFor_dog : ∃ code, testBuilder.codeFor (dog []) = .ok code
    ∧ IsExpansion ⟨"Dog", false⟩ [⟨"breed", false⟩, ⟨"age", false⟩] (some ⟨"animal", false⟩) none
      code := by
  have hok : (testBuilder.codeFor (dog [])).toOption.isSome = true := by decide +kernel
  cases hcode : testBuilder.codeFor (dog []) with
  | error e =>
      rw [hcode] at hok
      cases hok
  | ok code =>
      obtain ⟨attrs, vis, i, span, g, fields, paths, hitem, ⟨lists, hlists, rfl⟩, hreads⟩ :=
        (codeFor_testBuilder (dog [])).2 code hcode
      obtain ⟨rfl, -, rfl, -, -, rfl⟩ := Item.struct.inj hitem
      have hown : ownFields (dogFields []).byName = [⟨"breed", false⟩, ⟨"age", false⟩] := by
        decide +kernel
      have hlink : linkFields (dogFields []).byName = [⟨"animal", false⟩] := by decide +kernel
      cases hlists
      rw [hown, hlink] at hreads
      exact ⟨code, rfl, hreads⟩

end Derive

end BuilderForge
