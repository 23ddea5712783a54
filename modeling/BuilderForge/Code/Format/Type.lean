import BuilderForge.Code.Format.Attribute

set_option autoImplicit false

/-! # Formatting types

Types, paths with their arguments, bounds, generic parameters and `where` clauses. A list that does
not fit on its line has one element per line and a comma behind the last. -/

namespace BuilderForge.Code.Format

open Layout

/-! ## Lists -/

/-- Elements between delimiters, which are broken all together. -/
def enclosed (opening : String) (elements : List (List Doc)) (closing : String) : List Doc :=
  word opening ++ indented (zeroBreak ++ commaRow elements) ++ word closing

/-- Elements between delimiters as `enclosed`, with a comma also behind a single one. -/
def enclosedTuple (opening : String) (elements : List (List Doc)) (closing : String) : List Doc :=
  match elements with
  | [e] => word opening ++ indented (zeroBreak ++ e ++ word "," ++ zeroBreak) ++ word closing
  | _ => enclosed opening elements closing

/-- Elements with a text between them. -/
def joinedBy (s : String) (elements : List (List Doc)) : List Doc :=
  inRow (fun e isLast => e ++ if isLast then [] else word s) elements

/-- Bounds behind a text, each of which can begin a line. -/
def boundRow (front : String) (bounds : List (List Doc)) : List Doc :=
  match bounds with
  | [] => []
  | b :: bs => word front ++ b ++ bs.flatMap fun b => spaceBreak ++ word "+ " ++ b

/-- The parameters or arguments among the parts of a node, separators among them. -/
def parametersOf (parts : List Tree) : List Tree :=
  parts.flatMap fun
    | .node .parameters ts => ts
    | _ => []

/-- Generic parameters or arguments in the order they are written in: lifetimes first. -/
def lifetimesFirst (parts : List Tree) : List Tree :=
  parts.filter Tree.isLifetime ++ parts.filter fun t => !t.isLifetime

/-! ## Paths -/

def returnType (f : Formatter) : Tree → List Doc
  | .node .returnType [_, t] => word " -> " ++ f.type t
  | _ => []

def bound (f : Formatter) : Tree → List Doc
  | .node .traitBound [.group .paren parts] => word "(" ++ parts.flatMap f.type ++ word ")"
  | .node .traitBound parts => parts.flatMap f.type
  | .raw ts => word ts.display
  | t => f.type t

def angleArguments (f : Formatter) (turbofish : Bool) (parts : List Tree) : List Doc :=
  let args := elements "," (parametersOf parts)
  let argument : Tree → List Doc
    | .node .constArg [t] => f.expr false t
    | .node .assocType [i, args, _, t] => f.type i ++ f.type args ++ word " = " ++ f.type t
    | .node .assocConst [i, args, _, v] =>
        f.type i ++ f.type args ++ word " = " ++ f.expr false v
    | .node .constraint (i :: args :: _ :: bounds) =>
        f.type i ++ f.type args
          ++ ibox indentation (boundRow ": " ((elements "+" bounds).map (bound f)))
    | t => f.type t
  if args.isEmpty then []
  else enclosed (if turbofish then "::<" else "<") ((lifetimesFirst args).map argument) ">"

/-- The arguments of one name of a path; `value` says whether the path names a value. -/
def pathArguments (f : Formatter) (value : Bool) : Tree → List Doc
  | .node .angleArgs parts => angleArguments f value parts
  | .node .parenArgs [.group .paren inputs, output] =>
      cbox indentation
        (shift (-indentation)
          (word "(" ++ zeroBreak ++ commaRow ((elements "," inputs).map f.type))
          ++ word ")" ++ returnType f output)
  | _ => []

def segments (f : Formatter) (value : Bool) (ss : List Segment) : List Doc :=
  inRow (fun s isLast => word s.ident.text ++ (s.arguments.map (pathArguments f value)).getD []
    ++ if isLast then [] else word "::") ss

def path (f : Formatter) (value leading : Bool) (ss : List Segment) : List Doc :=
  word (if leading then "::" else "") ++ segments f value ss

/-- A path that begins with a type in angle brackets. -/
def qualifiedPath (f : Formatter) (value : Bool) : Tree → List Doc
  | .node .qualified [_, t, asTrait, _, _, rest] =>
      let trait := match asTrait with
        | .node .asTrait [_, .path _ leading ss] => word " as " ++ path f false leading ss
        | _ => []
      let rest := match rest with
        | .path _ _ ss => segments f value ss
        | _ => []
      word "<" ++ f.type t ++ trait ++ word ">::" ++ rest
  | _ => []

/-! ## Parameters -/

def parameterDefault (f : Formatter) (t : Tree) : List Doc :=
  if t.isAbsent then [] else spaceBreak ++ word "= " ++ f.type t

def genericParam (f : Formatter) : Tree → List Doc
  | .node .lifetimeParam [attrs, a, _, bounds] =>
      attributes f attrs ++ word (plain a)
        ++ match elements "+" (partsOf bounds) with
          | [] => []
          | bs => word ": " ++ joinedBy " + " (bs.map fun b => word (plain b))
  | .node .typeParam [attrs, i, _, bounds, _, default] =>
      attributes f attrs ++ word (plain i)
        ++ ibox indentation (boundRow ": " ((elements "+" (partsOf bounds)).map (bound f))
          ++ parameterDefault f default)
  | .node .constParam [attrs, _, i, _, t, _, default] =>
      attributes f attrs ++ word ("const " ++ plain i ++ ": ") ++ f.type t
        ++ if default.isAbsent then [] else word " = " ++ f.expr false default
  | _ => []

def generics (f : Formatter) : Tree → List Doc
  | .node .generics parts =>
      let params := lifetimesFirst (elements "," (parametersOf parts))
      word "<"
        ++ cbox 0 (shift (-indentation) (zeroBreak ++ commaRow (params.map (genericParam f))))
        ++ word ">"
  | _ => []

def binder (f : Formatter) : Tree → List Doc
  | .node .boundLifetimes parts =>
      word "for<" ++ joinedBy ", " ((elements "," ((parts.drop 2).dropLast)).map (genericParam f))
        ++ word "> "
  | _ => []

def predicate (f : Formatter) : Tree → List Doc
  | .node .predicate [lifetimes, t, _, bounds] =>
      let bounds := elements "+" (partsOf bounds)
      let offset := match t, bounds with
        | .lifetime _, _ => indentation
        | _, [_] => 0
        | _, _ => indentation
      binder f lifetimes ++ f.type t ++ word ":"
        ++ ibox offset (boundRow " " (bounds.map (bound f)))
  | _ => []

def predicates : Tree → List Tree
  | .node .whereClause (_ :: ps) => elements "," ps
  | _ => []

/-- A `where` clause in front of a body, or of a semicolon. It stands on lines of its own. -/
def whereClause (f : Formatter) (semicolon : Bool) (clause : Tree) : List Doc :=
  match predicates clause with
  | [] => word (if semicolon then ";" else " ")
  | ps =>
      let rows := inRow (fun p isLast => predicate f p
        ++ if isLast && semicolon then word ";" else word "," ++ hardBreak) ps
      shift (-indentation) hardBreak ++ word "where" ++ hardBreak
        ++ if semicolon then rows else shift (-indentation) rows

/-- A `where` clause that stands on one line if it fits. -/
def whereClauseInline (f : Formatter) (semicolon : Bool) (clause : Tree) : List Doc :=
  match predicates clause with
  | [] => word (if semicolon then ";" else " ")
  | ps =>
      let rows := inRow (fun p isLast => predicate f p
        ++ if isLast && semicolon then word ";" else trailingCommaOrSpace isLast) ps
      shift (-indentation) spaceBreak ++ word "where" ++ spaceBreak
        ++ if semicolon then rows else shift (-indentation) rows

/-! ## Types -/

def abi : Tree → List Doc
  | .node .abi [_, name] => word "extern " ++ if name.isAbsent then [] else word (plain name ++ " ")
  | _ => []

def functionTypeParam (f : Formatter) : Tree → List Doc
  | .node .functionParam [attrs, i, _, t] =>
      attributes f attrs ++ (if i.isAbsent then [] else word (plain i ++ ": ")) ++ f.type t
  | .node .variadicParam [attrs, i, _, _, _] =>
      attributes f attrs ++ (if i.isAbsent then [] else word (plain i ++ ": ")) ++ word "..."
  | t => f.type t

def isVariadic : Tree → Bool
  | .node .variadicParam _ => true
  | _ => false

/-- Parameters with commas between them. No comma follows one that stands for the rest. -/
def parameterRow (one : Tree → List Doc) (params : List Tree) : List Doc :=
  inRow (fun p isLast => one p
    ++ if isVariadic p then zeroBreak else trailingComma isLast) params

/-- A type, a bound, or a part of either. -/
def typeDocs (f : Formatter) : Tree → List Doc
  | .node .arrayType [.group _ [element, _, length]] =>
      word "[" ++ f.type element ++ word "; " ++ f.expr false length ++ word "]"
  | .node .sliceType [.group _ [element]] => word "[" ++ f.type element ++ word "]"
  | .node .functionType [lifetimes, isUnsafe, convention, _, .group _ params, output] =>
      binder f lifetimes ++ optional isUnsafe "unsafe " ++ abi convention ++ word "fn("
        ++ indented (zeroBreak ++ parameterRow (functionTypeParam f) (elements "," params))
        ++ word ")" ++ returnType f output
  | .node .implType (_ :: bounds) =>
      word "impl " ++ joinedBy " + " ((elements "+" bounds).map (bound f))
  | .node .traitObject (_ :: bounds) =>
      word "dyn " ++ joinedBy " + " ((elements "+" bounds).map (bound f))
  | .node .parenType [.group _ [t]] => word "(" ++ f.type t ++ word ")"
  | .node .pointerType [_, m, t] => word ("*" ++ plain m ++ " ") ++ f.type t
  | .node .referenceType [_, a, m, t] =>
      word "&" ++ (if a.isAbsent then [] else word (plain a ++ " ")) ++ optional m "mut "
        ++ f.type t
  | .node .tupleType [.group _ ts] => enclosedTuple "(" ((elements "," ts).map f.type) ")"
  | .node .macroCall [p, _, .group d [.raw ts]] => macroCall p Tree.absent d ts false
  | .node .boundLifetimes parts => binder f (.node .boundLifetimes parts)
  | .node .traitBound parts => bound f (.node .traitBound parts)
  | .node .angleArgs parts => angleArguments f false parts
  | .node .preciseCapture parts =>
      word "use<" ++ joinedBy ", " ((elements "," (parametersOf parts)).map
        fun t => word (plain t)) ++ word ">"
  | .node .qualified parts => qualifiedPath f false (.node .qualified parts)
  | .path _ leading ss => path f false leading ss
  | .node .absent _ => []
  | t => word (plain t)

end BuilderForge.Code.Format
