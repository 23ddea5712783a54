import BuilderForge.Code.Format.Expr

set_option autoImplicit false

/-! # Formatting items

Every item stands on lines of its own, behind the lines of its attributes. The members between the
braces of an item do as well. -/

namespace BuilderForge.Code.Format

open Layout

/-! ## Parts of items -/

def visibility : Tree → List Doc
  | .node .visibility [_] => word "pub "
  | .node .visibility [_, .group _ [_, p]] =>
      let short := match p with
        | .path _ leading segments =>
            let p : Path := ⟨leading, segments⟩
            p.isName "self" || p.isName "super" || p.isName "crate"
        | _ => false
      word (if short then "pub(" else "pub(in ") ++ simplePath p ++ word ") "
  | _ => []

def field (f : Formatter) : Tree → List Doc
  | .node .fieldDecl [attrs, vis, i, _, t] =>
      attributes f attrs ++ visibility vis
        ++ (if i.isAbsent then [] else word (plain i ++ ": ")) ++ f.type t
  | _ => []

def tupleFields (f : Formatter) (fields : List Tree) : List Doc :=
  word "(" ++ shift (-indentation) (zeroBreak ++ commaRow (fields.map (field f))) ++ word ")"

/-- The attributes at the beginning of a body, and what stands behind them. -/
def bodyParts (body : List Tree) : Tree × List Tree :=
  match body with
  | .node .attributes attrs :: members => (.node .attributes attrs, members)
  | members => (Tree.absent, members)

/-- An item whose members stand between braces, behind `head`. -/
def braced (f : Formatter) (head : List Doc) (member : Tree → List Doc) (body : List Tree) :
    List Doc :=
  let (attrs, members) := bodyParts body
  indented (head ++ word "\x7b" ++ hardBreakIfNonempty ++ attributes f attrs
    ++ members.flatMap member) ++ word "\x7d" ++ hardBreak

def variant (f : Formatter) : Tree → List Doc
  | .node .variant [attrs, i, fields, _, value] =>
      let fields := match fields with
        | .node .fields [.group .brace fs] =>
            let fs := elements "," fs
            word " \x7b" ++ indented (spaceBreak ++ inRow (fun x isLast =>
              field f x ++ trailingCommaOrSpace isLast) fs) ++ word "\x7d"
        | .node .fields [.group _ fs] => cbox indentation (tupleFields f (elements "," fs))
        | _ => []
      attributes f attrs ++ word (plain i) ++ fields
        ++ (if value.isAbsent then [] else word " = " ++ f.expr false value)
        ++ word "," ++ hardBreak
  | _ => []

/-! ## Functions -/

def functionInput (f : Formatter) : Tree → List Doc
  | .node .receiver [attrs, ampersand, a, m, s, _, t] =>
      attributes f attrs ++ optional ampersand "&"
        ++ (if a.isAbsent then [] else word (plain a ++ " ")) ++ optional m "mut "
        ++ word (plain s) ++ if t.isAbsent then [] else word ": " ++ f.type t
  | .node .variadicParam [attrs, name, _, _] =>
      attributes f attrs
        ++ (match name with
          | .node .sequence [p, _] => f.pattern p ++ word ": "
          | _ => [])
        ++ word "..."
  | t => f.pattern t

/-- The head of a function without its `where` clause; second, the clause. -/
def signature (f : Formatter) : Tree → List Doc × Tree
  | .node .sequence [default, head] =>
      let (docs, clause) := signature f head
      (optional default "default " ++ docs, clause)
  | .node .signature
      [isConst, isAsync, isUnsafe, convention, _, i, params, .group _ inputs, output, clause] =>
      (optional isConst "const " ++ optional isAsync "async " ++ optional isUnsafe "unsafe "
        ++ abi convention ++ word ("fn " ++ plain i) ++ generics f params ++ word "(" ++ neverBreak
        ++ cbox 0 (shift (-indentation)
          (zeroBreak ++ parameterRow (functionInput f) (elements "," inputs)))
        ++ word ")" ++ cbox (-indentation) (returnType f output), clause)
  | _ => ([], Tree.absent)

def functionDocs (f : Formatter) : Tree → List Doc
  | .node .functionItem [attrs, vis, head, .group _ body] =>
      let (head, clause) := signature f head
      attributes f attrs
        ++ braced f (visibility vis ++ head ++ whereClause f false clause) f.statement body
  | .node .functionItem [attrs, vis, head, _] =>
      let (head, clause) := signature f head
      attributes f attrs ++ cbox indentation (visibility vis ++ head ++ whereClause f true clause)
        ++ hardBreak
  | _ => []

/-! ## Imports -/

/-- Whether what a `use` item brings in is the module that the path in front of it leads to, so that
it cannot stand without braces. -/
def bringsInSelf : Tree → Bool
  | .node .useTree [.word i] => i.isWritten "self"
  | .node .useTree [.word i, .word _, .word _] => i.isWritten "self"
  | _ => false

def endsWithGroup (depth : Nat) (t : Tree) : Bool :=
  match depth, t with
  | depth + 1, .node .useTree [.word _, .op _, rest] => endsWithGroup depth rest
  | _, .node .useTree [.group _ _] => true
  | _, _ => false

/-- What a `use` item brings in. A group can break its line between any two of its trees, and does
so behind one that ends with a group. One tree stands without braces if it can. -/
def useTree (depth : Nat) (t : Tree) : List Doc :=
  match depth, t with
  | 0, _ => []
  | depth + 1, .node .useTree [.word i, .op _, rest] => word (i.text ++ "::") ++ useTree depth rest
  | depth + 1, .node .useTree [.group _ trees] =>
      let trees := elements "," trees
      let row := inRow (fun t isLast => useTree depth t
        ++ if isLast then []
          else word "," ++ if endsWithGroup depth t then hardBreak else spaceBreak) trees
      let group := word "\x7b"
        ++ indented (zeroBreak ++ ibox 0 row ++ trailingComma true) ++ word "\x7d"
      match trees with
      | [] => word "\x7b\x7d"
      | [t] => if bringsInSelf t then group else useTree depth t
      | _ => group
  | _ + 1, .node .useTree [.word i, _, .word j] => word (i.text ++ " as " ++ j.text)
  | _ + 1, .node .useTree [t] => word (plain t)
  | _ + 1, _ => []

/-! ## Items -/

/-- A type declaration without its attributes: what is declared, and what it stands for. The clause
stands in front of the type in an item, and behind it in a member. -/
def typeDecl (f : Formatter) (parts : List Tree) (member : Bool) : List Doc :=
  match parts with
  | [_, i, params, _, bounds, early, _, t, late, _] =>
      let bounds := elements "+" (partsOf bounds)
      let head := word ("type " ++ plain i) ++ generics f params
        ++ boundRow ": " (bounds.map (bound f))
      let value := neverBreak ++ ibox (-indentation) (f.type t)
      if member then
        head ++ (if t.isAbsent then [] else word " = " ++ value) ++ whereClauseInline f true late
      else head ++ whereClauseInline f false early ++ word "= " ++ value ++ word ";"
  | _ => []

def valueDecl (f : Formatter) (front : String) (i t e : Tree) : List Doc :=
  word (front ++ plain i ++ ": ") ++ f.type t
    ++ (if e.isAbsent then [] else word " = " ++ neverBreak ++ f.expr false e) ++ word ";"

/-- A member of a foreign module. A type of one stands for nothing, and shows no conditions. -/
def foreignMember (f : Formatter) : Tree → List Doc
  | .node .typeItem [attrs, vis, _, i, params, _, _, _, _, _, _, _] =>
      attributes f attrs ++ cbox 0
        (visibility vis ++ word ("type " ++ plain i) ++ generics f params ++ word ";") ++ hardBreak
  | t => f.item t

def itemDocs (f : Formatter) : Tree → List Doc
  | .node .structItem [attrs, vis, _, i, params, early, fields, late, _] =>
      let head := visibility vis ++ word ("struct " ++ plain i) ++ generics f params
      attributes f attrs ++ match fields with
        | .node .fields [.group .brace fs] =>
            braced f (head ++ whereClause f false early)
              (fun x => field f x ++ word "," ++ hardBreak) (elements "," fs)
        | .node .fields [.group _ fs] =>
            cbox indentation (head ++ tupleFields f (elements "," fs) ++ whereClause f true late)
              ++ hardBreak
        | _ => cbox indentation (head ++ whereClause f true late) ++ hardBreak
  | .node .unionItem [attrs, vis, _, i, params, clause, fields] =>
      attributes f attrs ++ braced f
        (visibility vis ++ word ("union " ++ plain i) ++ generics f params
          ++ whereClause f false clause)
        (fun x => field f x ++ word "," ++ hardBreak)
        (elements "," ((partsOf fields).flatMap partsOf))
  | .node .enumItem [attrs, vis, _, i, params, clause, .group _ variants] =>
      attributes f attrs ++ braced f
        (visibility vis ++ word ("enum " ++ plain i) ++ generics f params
          ++ whereClause f false clause)
        (variant f) (elements "," variants)
  | .node .functionItem parts => functionDocs f (.node .functionItem parts)
  | .node .implItem
      [attrs, default, isUnsafe, _, params, bang, trait, _, self, clause, .group _ body] =>
      let name := if trait.isAbsent then []
        else optional bang "!" ++ f.type trait ++ spaceBreak ++ word "for "
      let head := ibox (-indentation)
        (cbox indentation (optional default "default " ++ optional isUnsafe "unsafe " ++ word "impl"
          ++ generics f params) ++ word " " ++ name ++ f.type self)
      attributes f attrs ++ braced f (head ++ whereClause f false clause) f.item body
  | .node .traitItem
      [attrs, vis, isUnsafe, isAuto, _, i, params, _, supers, clause, .group _ body] =>
      let supers := elements "+" (partsOf supers)
      let head := visibility vis ++ optional isUnsafe "unsafe " ++ optional isAuto "auto "
        ++ word ("trait " ++ plain i) ++ generics f params
        ++ (if supers.isEmpty then [] else word ": " ++ joinedBy " + " (supers.map (bound f)))
      attributes f attrs ++ braced f (head ++ whereClause f false clause) f.item body
  | .node .traitAlias [attrs, vis, _, i, params, _, bounds, clause, _] =>
      attributes f attrs ++ cbox indentation
        (visibility vis ++ word ("trait " ++ plain i) ++ generics f params ++ word " = "
          ++ neverBreak ++ boundRow "" ((elements "+" (partsOf bounds)).map (bound f))
          ++ whereClause f true clause) ++ hardBreak
  | .node .typeItem (attrs :: vis :: parts) =>
      let (default, parts, member) := match parts with
        | [default, w, i, params, c, bounds, early, eq, t, late, s] =>
            (default, [w, i, params, c, bounds, early, eq, t, late, s], true)
        | _ => (Tree.absent, parts,
            (parts.getD 7 Tree.absent).isAbsent || !(parts.getD 8 Tree.absent).isAbsent)
      attributes f attrs ++ cbox indentation
        (visibility vis ++ optional default "default " ++ typeDecl f parts member) ++ hardBreak
  | .node .constItem [attrs, vis, _, i, _, t, _, e, _] =>
      attributes f attrs ++ cbox 0 (visibility vis ++ valueDecl f "const " i t e) ++ hardBreak
  | .node .constItem [attrs, vis, default, _, i, _, t, _, e, _] =>
      attributes f attrs ++ cbox 0 (visibility vis ++ optional default "default "
        ++ valueDecl f "const " i t e) ++ hardBreak
  | .node .staticItem [attrs, vis, _, m, i, _, t, _, e, _] =>
      attributes f attrs ++ cbox 0 (visibility vis
        ++ valueDecl f (if m.isAbsent then "static " else "static mut ") i t e) ++ hardBreak
  | .node .useItem [attrs, vis, _, leading, t, _] =>
      attributes f attrs ++ visibility vis ++ word "use " ++ optional leading "::"
        ++ useTree classDepth t ++ word ";" ++ hardBreak
  | .node .externCrate (attrs :: vis :: _ :: _ :: i :: rest) =>
      attributes f attrs ++ visibility vis ++ word ("extern crate " ++ plain i)
        ++ (match rest with
          | [_, j, _] => word (" as " ++ plain j)
          | _ => [])
        ++ word ";" ++ hardBreak
  | .node .moduleItem [attrs, vis, isUnsafe, _, i, .group _ body] =>
      attributes f attrs ++ braced f
        (visibility vis ++ optional isUnsafe "unsafe " ++ word ("mod " ++ plain i ++ " "))
        f.item body
  | .node .moduleItem [attrs, vis, isUnsafe, _, i, _] =>
      attributes f attrs ++ cbox indentation
        (visibility vis ++ optional isUnsafe "unsafe " ++ word ("mod " ++ plain i ++ ";"))
        ++ hardBreak
  | .node .foreignModule [attrs, isUnsafe, convention, .group _ body] =>
      attributes f attrs
        ++ braced f (optional isUnsafe "unsafe " ++ abi convention) (foreignMember f) body
  | .node .macroItem [attrs, p, _, name, .group d [.raw ts], _] =>
      attributes f attrs ++ macroCall p name d ts (d ≠ .brace) ++ hardBreak
  | .node .attributes attrs => attributes f (.node .attributes attrs)
  | t => word (plain t) ++ hardBreak

end BuilderForge.Code.Format
