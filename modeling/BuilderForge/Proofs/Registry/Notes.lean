import BuilderForge.Proofs.ModulePath.Reading
import BuilderForge.Proofs.ModuleTree.FileNames
import BuilderForge.Proofs.Registry.Contents
import BuilderForge.Proofs.Registry.Reordering
import Mathlib.Data.List.Find

set_option autoImplicit false

/-! # What the keys of a registry tell

A registry keeps types, and notes about the visibility of items, under the texts of their paths. The
notes are made one after the other, and under each key stands the first one
(`lookup_visible_ofSources`), as it is with types. The text of a path tells the path, so where all
names are identifiers, looking up a text is looking up a module and a name (`keepsByName`).
-/

namespace BuilderForge

open Code (Ident Item)
open ModuleTree (IsWritable)

/-! ## Notes -/

/-- What is noted of an item that has a name in its module. -/
structure Note where
  module : ModulePath
  name : String
  visible : Bool
  deriving DecidableEq, Repr

namespace Note

/-- The key that a note is kept under. -/
def key (n : Note) : String := n.module.itemPath n.name

/-- Keeps a note unless its key is taken. -/
def keep (kept : List (String × Bool)) (n : Note) : List (String × Bool) :=
  keepFirst kept (n.key, n.visible)

end Note

namespace Code.Item

/-- The note that is made of an item of a module. -/
def note? (m : ModulePath) : Item → Option Note
  | .struct _ vis i .. | .enum _ vis i .. | .union _ vis i .. | .named vis i _
  | .module _ vis _ i _ => some ⟨m, i.name, isCrateVisible vis m⟩
  | .use .. | .externCrate .. | .other _ => none

/-- A note knows the module of the item and its name. -/
theorem of_note? {m : ModulePath} {i : Item} {n : Note} (h : i.note? m = some n) :
    n.module = m ∧ i.ownName? = some n.name := by
  cases i with
  | struct | enum | union | named | module =>
      obtain rfl := Option.some.inj h
      exact ⟨rfl, rfl⟩
  | _ => cases h

/-- A type goes by the name of its item. -/
theorem ownName?_of_declaration? {m : ModulePath} {i : Item} {d : Declaration}
    (h : i.declaration? m = some d) : i.ownName? = some d.ident.name := by
  cases i with
  | struct attrs vis i span g fields =>
      obtain rfl := Option.some.inj h
      rw [ownName?, (Declaration.ofStruct_module_ident m i attrs (!g.isEmpty) fields).2]
  | enum | union =>
      obtain rfl := Option.some.inj h
      rfl
  | _ => cases h

end Code.Item

/-- The notes that are made of the items of some bodies. -/
def notesOf (bodies : List (ModulePath × List Item)) : List Note :=
  bodies.flatMap fun body => body.2.filterMap (·.note? body.1)

theorem notesOf_cons (body : ModulePath × List Item) (bodies : List (ModulePath × List Item)) :
    notesOf (body :: bodies) = body.2.filterMap (·.note? body.1) ++ notesOf bodies := rfl

/-- All notes that are made of the items of the sources. -/
def SourceSet.notes (s : SourceSet) : List Note := notesOf s.bodies

namespace Registry

theorem visible_addItem (m : ModulePath) (acc : Registry × Scope) (i : Item) :
    (addItem m acc i).1.visible = (i.note? m).toList.foldl Note.keep acc.1.visible := by
  cases i with
  | struct | enum | union =>
      simp only [addItem, insert_visible]
      exact noteVisibility_visible ..
  | named | module => exact noteVisibility_visible ..
  | use | externCrate | other => rfl

theorem visible_foldl_addItem (m : ModulePath) (items : List Item) (acc : Registry × Scope) :
    (items.foldl (addItem m) acc).1.visible
      = (items.filterMap (·.note? m)).foldl Note.keep acc.1.visible := by
  induction items generalizing acc with
  | nil => rfl
  | cons i items ih =>
      rw [List.foldl_cons, ih, visible_addItem, ← List.foldl_append]
      cases h : i.note? m <;> simp [h]

theorem visible_foldl_addBody (bodies : List (ModulePath × List Item)) (r : Registry) :
    (bodies.foldl addBody r).visible = (notesOf bodies).foldl Note.keep r.visible := by
  induction bodies generalizing r with
  | nil => rfl
  | cons body bodies ih =>
      have hbody : (r.addBody body).visible
          = (body.2.filterMap (·.note? body.1)).foldl Note.keep r.visible := by
        rw [addBody, addItems, addScope_visible]
        exact visible_foldl_addItem body.1 body.2 (r, {})
      rw [List.foldl_cons, ih, hbody, notesOf_cons, List.foldl_append]

/-- Under each key stands the first note that is made with it. -/
theorem lookup_visible_ofSources (sources : SourceSet) (key : String) :
    (ofSources sources).visible.lookup key
      = (sources.notes.find? (·.key == key)).map (·.visible) := by
  rw [ofSources_eq_foldl, visible_foldl_addBody]
  exact lookup_foldl_keepFirst (fun n : Note => (n.key, n.visible)) sources.notes [] key

end Registry

/-! ## Names that are identifiers -/

theorem isPathName_of_isWritable {name : String} (h : IsWritable name) : IsPathName name := by
  have hletters := ModuleTree.isPlain_of_isWritable h
  exact ⟨hletters.ne_empty, hletters.not_mem (by decide) (by decide) (by decide)⟩

/-- The names on the way to the module are identifiers. -/
def ModulePath.IsWritable (m : ModulePath) : Prop := ∀ x ∈ m.segments, ModuleTree.IsWritable x

instance (name : String) : Decidable (IsWritable name) :=
  inferInstanceAs (Decidable (nameError? (identFor name) = none))

instance (m : ModulePath) : Decidable m.IsWritable :=
  inferInstanceAs (Decidable (∀ x ∈ m.segments, ModuleTree.IsWritable x))

/-- The modules and the items of the sources go by identifiers. -/
structure SourceSet.IsWritable (sources : SourceSet) : Prop where
  modules : ∀ body ∈ sources.bodies, body.1.IsWritable
  items : ∀ body ∈ sources.bodies, ∀ i ∈ body.2, ∀ name ∈ i.ownName?, ModuleTree.IsWritable name

namespace ModulePath

theorem isPathName_of_mem {m : ModulePath} (h : m.IsWritable) : ∀ x ∈ m.segments, IsPathName x :=
  fun x hx => isPathName_of_isWritable (h x hx)

/-- The text of an item that goes by identifiers tells its module and its name. -/
theorem itemPath_inj {m m' : ModulePath} {name name' : String} (hm : m.IsWritable)
    (hm' : m'.IsWritable) (hname : ModuleTree.IsWritable name)
    (hname' : ModuleTree.IsWritable name') :
    m.itemPath name = m'.itemPath name' ↔ m = m' ∧ name = name' := by
  constructor
  · exact eq_of_itemPath_eq (fun x hx => (isPathName_of_mem hm x hx).isPlain)
      (fun x hx => (isPathName_of_mem hm' x hx).isPlain) (isPathName_of_isWritable hname).isPlain
      (isPathName_of_isWritable hname').isPlain
  · rintro ⟨rfl, rfl⟩
    rfl

end ModulePath

namespace SourceSet.IsWritable

variable {sources : SourceSet} (h : sources.IsWritable)
include h

theorem of_mem_declared {d : Declaration} (hd : d ∈ sources.declared) :
    d.module.IsWritable ∧ ModuleTree.IsWritable d.ident.name := by
  obtain ⟨body, hbody, i, hi, hdecl⟩ := mem_declarationsOf_iff.mp hd
  rw [Item.module_of_declaration? hdecl]
  exact ⟨h.modules body hbody, h.items body hbody i hi _ (Item.ownName?_of_declaration? hdecl)⟩

theorem of_mem_notes {n : Note} (hn : n ∈ sources.notes) :
    n.module.IsWritable ∧ ModuleTree.IsWritable n.name := by
  simp only [notes, notesOf, List.mem_flatMap, List.mem_filterMap] at hn
  obtain ⟨body, hbody, i, hi, hnote⟩ := hn
  obtain ⟨hmodule, hname⟩ := Item.of_note? hnote
  rw [hmodule]
  exact ⟨h.modules body hbody, h.items body hbody i hi _ hname⟩

end SourceSet.IsWritable

/-! ## Looking up by name -/

namespace Registry

/-- What the registry keeps of the sources is kept by module and name. -/
structure KeepsByName (r : Registry) (sources : SourceSet) : Prop where
  /-- Two types with one key have the same module and the same name. -/
  types_apart : ∀ d ∈ sources.declared, ∀ d' ∈ sources.declared, d.pathString = d'.pathString →
    d.module = d'.module ∧ d.ident.name = d'.ident.name
  /-- Two items that are noted under one key have the same module and the same name. -/
  notes_apart : ∀ n ∈ sources.notes, ∀ n' ∈ sources.notes, n.key = n'.key →
    n.module = n'.module ∧ n.name = n'.name
  /-- The key of a module and a name leads to the first type of that name in that module. -/
  get? : ∀ m : ModulePath, m.IsWritable → ∀ name, ModuleTree.IsWritable name →
    r.get? (m.itemPath name)
      = sources.declared.find? fun d => d.module = m ∧ d.ident.name = name
  /-- The key of a module and a name leads to what is noted of the first item of that name in that
  module. -/
  visible : ∀ m : ModulePath, m.IsWritable → ∀ name, ModuleTree.IsWritable name →
    r.visible.lookup (m.itemPath name)
      = (sources.notes.find? fun n => n.module = m ∧ n.name = name).map (·.visible)

theorem keepsByName {sources : SourceSet} (h : sources.IsWritable) :
    (ofSources sources).KeepsByName sources where
  types_apart d hd d' hd' := by
    obtain ⟨hm, hname⟩ := h.of_mem_declared hd
    obtain ⟨hm', hname'⟩ := h.of_mem_declared hd'
    exact (ModulePath.itemPath_inj hm hm' hname hname').mp
  notes_apart n hn n' hn' := by
    obtain ⟨hm, hname⟩ := h.of_mem_notes hn
    obtain ⟨hm', hname'⟩ := h.of_mem_notes hn'
    exact (ModulePath.itemPath_inj hm hm' hname hname').mp
  get? m hm name hname := by
    rw [get?_ofSources]
    refine List.find?_congr fun d hd => ?_
    obtain ⟨hdm, hdname⟩ := h.of_mem_declared hd
    rw [Bool.eq_iff_iff, beq_iff_eq, decide_eq_true_iff, Declaration.pathString,
      ModulePath.itemPath_inj hdm hm hdname hname]
  visible m hm name hname := by
    rw [lookup_visible_ofSources]
    congr 1
    refine List.find?_congr fun n hn => ?_
    obtain ⟨hnm, hnname⟩ := h.of_mem_notes hn
    rw [Bool.eq_iff_iff, beq_iff_eq, decide_eq_true_iff, Note.key,
      ModulePath.itemPath_inj hnm hm hnname hname]

end Registry

/-- **The text of a path tells the path.** For names that are identifiers: a path is read back from
its text, and from its names alone exactly if the first one is not `crate`; no two items of a crate
go by one text; and the text of an item is that of its names from `crate` on, with two colons between
them, which is how items are looked up. So a registry keeps what is declared and what is noted by
module and name. -/
theorem pathTexts_exact :
    (∀ m : ModulePath, m.IsWritable → ModulePath.parse m.display = m
      ∧ (ModulePath.parse ("::".intercalate m.segments) = m ↔ m.segments.head? ≠ some "crate"))
    ∧ (∀ (m m' : ModulePath) (name name' : String), m.IsWritable → m'.IsWritable →
      IsWritable name → IsWritable name' → m.itemPath name = m'.itemPath name' →
      m = m' ∧ name = name')
    ∧ (∀ (m : ModulePath) (name : String),
      m.itemPath name = ModulePath.displaySegments (m.segments ++ [name]))
    ∧ (∀ segments : List String,
      ModulePath.displaySegments segments = "::".intercalate ("crate" :: segments))
    ∧ ∀ sources : SourceSet, sources.IsWritable →
      (Registry.ofSources sources).KeepsByName sources := by
  refine ⟨fun m hm => ?_, fun m m' name name' hm hm' hname hname' => ?_,
    ModulePath.itemPath_eq_displaySegments, ModulePath.displaySegments_eq_intercalate,
    fun _ => Registry.keepsByName⟩
  · have hnames := ModulePath.isPathName_of_mem hm
    exact ⟨ModulePath.parse_display hnames, ModulePath.parse_intercalate_eq_iff hnames⟩
  · exact (ModulePath.itemPath_inj hm hm' hname hname').mp

/-- A crate with a type `Point`, and a private one in its module `crates::r#fn`. -/
def pointsSources : SourceSet where
  files := [⟨"src/lib.rs", .root, [], [.unitStruct .everywhere "Point",
    .module [] .everywhere false ⟨"crates", false⟩ (some [.module [] .everywhere false ⟨"fn", true⟩
      (some [.unitStruct .inherited "Point"])])]⟩]

/-- A module whose name begins with `crate` is no `crate`, and each `Point` is found on its own. -/
theorem pathTexts_crates :
    ModulePath.IsWritable ⟨["crates", "fn"]⟩ ∧ IsWritable "Point" ∧ pointsSources.IsWritable
    ∧ ModulePath.parse "crate::crates::fn" = ⟨["crates", "fn"]⟩
    ∧ ModulePath.parse "crates::fn" = ⟨["crates", "fn"]⟩
    ∧ ModulePath.parse "crates::fn" = (ModulePath.root.child "crates").child "fn"
    ∧ ModulePath.itemPath ⟨["crates", "fn"]⟩ "Point" ≠ ModulePath.root.itemPath "Point"
    ∧ ((Registry.ofSources pointsSources).get? "crate::crates::fn::Point").map (·.module)
      = some ⟨["crates", "fn"]⟩
    ∧ (Registry.ofSources pointsSources).visible.lookup "crate::crates::fn::Point" = some false
    ∧ (Registry.ofSources pointsSources).visible.lookup "crate::Point" = some true := by
  have hfn : ModulePath.IsWritable ⟨["crates", "fn"]⟩ := by decide +kernel
  have hroot : ModulePath.root.IsWritable := List.forall_mem_nil _
  have hpoint : IsWritable "Point" := by decide +kernel
  have hsources : pointsSources.IsWritable := ⟨by decide +kernel, by decide +kernel⟩
  obtain ⟨hread, hnames⟩ := pathTexts_exact.1 _ hfn
  have hkeeps := pathTexts_exact.2.2.2.2 _ hsources
  -- both modules give the item the same text
  have htext : (ModulePath.parse "crates::fn").itemPath "Point"
      = ((ModulePath.root.child "crates").child "fn").itemPath "Point" := by
    decide +kernel
  have hsame := pathTexts_exact.2.1 _ _ _ _ (by decide +kernel) hfn hpoint hpoint htext
  refine ⟨hfn, hpoint, hsources, hread, hnames.mpr (by decide), hsame.1, fun h => ?_, ?_, ?_, ?_⟩
  · exact absurd (pathTexts_exact.2.1 _ _ _ _ hfn hroot hpoint hpoint h).1 (by decide)
  · refine (congrArg _ (hkeeps.get? _ hfn _ hpoint)).trans ?_
    decide +kernel
  · refine (hkeeps.visible _ hfn _ hpoint).trans ?_
    decide +kernel
  · refine (hkeeps.visible _ hroot _ hpoint).trans ?_
    decide +kernel

end BuilderForge
