import BuilderForge.Proofs.Scan.Ending

set_option autoImplicit false

/-! # Where the file of a module is looked for

A module without a body can stand in the inline bodies of other modules. Its file is looked for in
the directory of these bodies, which begins at the directory that the file has for its modules and
goes one directory further with each of them: into the one of its name, or along its own `path`
attribute (`inlineDir`).

A scan goes by the names of the inline modules alone (`plainDir`), whatever their attributes are;
apart from this it looks where it should. So the candidates are right if the attributes of the
inline modules lead to where their names lead (`Scan.step_lookup`).
-/

namespace BuilderForge

open Code (Item Attribute)

/-! ## The nesting of a module -/

/-- A module with a body in the same file. -/
structure InlineModule where
  attrs : List Attribute
  name : String

/-- A module that is declared without a body, in the bodies of those around it, the innermost of
which comes first. -/
structure OutOfLine where
  around : List InlineModule
  attrs : List Attribute
  name : String

mutual

/-- The modules without a body in an item, in the order in which they are declared. -/
def outOfLine (around : List InlineModule) : Item → List OutOfLine
  | .module attrs _ _ i content =>
      match content with
      | some items => outOfLineAll (⟨attrs, i.name⟩ :: around) items
      | none => [⟨around, attrs, i.name⟩]
  | _ => []

def outOfLineAll (around : List InlineModule) : List Item → List OutOfLine
  | [] => []
  | i :: is => outOfLine around i ++ outOfLineAll around is

end

/-- The item is the module that is left alone, which can only stand at the top of the crate. -/
def isLeftAlone (skip : String) (m : ModulePath) : Item → Bool
  | .module _ _ _ i _ => m.isRoot && i.name == skip
  | _ => false

/-- The modules without a body that are declared in a file of a module and looked for. -/
def outOfLineIn (skip : String) (m : ModulePath) (items : List Item) : List OutOfLine :=
  outOfLineAll [] (items.filter fun i => !isLeftAlone skip m i)

/-! ## The rules -/

/-- The directory that a file lies in. -/
def fileDir (path : String) : String := (FilePath.parent? path).getD ""

/-- The directory in which a file has the files of its modules: the one it lies in if it is the file
that the crate starts with, one that a `path` attribute names or a `mod.rs`, and for any other the
one with its stem inside of that. -/
def moduleDir (ownsDirectory : Bool) (path : String) : String :=
  if ownsDirectory || FilePath.fileName? path == some "mod.rs" then fileDir path
  else FilePath.join (fileDir path) (((FilePath.fileName? path).map FilePath.stem).getD "")

/-- The directory of inline modules in a file, the innermost of which comes first. Each is in the
directory of its name, unless it has a `path` attribute. This starts where those of the level around
it do: at the directory of the file, or at that of the modules around. -/
def inlineDir (fileDir moduleDir : String) : List InlineModule → String
  | [] => moduleDir
  | m :: around =>
      match pathAttribute? m.attrs with
      | none => FilePath.join (inlineDir fileDir moduleDir around) m.name
      | some q =>
          FilePath.join (if around.isEmpty then fileDir else inlineDir fileDir moduleDir around) q

/-- The same by the names alone. -/
def plainDir (moduleDir : String) : List InlineModule → String
  | [] => moduleDir
  | m :: around => FilePath.join (plainDir moduleDir around) m.name

namespace OutOfLine

/-- The files that a module can have, where those around it have a directory. -/
def candidates (fileDir : String) (dirOf : List InlineModule → String) (o : OutOfLine) :
    List String :=
  match pathAttribute? o.attrs with
  | some p => [FilePath.join (if o.around.isEmpty then fileDir else dirOf o.around) p]
  | none =>
      [FilePath.join (dirOf o.around) (o.name ++ ".rs"),
        FilePath.join (FilePath.join (dirOf o.around) o.name) "mod.rs"]

/-- What a module goes by: the path of its attribute, or else its name. -/
def target (o : OutOfLine) : String := (pathAttribute? o.attrs).getD o.name

/-- The path of the module, from that of the file. -/
def modulePath (m : ModulePath) (o : OutOfLine) : ModulePath :=
  ⟨m.segments ++ (o.around.map InlineModule.name).reverse ++ [o.name]⟩

end OutOfLine

/-- Two texts name the same directory, up to a slash at the end. -/
def FilePath.SameDirectory (a b : String) : Prop := join a "" = join b ""

/-- The attributes of the modules around a module make no difference to where its file is looked
for: they lead to where the names lead, or the module goes by an absolute path. -/
def OutOfLine.IsPlain (fileDir moduleDir : String) (o : OutOfLine) : Prop :=
  FilePath.isAbsolute o.target = true
    ∨ FilePath.SameDirectory (plainDir moduleDir o.around) (inlineDir fileDir moduleDir o.around)

/-! ## What is declared -/

/-- The place that inline modules make of that of their file. -/
def ModulePlace.within (p : ModulePlace) : List InlineModule → ModulePlace
  | [] => p
  | m :: around => (p.within around).inside m.name

/-- What is to be read for a module of a file, as the scan sees it. -/
def OutOfLine.pending (p : ModulePlace) (declaredIn : String) (o : OutOfLine) : PendingFile :=
  (p.within o.around).pending declaredIn o.name o.attrs

section Declared

variable {skip declaredIn : String} {p : ModulePlace}

mutual

/-- Below the top of the crate every module is looked for. -/
theorem declaredFiles_within (around : List InlineModule)
    (hnested : (p.within around).module.isRoot = false) : ∀ i : Item,
      declaredFiles skip declaredIn (p.within around) i
        = (outOfLine around i).map (OutOfLine.pending p declaredIn)
  | .module attrs vis isUnsafe i content => by
      cases content with
      | none => simp [declaredFiles, hnested, outOfLine, OutOfLine.pending]
      | some items =>
          have hinside : (p.within (⟨attrs, i.name⟩ :: around)).module.isRoot = false := by
            simp [ModulePlace.within, ModulePlace.inside, ModulePath.child, ModulePath.isRoot]
          have hrest := declaredFilesAll_within (⟨attrs, i.name⟩ :: around) hinside items
          simp only [declaredFiles, hnested, Bool.false_and, outOfLine, ← hrest]
          rfl
  | .struct .. => rfl
  | .enum .. => rfl
  | .union .. => rfl
  | .named .. => rfl
  | .use .. => rfl
  | .externCrate .. => rfl
  | .other _ => rfl

theorem declaredFilesAll_within (around : List InlineModule)
    (hnested : (p.within around).module.isRoot = false) : ∀ is : List Item,
      declaredFilesAll skip declaredIn (p.within around) is
        = (outOfLineAll around is).map (OutOfLine.pending p declaredIn)
  | [] => rfl
  | i :: is => by
      rw [declaredFilesAll, outOfLineAll, List.map_append, declaredFiles_within around hnested i,
        declaredFilesAll_within around hnested is]

end

/-- At the top of a file those of the module that is left alone are missing. -/
theorem declaredFiles_eq : ∀ i : Item,
    declaredFiles skip declaredIn p i
      = if isLeftAlone skip p.module i then []
        else (outOfLine [] i).map (OutOfLine.pending p declaredIn)
  | .module attrs vis isUnsafe i content => by
      cases content with
      | none => rfl
      | some items =>
          have hinside : (p.within [⟨attrs, i.name⟩]).module.isRoot = false := by
            simp [ModulePlace.within, ModulePlace.inside, ModulePath.child, ModulePath.isRoot]
          -- in the body the path is not that of the root, and nothing is left alone
          have hrest : declaredFilesAll skip declaredIn (p.within [⟨attrs, i.name⟩]) items = _ :=
            declaredFilesAll_within [⟨attrs, i.name⟩] hinside items
          simp only [declaredFiles, outOfLine, isLeftAlone, ← hrest]
          rfl
  | .struct .. => (ite_self _).symm
  | .enum .. => (ite_self _).symm
  | .union .. => (ite_self _).symm
  | .named .. => (ite_self _).symm
  | .use .. => (ite_self _).symm
  | .externCrate .. => (ite_self _).symm
  | .other _ => (ite_self _).symm

theorem declaredFilesAll_eq (items : List Item) :
    declaredFilesAll skip declaredIn p items
      = (outOfLineIn skip p.module items).map (OutOfLine.pending p declaredIn) := by
  induction items with
  | nil => rfl
  | cons i is ih =>
      rw [declaredFilesAll, declaredFiles_eq, ih]
      cases hskip : isLeftAlone skip p.module i with
      | true => simp [outOfLineIn, hskip]
      | false => simp [outOfLineIn, hskip, outOfLineAll]

end Declared

/-! ## Where it is looked for -/

namespace ModulePlace

variable (p : ModulePlace) (around : List InlineModule)

theorem within_module :
    (p.within around).module = ⟨p.module.segments ++ (around.map InlineModule.name).reverse⟩ := by
  induction around with
  | nil => simp [within]
  | cons m around ih => simp [within, inside, ModulePath.child, ih]

theorem within_childDir : (p.within around).childDir = plainDir p.childDir around := by
  induction around with
  | nil => rfl
  | cons m around ih => rw [within, inside, plainDir, ih]

theorem within_pathDir :
    (p.within around).pathDir
      = if around.isEmpty then p.pathDir else plainDir p.childDir around := by
  cases around with
  | nil => rfl
  | cons m around =>
      rw [← within_childDir]
      rfl

end ModulePlace

/-- A module is looked for by the names of those around it, and owns its directory if it has a path
of its own. -/
theorem OutOfLine.pending_eq (p : ModulePlace) (declaredIn : String) (o : OutOfLine) :
    o.pending p declaredIn
      = ⟨o.modulePath p.module, o.candidates p.pathDir (plainDir p.childDir),
          (pathAttribute? o.attrs).isSome, some declaredIn⟩ := by
  unfold pending ModulePlace.pending OutOfLine.candidates OutOfLine.modulePath
  rw [p.within_pathDir, p.within_childDir, p.within_module]
  cases pathAttribute? o.attrs <;> rfl

namespace FilePath

theorem join_of_isAbsolute {a b : String} (h : isAbsolute b = true) : join a b = b := if_pos h

theorem join_of_relative {a b : String} (h : isAbsolute b = false) : join a b = join a "" ++ b := by
  have hempty : isAbsolute "" = false := rfl
  unfold join
  simp only [h, hempty, Bool.false_eq_true, if_false]
  split
  · rw [String.append_empty]
  · rw [String.append_empty]

/-- A relative path leads to the same place from two directories only if they are the same. -/
theorem join_eq_join_iff {a b path : String} :
    join a path = join b path ↔ isAbsolute path = true ∨ SameDirectory a b := by
  unfold SameDirectory
  cases h : isAbsolute path with
  | true => simp [join_of_isAbsolute h]
  | false =>
      rw [join_of_relative h, join_of_relative h]
      simp

theorem isAbsolute_append_rs (name : String) : isAbsolute (name ++ ".rs") = isAbsolute name := by
  unfold isAbsolute
  rw [String.toList_append]
  cases name.toList with
  | nil => rfl
  | cons c cs => rfl

end FilePath

namespace OutOfLine

variable {fileDir moduleDir : String}

/-- A module is looked for where it should be if the attributes around it make no difference. -/
theorem candidates_eq_iff (o : OutOfLine) :
    o.candidates fileDir (plainDir moduleDir) = o.candidates fileDir (inlineDir fileDir moduleDir)
      ↔ o.IsPlain fileDir moduleDir := by
  obtain ⟨around, attrs, name⟩ := o
  unfold candidates IsPlain target
  cases pathAttribute? attrs with
  | some path =>
      simp only [Option.getD_some, List.cons.injEq, and_true]
      cases around with
      | nil => simp [FilePath.SameDirectory, plainDir, inlineDir]
      | cons m around => exact FilePath.join_eq_join_iff
  | none =>
      simp only [Option.getD_none, List.cons.injEq, and_true]
      rw [FilePath.join_eq_join_iff, FilePath.isAbsolute_append_rs]
      constructor
      · exact fun h => h.1
      · intro h
        -- the second candidate is right where the first one is
        have hsame := FilePath.join_eq_join_iff.mpr h
        exact ⟨h, by rw [hsame]⟩

theorem inlineDir_eq_plainDir {around : List InlineModule}
    (h : ∀ m ∈ around, pathAttribute? m.attrs = none) :
    inlineDir fileDir moduleDir around = plainDir moduleDir around := by
  induction around with
  | nil => rfl
  | cons m around ih =>
      obtain ⟨hm, haround⟩ := List.forall_mem_cons.mp h
      simp only [inlineDir, plainDir, hm, ih haround]

/-- They make none if there are none. -/
theorem isPlain_of_forall {o : OutOfLine} (h : ∀ m ∈ o.around, pathAttribute? m.attrs = none) :
    o.IsPlain fileDir moduleDir := by
  right
  rw [inlineDir_eq_plainDir h]
  rfl

end OutOfLine

/-! ## The result -/

namespace Scan

variable {d : Disk} {s : ScanSettings} {f : PendingFile} {path text : String} {code : Code.File}

theorem declaredBy_eq (hread : readFirst? d f.candidates = some (path, text))
    (hparse : Code.File.parse text = .ok code) :
    declaredBy d s f = (outOfLineIn s.skipModule f.module code.items).map fun o =>
      ⟨o.modulePath f.module,
        o.candidates (fileDir path) (plainDir (moduleDir f.ownsDirectory path)),
        (pathAttribute? o.attrs).isSome, some path⟩ := by
  simp only [declaredBy, hread, hparse, declaredFilesAll_eq]
  exact List.map_congr_left fun o _ => o.pending_eq (placeOf f path) path

/-- **Files of modules are looked for in the right places but for those in inline modules with a
path of their own.** The file that a crate starts with owns its directory. When a scan reads a file
it goes on to look for the modules that are declared there without a body, in their order and under
their paths, and those that have a `path` attribute own their directories. It looks for all of them
where it should exactly if the attributes of the inline modules around each make no difference. -/
theorem step_lookup (hread : readFirst? d f.candidates = some (path, text))
    (hparse : Code.File.parse text = .ok code) (rest : List PendingFile) (sources : SourceSet) :
    (∀ scan, start d s = .ok scan → ∀ e ∈ scan.pending, e.ownsDirectory = true)
      ∧ ∃ queued sources', step d s ⟨f :: rest, sources⟩ = .ok ⟨rest ++ queued, sources'⟩
        ∧ queued.map PendingFile.module
          = (outOfLineIn s.skipModule f.module code.items).map (OutOfLine.modulePath f.module)
        ∧ queued.map PendingFile.ownsDirectory
          = (outOfLineIn s.skipModule f.module code.items).map
              (fun o => (pathAttribute? o.attrs).isSome)
        ∧ (queued.map PendingFile.candidates
            = (outOfLineIn s.skipModule f.module code.items).map
              (OutOfLine.candidates (fileDir path)
                (inlineDir (fileDir path) (moduleDir f.ownsDirectory path)))
          ↔ ∀ o ∈ outOfLineIn s.skipModule f.module code.items,
            o.IsPlain (fileDir path) (moduleDir f.ownsDirectory path)) := by
  refine ⟨?_, declaredBy d s f, ?_⟩
  · intro scan hstart e he
    unfold start at hstart
    split at hstart
    · obtain rfl := Except.ok.inj hstart
      rw [List.mem_singleton.mp he]
    · cases hstart
  · obtain ⟨scan, hstep⟩ := step_isOk (s := s) (f := f) (.inl (by rw [hread]; rfl)) rest sources
    refine ⟨scan.sources, ?_, ?_⟩
    · rw [hstep, ← pending_of_step hstep]
    · rw [declaredBy_eq hread hparse]
      simp only [List.map_map]
      refine ⟨rfl, rfl, ?_⟩
      rw [List.map_inj_left]
      exact forall₂_congr fun o _ => o.candidates_eq_iff

end Scan

theorem readFirst?_singleFile (text : String) :
    Scan.readFirst? (singleFile text) ["src/lib.rs"] = some ("src/lib.rs", text) := by
  have hlocated : (singleFile text).locate "src/lib.rs" = .ok ["src", "lib.rs"] := by
    rfl
  simp [Scan.readFirst?, Disk.read, hlocated]
  rfl

/-- A file that declares a module in an inline module and one with a path. -/
def nestedText : String := "mod a \x7b mod b; \x7d #[path = \"c/x.rs\"] mod c;"

/-- Both are looked for where they should be. -/
theorem step_lookup_nested : ∃ code queued sources,
    Code.File.parse nestedText = .ok code
      ∧ Scan.step (singleFile nestedText) { root := "src" } ⟨[entryFile], {}⟩
        = .ok ⟨queued, sources⟩
      ∧ queued.map PendingFile.candidates = [["src/a/b.rs", "src/a/b/mod.rs"], ["src/c/x.rs"]]
      ∧ (outOfLineIn defaultRootModule ModulePath.root code.items).map
          (OutOfLine.candidates "src" (inlineDir "src" "src"))
        = [["src/a/b.rs", "src/a/b/mod.rs"], ["src/c/x.rs"]] := by
  have hcheck : (Code.File.parse nestedText).toOption.map (fun code =>
      let declared := outOfLineIn defaultRootModule ModulePath.root code.items
      (declared.map (OutOfLine.candidates "src" (inlineDir "src" "src")),
        declared.all fun o => o.around.all fun m => pathAttribute? m.attrs == none))
      = some ([["src/a/b.rs", "src/a/b/mod.rs"], ["src/c/x.rs"]], true) := by
    decide +kernel
  cases hparse : Code.File.parse nestedText with
  | error e =>
      rw [hparse] at hcheck
      cases hcheck
  | ok code =>
      rw [hparse] at hcheck
      obtain ⟨hrule, hnone⟩ := Prod.mk.inj (Option.some.inj hcheck)
      have hplain : ∀ o ∈ outOfLineIn defaultRootModule ModulePath.root code.items,
          o.IsPlain "src" "src" := by
        intro o ho
        refine OutOfLine.isPlain_of_forall fun m hm => ?_
        exact eq_of_beq (List.all_eq_true.mp (List.all_eq_true.mp hnone o ho) m hm)
      obtain ⟨-, queued, sources, hstep, -, -, hlookup⟩ :=
        Scan.step_lookup (s := { root := "src" }) (f := entryFile)
          (readFirst?_singleFile nestedText) hparse [] {}
      exact ⟨code, queued, sources, rfl, hstep, (hlookup.mpr hplain).trans hrule, hrule⟩

/-- A file that declares a module in an inline module which has a path. -/
def inlinePathText : String := "#[path = \"in\"] mod a \x7b mod b; \x7d"

/-- It is looked for by the name of the inline module, while the path leads elsewhere. -/
theorem candidates_ne_inlinePath :
    (Scan.step (singleFile inlinePathText) { root := "src" } ⟨[entryFile], {}⟩).toOption.map
        (fun scan => scan.pending.map PendingFile.candidates)
        = some [["src/a/b.rs", "src/a/b/mod.rs"]]
      ∧ (Code.File.parse inlinePathText).toOption.map
          (fun code => (outOfLineIn defaultRootModule ModulePath.root code.items).map
            (OutOfLine.candidates "src" (inlineDir "src" "src")))
        = some [["src/in/b.rs", "src/in/b/mod.rs"]] := by
  constructor <;> decide +kernel

end BuilderForge
