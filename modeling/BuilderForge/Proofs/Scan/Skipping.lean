import BuilderForge.Scan

set_option autoImplicit false

/-! # The module that a scan leaves alone

All sources that a scan ends with are files it has come to along the declarations of modules, and so
are the files that it says anything about (`Scan.isReached_of_scan?`). It does not follow the
declaration of the module that it is told to skip, and so it never comes to a file of this module or
of one inside of it (`Scan.Reaches.not_isInside`).
-/

namespace BuilderForge

open Code (Item)

/-! ## Inside of a module -/

namespace ModulePath

/-- The module is the one of this name at the top of the crate, or lies inside of it. -/
def IsInside (name : String) (m : ModulePath) : Prop := m.segments.head? = some name

instance (name : String) (m : ModulePath) : Decidable (m.IsInside name) :=
  inferInstanceAs (Decidable (m.segments.head? = some name))

theorem not_isInside_root (name : String) : ¬ root.IsInside name := by
  intro h
  cases h

theorem eq_root_of_isRoot {m : ModulePath} (h : m.isRoot = true) : m = root := by
  obtain ⟨segments⟩ := m
  rw [show segments = [] from List.isEmpty_iff.mp h]
  rfl

/-- Only a child of the root can be the module itself. -/
theorem isInside_child_iff {name : String} {m : ModulePath} (child : String) :
    (m.child child).IsInside name ↔ m.IsInside name ∨ m = root ∧ child = name := by
  obtain ⟨segments⟩ := m
  cases segments with
  | nil => simp [IsInside, ModulePath.child, root]
  | cons s segments => simp [IsInside, ModulePath.child, root]

end ModulePath

/-! ## Declared files -/

variable {skip : String}

mutual

/-- Outside of the module no file of it is declared. -/
theorem not_isInside_of_mem_declaredFiles (declaredIn : String) {p : ModulePlace}
    (hp : ¬ p.module.IsInside skip) : ∀ (i : Item), ∀ f ∈ declaredFiles skip declaredIn p i,
      ¬ f.module.IsInside skip
  | .module attrs vis isUnsafe i content, f, hf => by
      unfold declaredFiles at hf
      split at hf
      · cases hf
      · next hnot =>
          -- the name of a module at the top is another one
          have hchild : ¬ (p.module.child i.name).IsInside skip := by
            rw [ModulePath.isInside_child_iff]
            rintro (h | ⟨hroot, hname⟩)
            · exact hp h
            · exact hnot (by simp [hroot, hname, ModulePath.isRoot, ModulePath.root])
          cases content with
          | none =>
              rw [List.mem_singleton.mp hf]
              unfold ModulePlace.pending
              split <;> exact hchild
          | some items =>
              exact not_isInside_of_mem_declaredFilesAll declaredIn
                (p := p.inside i.name) hchild items f hf
  | .struct .., _, hf => by cases hf
  | .enum .., _, hf => by cases hf
  | .union .., _, hf => by cases hf
  | .named .., _, hf => by cases hf
  | .use .., _, hf => by cases hf
  | .externCrate .., _, hf => by cases hf
  | .other _, _, hf => by cases hf

theorem not_isInside_of_mem_declaredFilesAll (declaredIn : String) {p : ModulePlace}
    (hp : ¬ p.module.IsInside skip) :
    ∀ (is : List Item), ∀ f ∈ declaredFilesAll skip declaredIn p is, ¬ f.module.IsInside skip
  | [], _, hf => by cases hf
  | i :: is, f, hf => by
      rw [declaredFilesAll, List.mem_append] at hf
      rcases hf with hf | hf
      · exact not_isInside_of_mem_declaredFiles declaredIn hp i f hf
      · exact not_isInside_of_mem_declaredFilesAll declaredIn hp is f hf

end

/-! ## The scan -/

namespace Scan

variable {d : Disk} {s : ScanSettings}

/-- The files that a scan comes to: the entry, and those declared in files that it has read. -/
inductive Reaches (d : Disk) (s : ScanSettings) : PendingFile → Prop
  | entry {scan : Scan} {f : PendingFile} (hstart : start d s = .ok scan) (hf : f ∈ scan.pending) :
      Reaches d s f
  | declared {f g : PendingFile} {path text : String} {code : Code.File} (hf : Reaches d s f)
      (hread : readFirst? d f.candidates = some (path, text))
      (hparse : Code.File.parse text = .ok code)
      (hg : g ∈ declaredFilesAll s.skipModule path (placeOf f path) code.items) : Reaches d s g

/-- A scan does not come to the module that it skips. -/
theorem Reaches.not_isInside {f : PendingFile} (h : Reaches d s f) :
    ¬ f.module.IsInside s.skipModule := by
  induction h with
  | @entry scan f hstart hf =>
      unfold start at hstart
      split at hstart
      · obtain rfl := Except.ok.inj hstart
        rw [List.mem_singleton.mp hf]
        exact ModulePath.not_isInside_root _
      · cases hstart
  | @declared f g path _ _ _ _ _ hg ih =>
      exact not_isInside_of_mem_declaredFilesAll path (p := placeOf f path) ih _ g hg

/-- What is said about a file: there is none, or it is no code. -/
inductive IsRemarkOn (d : Disk) (f : PendingFile) : Diagnostic → Prop
  | missing {path : String} (hread : readFirst? d f.candidates = none)
      (hpath : f.declaredIn = some path) : IsRemarkOn d f (.missingModuleFile f.module.display path)
  | unparsed {path text : String} {e : Code.ParseError}
      (hread : readFirst? d f.candidates = some (path, text))
      (hparse : Code.File.parse text = .error e) : IsRemarkOn d f (.parseFailed path e.located)

/-- All sources are files that the scan has come to, and all that is said is about such files. -/
structure IsReached (d : Disk) (s : ScanSettings) (sources : SourceSet) : Prop where
  files : ∀ f ∈ sources.files, ∃ p, Reaches d s p ∧ p.module = f.module
  remarks : ∀ e ∈ sources.diagnostics, ∃ p, Reaches d s p ∧ IsRemarkOn d p e

namespace IsReached

variable {sources : SourceSet} {f : PendingFile}

theorem remark (h : IsReached d s sources) (hf : Reaches d s f) {e : Diagnostic}
    (he : IsRemarkOn d f e) : IsReached d s (sources.remark e) := by
  refine ⟨h.files, ?_⟩
  intro e' he'
  rcases List.mem_append.mp he' with he' | he'
  · exact h.remarks e' he'
  · rw [List.mem_singleton.mp he']
    exact ⟨f, hf, he⟩

theorem add (h : IsReached d s sources) (hf : Reaches d s f) {path text : String}
    (hread : readFirst? d f.candidates = some (path, text)) :
    IsReached d s (sources.add f.module path text).1 := by
  unfold SourceSet.add
  split
  · refine ⟨?_, h.remarks⟩
    intro g hg
    rcases List.mem_append.mp hg with hg | hg
    · exact h.files g hg
    · rw [List.mem_singleton.mp hg]
      exact ⟨f, hf, rfl⟩
  · next hparse => exact h.remark hf (.unparsed hread hparse)

theorem missing {sources' : SourceSet} (h : IsReached d s sources) (hf : Reaches d s f)
    (hread : readFirst? d f.candidates = none)
    (hmissing : missing d s f sources = .ok sources') : IsReached d s sources' := by
  unfold Scan.missing at hmissing
  split at hmissing
  · next hpath =>
      obtain rfl := Except.ok.inj hmissing
      exact h.remark hf (.missing hread hpath)
  · dsimp only at hmissing
    split at hmissing
    · cases hmissing
    · obtain rfl := Except.ok.inj hmissing
      exact h

end IsReached

/-- So are the files that a scan is still to read. -/
structure Traced (d : Disk) (s : ScanSettings) (scan : Scan) : Prop where
  pending : ∀ f ∈ scan.pending, Reaches d s f
  sources : IsReached d s scan.sources

theorem traced_start {scan : Scan} (h : start d s = .ok scan) : Traced d s scan := by
  refine ⟨fun f hf => .entry h hf, ?_⟩
  unfold start at h
  split at h
  · obtain rfl := Except.ok.inj h
    exact ⟨by simp, by simp⟩
  · cases h

/-- A step reads a file that the scan has come to, and comes to those declared in it. -/
theorem Traced.step {scan scan' : Scan} (hscan : Traced d s scan)
    (h : step d s scan = .ok scan') : Traced d s scan' := by
  unfold Scan.step at h
  split at h
  · obtain rfl := Except.ok.inj h
    exact hscan
  · next f rest hpending =>
      obtain ⟨hf, hrest⟩ := List.forall_mem_cons.mp (hpending ▸ hscan.pending)
      split at h
      · next hread =>
          cases hmissing : missing d s f scan.sources with
          | error e =>
              rw [hmissing] at h
              cases h
          | ok sources =>
              rw [hmissing] at h
              obtain rfl := Except.ok.inj h
              exact ⟨hrest, hscan.sources.missing hf hread hmissing⟩
      · next path text hread =>
          have hadd := hscan.sources.add hf hread
          split at h
          · next sources hsources =>
              obtain rfl := Except.ok.inj h
              rw [hsources] at hadd
              exact ⟨hrest, hadd⟩
          · next sources code hsources =>
              obtain rfl := Except.ok.inj h
              rw [hsources] at hadd
              refine ⟨fun g hg => ?_, hadd⟩
              rcases List.mem_append.mp hg with hg | hg
              · exact hrest g hg
              · exact .declared hf hread (parse_of_add hsources) hg
where
  parse_of_add {sources sources' : SourceSet} {m : ModulePath} {path text : String}
      {code : Code.File} (h : sources.add m path text = (sources', some code)) :
      Code.File.parse text = .ok code := by
    unfold SourceSet.add at h
    split at h
    · next hparse =>
        rw [hparse, Option.some.inj (congrArg Prod.snd h)]
    · cases congrArg Prod.snd h

/-- This goes on until the scan is over. -/
theorem Traced.run (n : Nat) {scan : Scan} {sources : SourceSet} (hscan : Traced d s scan)
    (h : run d s n scan = some (.ok sources)) : IsReached d s sources := by
  induction n generalizing scan with
  | zero =>
      unfold Scan.run at h
      split at h
      · obtain rfl := Except.ok.inj (Option.some.inj h)
        exact hscan.sources
      · cases h
  | succ n ih =>
      unfold Scan.run at h
      split at h
      · obtain rfl := Except.ok.inj (Option.some.inj h)
        exact hscan.sources
      · cases hstep : Scan.step d s scan with
        | error e =>
            rw [hstep] at h
            cases Option.some.inj h
        | ok scan' =>
            rw [hstep] at h
            exact ih (hscan.step hstep) h

/-- The sources that a scan ends with are files it has come to. -/
theorem isReached_of_scan? {sources : SourceSet} (h : scan? d s = some (.ok sources)) :
    IsReached d s sources := by
  unfold scan? at h
  cases hstart : start d s with
  | error e =>
      rw [hstart] at h
      cases Option.some.inj h
  | ok scan =>
      rw [hstart] at h
      exact (traced_start hstart).run _ h

/-- None of them is a file of the module that is skipped. -/
theorem IsReached.not_isInside {sources : SourceSet} (h : IsReached d s sources) :
    ∀ f ∈ sources.files, ¬ f.module.IsInside s.skipModule := by
  intro f hf
  obtain ⟨p, hp, hmodule⟩ := h.files f hf
  rw [← hmodule]
  exact hp.not_isInside

end Scan

end BuilderForge
