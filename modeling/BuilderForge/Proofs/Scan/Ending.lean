import BuilderForge.Proofs.Disk.Below
import BuilderForge.Proofs.Scan.Skipping
import Mathlib.Data.Set.Finite.List
import Mathlib.Data.Set.Finite.Lattice
import Mathlib.Logic.Hydra
import Mathlib.Order.Preorder.Finite
import Mathlib.Order.WellFounded

set_option autoImplicit false

/-! # When a scan ends

A scan does not remember which files it has read, and a file can be read again as that of another
module. The paths of the modules grow on the way, so that they never repeat; what decides is where
a file is read: at which path, and in which directory the files of its own modules are.

A scan ends unless a way along the declarations goes on for ever: a queue whose files have no such way
is emptied, one file being replaced by those it declares (`Scan.ends_of_acc`). A file that leads back
to a file read at the same place leads on as the first one did, and there is no end to it
(`Scan.not_acc_of_circle`). Where paths have a greatest length there are only finitely many places
(`Scan.finite_places`), and an endless way has to come to one of them again. So on such a disk a scan
ends unless it comes to a file that leads back to its own place (`Scan.ends_iff`).
-/

namespace BuilderForge

open Code (Item)
open Relation (TransGen CutExpand)

/-! ## The modules that a file declares -/

/-- A file that is declared at a place: its module lies deeper, and it is known where it is
declared. -/
structure PendingFile.IsBelow (declaredIn : String) (p : ModulePlace) (f : PendingFile) : Prop where
  length_lt : p.module.segments.length < f.module.segments.length
  declaredIn_eq : f.declaredIn = some declaredIn

theorem ModulePath.length_lt_child (m : ModulePath) (name : String) :
    m.segments.length < (m.child name).segments.length := by
  simp [ModulePath.child]

mutual

theorem isBelow_of_mem_declaredFiles (skip declaredIn : String) (p : ModulePlace) :
    ∀ (i : Item), ∀ f ∈ declaredFiles skip declaredIn p i, f.IsBelow declaredIn p
  | .module attrs vis isUnsafe i content, f, hf => by
      unfold declaredFiles at hf
      split at hf
      · cases hf
      · have hchild := p.module.length_lt_child i.name
        cases content with
        | none =>
            rw [List.mem_singleton.mp hf]
            unfold ModulePlace.pending
            split <;> exact ⟨hchild, rfl⟩
        | some items =>
            obtain ⟨hlength, hdeclared⟩ :=
              isBelow_of_mem_declaredFilesAll skip declaredIn (p.inside i.name) items f hf
            exact ⟨hchild.trans hlength, hdeclared⟩
  | .struct .., _, hf => by cases hf
  | .enum .., _, hf => by cases hf
  | .union .., _, hf => by cases hf
  | .named .., _, hf => by cases hf
  | .use .., _, hf => by cases hf
  | .externCrate .., _, hf => by cases hf
  | .other _, _, hf => by cases hf

theorem isBelow_of_mem_declaredFilesAll (skip declaredIn : String) (p : ModulePlace) :
    ∀ (is : List Item), ∀ f ∈ declaredFilesAll skip declaredIn p is, f.IsBelow declaredIn p
  | [], _, hf => by cases hf
  | i :: is, f, hf => by
      rw [declaredFilesAll, List.mem_append] at hf
      rcases hf with hf | hf
      · exact isBelow_of_mem_declaredFiles skip declaredIn p i f hf
      · exact isBelow_of_mem_declaredFilesAll skip declaredIn p is f hf

end

/-- Two files that are looked for at the same paths, and have the files of their modules at the
same paths as well. -/
structure PendingFile.Alike (f g : PendingFile) : Prop where
  candidates : g.candidates = f.candidates
  ownsDirectory : g.ownsDirectory = f.ownsDirectory

/-- Two places where the same declarations stand for the same files, up to the names of the modules
that they are for. Nothing is left out at the second of them. -/
structure ModulePlace.Alike (p q : ModulePlace) : Prop where
  childDir : q.childDir = p.childDir
  pathDir : q.pathDir = p.pathDir
  nested : q.module.isRoot = false

namespace ModulePlace.Alike

variable {p q : ModulePlace}

theorem inside (h : Alike p q) (name : String) : Alike (p.inside name) (q.inside name) := by
  obtain ⟨hchild, hpath, hnested⟩ := h
  refine ⟨?_, ?_, ?_⟩
  · simp only [ModulePlace.inside, hchild]
  · simp only [ModulePlace.inside, hchild]
  · simp [ModulePlace.inside, ModulePath.child, ModulePath.isRoot]

theorem pending (h : Alike p q) (declaredIn declaredIn' name : String)
    (attrs : List Code.Attribute) :
    (p.pending declaredIn name attrs).Alike (q.pending declaredIn' name attrs) := by
  obtain ⟨hchild, hpath, -⟩ := h
  unfold ModulePlace.pending
  split
  · exact ⟨by simp only [hpath], rfl⟩
  · exact ⟨by simp only [hchild], rfl⟩

end ModulePlace.Alike

mutual

/-- What is declared at one place is declared at the other. -/
theorem exists_alike_of_mem_declaredFiles {skip declaredIn : String} (declaredIn' : String)
    {p q : ModulePlace} (hpq : p.Alike q) :
    ∀ (i : Item), ∀ f ∈ declaredFiles skip declaredIn p i,
      ∃ g ∈ declaredFiles skip declaredIn' q i, f.Alike g
  | .module attrs vis isUnsafe i content, f, hf => by
      unfold declaredFiles at hf
      split at hf
      · cases hf
      · cases content with
        | none =>
            have hq : declaredFiles skip declaredIn' q (.module attrs vis isUnsafe i none) =
                [q.pending declaredIn' i.name attrs] := by
              simp [declaredFiles, hpq.nested]
            rw [hq, List.mem_singleton.mp hf]
            exact ⟨_, List.mem_singleton_self _, hpq.pending declaredIn declaredIn' i.name attrs⟩
        | some items =>
            have hq : declaredFiles skip declaredIn' q (.module attrs vis isUnsafe i (some items)) =
                declaredFilesAll skip declaredIn' (q.inside i.name) items := by
              simp [declaredFiles, hpq.nested]
            rw [hq]
            exact exists_alike_of_mem_declaredFilesAll declaredIn' (hpq.inside i.name) items f hf
  | .struct .., _, hf => by cases hf
  | .enum .., _, hf => by cases hf
  | .union .., _, hf => by cases hf
  | .named .., _, hf => by cases hf
  | .use .., _, hf => by cases hf
  | .externCrate .., _, hf => by cases hf
  | .other _, _, hf => by cases hf

theorem exists_alike_of_mem_declaredFilesAll {skip declaredIn : String} (declaredIn' : String)
    {p q : ModulePlace} (hpq : p.Alike q) :
    ∀ (is : List Item), ∀ f ∈ declaredFilesAll skip declaredIn p is,
      ∃ g ∈ declaredFilesAll skip declaredIn' q is, f.Alike g
  | [], _, hf => by cases hf
  | i :: is, f, hf => by
      rw [declaredFilesAll, List.mem_append] at hf
      simp only [declaredFilesAll, List.mem_append]
      rcases hf with hf | hf
      · obtain ⟨g, hg, halike⟩ := exists_alike_of_mem_declaredFiles declaredIn' hpq i f hf
        exact ⟨g, .inl hg, halike⟩
      · obtain ⟨g, hg, halike⟩ := exists_alike_of_mem_declaredFilesAll declaredIn' hpq is f hf
        exact ⟨g, .inr hg, halike⟩

end

namespace Scan

variable {d : Disk} {s : ScanSettings} {f g : PendingFile}

/-! ## Where a file leads -/

/-- The files of the modules that are declared in the file which is read for `f`. -/
def declaredBy (d : Disk) (s : ScanSettings) (f : PendingFile) : List PendingFile :=
  match readFirst? d f.candidates with
  | none => []
  | some (path, text) =>
      match Code.File.parse text with
      | .error _ => []
      | .ok code => declaredFilesAll s.skipModule path (placeOf f path) code.items

/-- The file `f` is read, and `g` is that of a module which it declares. -/
def Declares (d : Disk) (s : ScanSettings) (f g : PendingFile) : Prop := g ∈ declaredBy d s f

/-- Where a file is read: its path, and the directory in which the files of its modules are. -/
def placeRead? (d : Disk) (f : PendingFile) : Option (String × String) :=
  (readFirst? d f.candidates).map fun (path, _) => (path, (placeOf f path).childDir)

/-- The scan comes to a file that leads to one read at the same place. -/
def Circles (d : Disk) (s : ScanSettings) : Prop :=
  ∃ f g, Reaches d s f ∧ TransGen (Declares d s) f g ∧ placeRead? d f = placeRead? d g

/-- From the file there is a way along the declarations that goes on for ever. -/
def Endless (d : Disk) (s : ScanSettings) (f : PendingFile) : Prop :=
  ∃ chain : Nat → PendingFile, chain 0 = f ∧ ∀ n, Declares d s (chain n) (chain (n + 1))

/-- The scan is over after some number of steps, with the sources or with a failure. -/
def Ends (d : Disk) (s : ScanSettings) : Prop :=
  ∀ scan, start d s = .ok scan → ∃ n, (run d s n scan).isSome

theorem declares_iff : Declares d s f g ↔ ∃ path text code,
    readFirst? d f.candidates = some (path, text) ∧ Code.File.parse text = .ok code ∧
      g ∈ declaredFilesAll s.skipModule path (placeOf f path) code.items := by
  unfold Declares declaredBy
  constructor
  · intro hg
    split at hg
    · cases hg
    · next path text hread =>
        split at hg
        · cases hg
        · next code hparse => exact ⟨path, text, code, hread, hparse, hg⟩
  · rintro ⟨path, text, code, hread, hparse, hg⟩
    simpa only [hread, hparse] using hg

theorem Reaches.of_declares (hf : Reaches d s f) (h : Declares d s f g) : Reaches d s g := by
  obtain ⟨path, text, code, hread, hparse, hg⟩ := declares_iff.mp h
  exact .declared hf hread hparse hg

theorem Declares.length_lt (h : Declares d s f g) :
    f.module.segments.length < g.module.segments.length := by
  obtain ⟨path, text, code, -, -, hg⟩ := declares_iff.mp h
  exact (isBelow_of_mem_declaredFilesAll _ _ (placeOf f path) _ g hg).length_lt

theorem Declares.declaredIn_isSome (h : Declares d s f g) : g.declaredIn.isSome := by
  obtain ⟨path, text, code, -, -, hg⟩ := declares_iff.mp h
  rw [(isBelow_of_mem_declaredFilesAll _ _ (placeOf f path) _ g hg).declaredIn_eq]
  rfl

instance : Std.Irrefl (Function.swap (Declares d s)) where
  irrefl _ h := lt_irrefl _ h.length_lt

theorem Declares.isRoot_eq_false (h : Declares d s f g) : g.module.isRoot = false := by
  have hlength := h.length_lt
  rw [ModulePath.isRoot, List.isEmpty_eq_false_iff]
  exact List.ne_nil_of_length_pos (Nat.zero_lt_of_lt hlength)

/-! ## Reading a file again -/

theorem read_of_readFirst? {candidates : List String} {path text : String}
    (h : readFirst? d candidates = some (path, text)) : d.read path = .ok text := by
  obtain ⟨candidate, -, hcandidate⟩ := List.exists_of_findSome?_eq_some h
  split at hcandidate
  · next hread =>
      obtain ⟨rfl, rfl⟩ := Prod.mk.inj (Option.some.inj hcandidate)
      exact hread
  · cases hcandidate

theorem placeRead?_of_alike (h : f.Alike g) : placeRead? d f = placeRead? d g := by
  unfold placeRead?
  rw [h.candidates]
  congr 1
  funext ⟨path, _⟩
  simp only [placeOf, h.ownsDirectory]

/-- A file that is read at the place of another one declares the same files again. -/
theorem Declares.again {f' : PendingFile} (h : Declares d s f f')
    (hplace : placeRead? d f = placeRead? d g) (hg : g.module.isRoot = false) :
    ∃ g', Declares d s g g' ∧ placeRead? d f' = placeRead? d g' := by
  obtain ⟨path, text, code, hread, hparse, hf'⟩ := declares_iff.mp h
  -- it is read at the same path, and so it has the same text
  have hsome : placeRead? d g = some (path, (placeOf f path).childDir) := by
    rw [← hplace, placeRead?, hread, Option.map_some]
  obtain ⟨⟨path', text'⟩, hread', hplace'⟩ := Option.map_eq_some_iff.mp hsome
  obtain ⟨rfl, hchild⟩ := Prod.mk.inj hplace'
  have htext : text = text' :=
    Except.ok.inj ((read_of_readFirst? hread).symm.trans (read_of_readFirst? hread'))
  obtain rfl := htext
  have halike : (placeOf f path').Alike (placeOf g path') := ⟨hchild, rfl, hg⟩
  obtain ⟨g', hg', hfg'⟩ := exists_alike_of_mem_declaredFilesAll path' halike code.items f' hf'
  exact ⟨g', declares_iff.mpr ⟨path', text, code, hread', hparse, hg'⟩, placeRead?_of_alike hfg'⟩

theorem isRoot_eq_false_of_leads (h : TransGen (Declares d s) f g) : g.module.isRoot = false := by
  cases h with
  | single h => exact h.isRoot_eq_false
  | tail _ h => exact h.isRoot_eq_false

/-- It leads to files at the same places as well. -/
theorem leads_again {f' : PendingFile} (h : TransGen (Declares d s) f f')
    (hplace : placeRead? d f = placeRead? d g) (hg : g.module.isRoot = false) :
    ∃ g', TransGen (Declares d s) g g' ∧ placeRead? d f' = placeRead? d g' := by
  induction h with
  | single h =>
      obtain ⟨g', hg', hplace'⟩ := h.again hplace hg
      exact ⟨g', .single hg', hplace'⟩
  | tail _ h ih =>
      obtain ⟨g', hg', hplace'⟩ := ih
      obtain ⟨g'', hg'', hplace''⟩ := h.again hplace' (isRoot_eq_false_of_leads hg')
      exact ⟨g'', hg'.tail hg'', hplace''⟩

/-- A file that leads to one read at its place leads on for ever: the circle is gone through again
from where it closes. -/
theorem not_acc_of_circle (h : TransGen (Declares d s) f g)
    (hplace : placeRead? d f = placeRead? d g) :
    ¬ Acc (Function.swap (Declares d s)) f := by
  intro hacc
  have hacc' : Acc (TransGen (Function.swap (Declares d s))) f := hacc.transGen
  induction hacc' generalizing g with
  | intro f _ ih =>
      -- from `g` the way is gone once more, to a file that is read where `g` is
      obtain ⟨g', hg', hplace'⟩ := leads_again h hplace (isRoot_eq_false_of_leads h)
      have hbelow : TransGen (Function.swap (Declares d s)) g f := Relation.transGen_swap.mpr h
      exact ih g hbelow hg' hplace' (hacc.inv_of_transGen hbelow)

/-! ## The places are finitely many -/

theorem finite_setOf_utf8ByteSize_le (n : Nat) :
    {path : String | path.utf8ByteSize ≤ n}.Finite := by
  have hbytes : Finite UInt8 := Finite.of_injective UInt8.toFin fun _ _ => UInt8.toFin_inj.mp
  refine Set.Finite.of_finite_image
    (f := fun path => path.toByteArray.data.toList)
    ((List.finite_length_le UInt8 n).subset ?_) ?_
  · rintro _ ⟨path, hpath, rfl⟩
    exact hpath
  · intro a _ b _ h
    exact String.toByteArray_inj.mp (ByteArray.ext (Array.ext' h))

section Limit

variable {n : Nat} (hlimit : d.limits.path = some n)
include hlimit

theorem utf8ByteSize_le_of_read {path text : String} (h : d.read path = .ok text) :
    path.utf8ByteSize ≤ n := by
  obtain ⟨names, hlocate, -⟩ := bind_eq_ok_iff.mp h
  have hpath := Disk.pathFailure?_eq_none_iff.mp (Disk.locate_eq_ok_iff.mp hlocate).1
  have hallowed := hpath.2.2
  rw [DiskLimits.allowsPath, hlimit] at hallowed
  exact of_decide_eq_true hallowed

/-- There are only finitely many places where files can be read. -/
theorem finite_places : (Set.range (placeRead? d)).Finite := by
  -- the place is that of a path and of whether the file owns its directory
  let place : String × Bool → Option (String × String) := fun (path, owns) =>
    some (path, (placeOf ⟨ModulePath.root, [], owns, none⟩ path).childDir)
  have hfinite := (finite_setOf_utf8ByteSize_le n).prod (Set.finite_univ (α := Bool))
  refine ((hfinite.image place).insert none).subset ?_
  rintro _ ⟨f, rfl⟩
  cases hread : readFirst? d f.candidates with
  | none => exact .inl (by rw [placeRead?, hread, Option.map_none])
  | some found =>
      obtain ⟨path, text⟩ := found
      refine .inr ⟨(path, f.ownsDirectory), ⟨?_, trivial⟩, ?_⟩
      · exact utf8ByteSize_le_of_read hlimit (read_of_readFirst? hread)
      · rw [placeRead?, hread, Option.map_some]
        rfl

end Limit

theorem leads_of_lt {chain : Nat → PendingFile}
    (hchain : ∀ n, Declares d s (chain n) (chain (n + 1))) {i j : Nat} (hij : i < j) :
    TransGen (Declares d s) (chain i) (chain j) := by
  induction j, hij using Nat.le_induction with
  | base => exact .single (hchain i)
  | succ j _ ih => exact ih.tail (hchain j)

/-- Where a way along the declarations does not end, it comes to a place again. -/
theorem Endless.circles {n : Nat} (hlimit : d.limits.path = some n) (hf : Reaches d s f)
    (h : Endless d s f) : Circles d s := by
  obtain ⟨chain, rfl, hchain⟩ := h
  have hreaches : ∀ n, Reaches d s (chain n) := by
    intro n
    induction n with
    | zero => exact hf
    | succ n ih => exact ih.of_declares (hchain n)
  -- an endless way has more files than there are places
  obtain ⟨i, j, hij, hplace⟩ :=
    (finite_places hlimit).exists_lt_map_eq_of_forall_mem (f := fun n => placeRead? d (chain n))
      fun n => Set.mem_range_self (chain n)
  exact ⟨chain i, chain j, hreaches i, leads_of_lt hchain hij, hplace⟩

/-! ## Emptying the queue -/

/-- A step puts the files that the first one declares in its place. -/
theorem pending_of_step {rest : List PendingFile} {sources : SourceSet} {scan : Scan}
    (h : step d s ⟨f :: rest, sources⟩ = .ok scan) :
    scan.pending = rest ++ declaredBy d s f := by
  unfold declaredBy
  cases hread : readFirst? d f.candidates with
  | none =>
      cases hmissing : missing d s f sources with
      | error e =>
          have hstep : step d s ⟨f :: rest, sources⟩ = .error e := by simp [step, hread, hmissing]
          rw [hstep] at h
          cases h
      | ok sources' =>
          obtain rfl : ⟨rest, sources'⟩ = scan := by simpa [step, hread, hmissing] using h
          exact (List.append_nil rest).symm
  | some found =>
      obtain ⟨path, text⟩ := found
      cases hparse : Code.File.parse text with
      | error e =>
          obtain rfl : ⟨rest, sources.remark (.parseFailed path e.located)⟩ = scan := by
            simpa [step, hread, SourceSet.add, hparse] using h
          simp [hparse]
      | ok code =>
          obtain rfl : ⟨rest ++ declaredFilesAll s.skipModule path (placeOf f path) code.items,
              (sources.add f.module path text).1⟩ = scan := by
            simpa [step, hread, SourceSet.add, hparse] using h
          simp [hparse]

/-- A file with which no scan fails: it can be read, or it was declared in another one. -/
def NeverFails (d : Disk) (f : PendingFile) : Prop :=
  (readFirst? d f.candidates).isSome ∨ f.declaredIn.isSome

theorem step_isOk (hf : NeverFails d f) (rest : List PendingFile) (sources : SourceSet) :
    ∃ scan, step d s ⟨f :: rest, sources⟩ = .ok scan := by
  cases hread : readFirst? d f.candidates with
  | none =>
      have hdeclared : f.declaredIn.isSome := hf.resolve_left (by simp [hread])
      obtain ⟨path, hpath⟩ := Option.isSome_iff_exists.mp hdeclared
      exact ⟨_, by simp [step, hread, missing, hpath]; rfl⟩
  | some found =>
      obtain ⟨path, text⟩ := found
      cases hparse : Code.File.parse text with
      | error e => exact ⟨_, by simp [step, hread, SourceSet.add, hparse]; rfl⟩
      | ok code => exact ⟨_, by simp [step, hread, SourceSet.add, hparse]; rfl⟩

theorem run_nil (n : Nat) (sources : SourceSet) : run d s n ⟨[], sources⟩ = some (.ok sources) := by
  cases n <;> rfl

theorem run_succ_cons (n : Nat) (f : PendingFile) (rest : List PendingFile) (sources : SourceSet) :
    run d s (n + 1) ⟨f :: rest, sources⟩ =
      match step d s ⟨f :: rest, sources⟩ with
      | .error e => some (.error e)
      | .ok scan => run d s n scan := rfl

/-- A queue of files none of which leads on for ever is emptied: with every step it gets smaller, as
finitely many files below it take the place of one. -/
theorem ends_of_acc (scan : Scan)
    (hpending : ∀ f ∈ scan.pending, Acc (Function.swap (Declares d s)) f) :
    ∃ n, (run d s n scan).isSome := by
  have hacc : Acc (CutExpand (Function.swap (Declares d s)))
      (scan.pending : Multiset PendingFile) :=
    Relation.acc_of_singleton fun f hf => (hpending f hf).cutExpand
  generalize hqueue : (scan.pending : Multiset PendingFile) = queue at hacc
  clear hpending
  induction hacc generalizing scan with
  | intro queue _ ih =>
      subst hqueue
      obtain ⟨pending, sources⟩ := scan
      cases pending with
      | nil => exact ⟨0, by rw [run_nil]; rfl⟩
      | cons f rest =>
          cases hstep : step d s ⟨f :: rest, sources⟩ with
          | error e => exact ⟨1, by rw [run_succ_cons, hstep]; rfl⟩
          | ok scan' =>
              -- the file is cut, and those that it declares grow in its place
              have hcut : CutExpand (Function.swap (Declares d s))
                  (scan'.pending : Multiset PendingFile) (f :: rest : List PendingFile) := by
                refine ⟨declaredBy d s f, f, fun g hg => hg, ?_⟩
                rw [pending_of_step hstep, ← Multiset.coe_add, ← Multiset.cons_coe,
                  ← Multiset.singleton_add, add_comm, ← add_assoc]
              obtain ⟨n, hn⟩ := ih _ hcut scan' rfl
              exact ⟨n + 1, by rw [run_succ_cons, hstep]; exact hn⟩

/-- If a queue of files with which no scan fails is emptied, none of them led on for ever. -/
theorem acc_of_run (n : Nat) {scan : Scan} (hpending : ∀ f ∈ scan.pending, NeverFails d f)
    (h : (run d s n scan).isSome) :
    ∀ f ∈ scan.pending, Acc (Function.swap (Declares d s)) f := by
  induction n generalizing scan with
  | zero =>
      obtain ⟨pending, sources⟩ := scan
      cases pending with
      | nil => exact fun f hf => by cases hf
      | cons f rest => cases h
  | succ n ih =>
      obtain ⟨pending, sources⟩ := scan
      cases pending with
      | nil => exact fun f hf => by cases hf
      | cons f rest =>
          obtain ⟨hf, hrest⟩ := List.forall_mem_cons.mp hpending
          obtain ⟨scan', hstep⟩ := step_isOk (s := s) hf rest sources
          rw [run_succ_cons, hstep] at h
          -- what the file declares is in the queue that the rest of the run empties
          have hacc : ∀ g ∈ rest ++ declaredBy d s f, Acc (Function.swap (Declares d s)) g := by
            rw [← pending_of_step hstep]
            refine ih ?_ h
            rw [pending_of_step hstep]
            intro g hg
            rcases List.mem_append.mp hg with hg | hg
            · exact hrest g hg
            · exact .inr (Declares.declaredIn_isSome hg)
          obtain ⟨haccRest, haccDeclared⟩ := List.forall_mem_append.mp hacc
          exact List.forall_mem_cons.mpr ⟨.intro f haccDeclared, haccRest⟩

/-! ## The result -/

theorem exists_entry {scan : Scan} (h : start d s = .ok scan) : ∃ f, scan.pending = [f] := by
  unfold start at h
  split at h
  · obtain rfl := Except.ok.inj h
    exact ⟨_, rfl⟩
  · cases h

/-- When a scan ends, no file that it comes to leads on for ever. -/
theorem Ends.acc (h : Ends d s) (hf : Reaches d s f) : Acc (Function.swap (Declares d s)) f := by
  induction hf with
  | @entry scan f hstart hf =>
      obtain ⟨entry, hentry⟩ := exists_entry hstart
      obtain rfl : f = entry := List.mem_singleton.mp (hentry ▸ hf)
      cases hread : readFirst? d f.candidates with
      | none =>
          -- nothing is declared in an entry that cannot be read
          have hnone : declaredBy d s f = [] := by rw [declaredBy, hread]
          refine .intro f fun g (hg : g ∈ declaredBy d s f) => ?_
          rw [hnone] at hg
          cases hg
      | some found =>
          obtain ⟨n, hn⟩ := h scan hstart
          refine acc_of_run n (fun g hg => .inl ?_) hn f hf
          rw [hentry] at hg
          rw [List.mem_singleton.mp hg, hread]
          rfl
  | declared _ hread hparse hg ih =>
      exact ih.inv (declares_iff.mpr ⟨_, _, _, hread, hparse, hg⟩)

theorem endless_iff_not_acc : Endless d s f ↔ ¬ Acc (Function.swap (Declares d s)) f :=
  (not_acc_iff_exists_descending_chain (r := Function.swap (Declares d s))).symm

/-- A scan ends exactly if it comes to no file from which a way goes on for ever. -/
theorem ends_iff_not_endless : Ends d s ↔ ∀ f, Reaches d s f → ¬ Endless d s f := by
  simp only [endless_iff_not_acc, not_not]
  exact ⟨fun hends f hf => hends.acc hf, fun hacc scan hstart =>
    ends_of_acc scan fun f hf => hacc f (.entry hstart hf)⟩

theorem not_ends_of_circles (h : Circles d s) : ¬ Ends d s := by
  obtain ⟨f, g, hf, hleads, hplace⟩ := h
  exact fun hends => not_acc_of_circle hleads hplace (hends.acc hf)

/-- An answer is only given by a scan that ends. -/
theorem ends_of_scan? {result : Except ScanFailure SourceSet} (h : scan? d s = some result) :
    Ends d s := by
  intro scan hstart
  refine ⟨enough d, ?_⟩
  rw [scan?, hstart] at h
  rw [show run d s (enough d) scan = some result from h]
  rfl

/-- **A scan ends exactly if no file leads back to its own place.** For every disk, whatever its
files declare, the scan is over after finitely many steps unless it comes to a file from which there
is a way along declarations that goes on for ever. Whatever the greatest length of a path is, this is
so exactly if it comes to a file from which declarations lead to one that is read at the same path
and has the files of its modules in the same directory. -/
theorem ends_iff (d : Disk) (s : ScanSettings) :
    (Ends d s ↔ ∀ f, Reaches d s f → ¬ Endless d s f)
    ∧ ∀ n, d.limits.path = some n → (Ends d s ↔ ¬ Circles d s) := by
  refine ⟨ends_iff_not_endless, fun n hlimit => ⟨fun hends hcircles => ?_, fun hcircles => ?_⟩⟩
  · exact not_ends_of_circles hcircles hends
  · exact ends_iff_not_endless.mpr fun f hf hendless => hcircles (hendless.circles hlimit hf)

end Scan

/-- A crate of one file. -/
def singleFile (text : String) : Disk :=
  ⟨.directory [("src", .directory [("lib.rs", .file (.text text))])], [], .usual⟩

/-- The file that the crate starts with. -/
def entryFile : PendingFile := ⟨ModulePath.root, ["src/lib.rs"], true, none⟩

/-- Where the first file declares nothing, the scan ends. -/
theorem ends_emptyFile : (singleFile "").limits.path = some 4095
    ∧ (Scan.Ends (singleFile "") { root := "src" } ↔ ¬ Scan.Circles (singleFile "") { root := "src" })
    ∧ Scan.Ends (singleFile "") { root := "src" } := by
  have hfound : Scan.entry? (singleFile "") "src" = some "src/lib.rs" := by decide +kernel
  have hdeclared : Scan.declaredBy (singleFile "") { root := "src" } entryFile = [] := by
    decide +kernel
  have hreaches : ∀ f, Scan.Reaches (singleFile "") { root := "src" } f → f = entryFile := by
    intro f hf
    induction hf with
    | entry hstart hf =>
        rw [Scan.start, hfound] at hstart
        obtain rfl := Except.ok.inj hstart
        exact List.mem_singleton.mp hf
    | declared _ hread hparse hg ih =>
        subst ih
        have hdeclares := Scan.declares_iff.mpr ⟨_, _, _, hread, hparse, hg⟩
        rw [Scan.Declares, hdeclared] at hdeclares
        cases hdeclares
  have hends := Scan.ends_iff (singleFile "") { root := "src" }
  refine ⟨rfl, hends.2 4095 rfl, hends.1.mpr ?_⟩
  rintro f hf ⟨chain, rfl, hchain⟩
  have hnext := hchain 0
  rw [hreaches _ hf, Scan.Declares, hdeclared] at hnext
  cases hnext

/-- A file that declares itself as a module. -/
def selfDeclaringText : String := "#[path = \"lib.rs\"] mod a;"

/-- It is read for ever. -/
theorem not_ends_selfDeclaring : ¬ Scan.Ends (singleFile selfDeclaringText) { root := "src" } := by
  -- the same file, now as that of the module in it
  let again : PendingFile := ⟨⟨["a"]⟩, ["src/lib.rs"], true, some "src/lib.rs"⟩
  have hstart : Scan.start (singleFile selfDeclaringText) { root := "src" }
      = .ok ⟨[entryFile], {}⟩ := by
    have hfound : Scan.entry? (singleFile selfDeclaringText) "src" = some "src/lib.rs" := by
      decide +kernel
    rw [Scan.start, hfound]
    rfl
  have hdeclared : Scan.declaredBy (singleFile selfDeclaringText) { root := "src" } entryFile
      = [again] := by
    decide +kernel
  have hentry : Scan.Reaches (singleFile selfDeclaringText) { root := "src" } entryFile :=
    .entry hstart (List.mem_singleton_self entryFile)
  have hleads : Scan.Declares (singleFile selfDeclaringText) { root := "src" } entryFile again := by
    rw [Scan.Declares, hdeclared]
    exact List.mem_singleton_self again
  exact Scan.not_ends_of_circles
    ⟨entryFile, again, hentry, .single hleads, Scan.placeRead?_of_alike ⟨rfl, rfl⟩⟩

end BuilderForge
