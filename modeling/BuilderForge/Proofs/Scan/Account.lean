import BuilderForge.Proofs.Scan.Lookup

set_option autoImplicit false

/-! # What a scan records

For every file that a scan comes to it records one thing: the source, or that the text of the file
is no code, or that there is no file (`Scan.record?`). Only sources declare further modules. So the
scan goes through the tree of declarations that begins at the entry, one generation after the other
(`Scan.run_breadthFirst`), and the sources that it ends with are the records of all modules in this
order (`Scan.accounts_of_endsWith`).

The record of a module depends on its own file and on those that it is declared below, whatever
becomes of all others (`Scan.filter_breadthFirst`).
-/

namespace BuilderForge

open Code (Item)

/-! ## Records -/

/-- What is recorded for a file that is looked for. -/
inductive Record where
  | source (file : SourceFile)
  | unparsed (path : String) (e : Code.ParseError)
  | missing (module : ModulePath) (declaredIn : String)

namespace Record

/-- The source that is recorded. -/
def file? : Record → Option SourceFile
  | .source file => some file
  | .unparsed .. | .missing .. => none

/-- What is said of a file that is no source. -/
def remark? : Record → Option Diagnostic
  | .source _ => none
  | .unparsed path e => some (.parseFailed path e.located)
  | .missing module declaredIn => some (.missingModuleFile module.display declaredIn)

/-- The files to be looked for after the record of one: those of the modules that a source declares
without a body. -/
def declared (s : ScanSettings) (f : PendingFile) : Record → List PendingFile
  | .source file => (outOfLineIn s.skipModule file.module file.code.items).map fun o =>
      ⟨o.modulePath file.module,
        o.candidates (fileDir file.path) (plainDir (moduleDir f.ownsDirectory file.path)),
        (pathAttribute? o.attrs).isSome, some file.path⟩
  | .unparsed .. | .missing .. => []

end Record

/-- Sources with some records added. -/
def SourceSet.recorded (sources : SourceSet) (records : List Record) : SourceSet where
  files := sources.files ++ records.filterMap Record.file?
  diagnostics := sources.diagnostics ++ records.filterMap Record.remark?

theorem SourceSet.recorded_append (sources : SourceSet) (rs rs' : List Record) :
    (sources.recorded rs).recorded rs' = sources.recorded (rs ++ rs') := by
  simp [recorded]

namespace Scan

/-- The record of a file. There is none if the entry cannot be read. -/
def record? (d : Disk) (f : PendingFile) : Option Record :=
  match readFirst? d f.candidates with
  | none => f.declaredIn.map fun path => .missing f.module path
  | some (path, text) =>
      match Code.File.parse text with
      | .ok code => some (.source ⟨path, f.module, code⟩)
      | .error e => some (.unparsed path e)

/-! ## The tree of declarations -/

/-- A file that is looked for, and those that it is declared below, from the nearest one to the
entry. -/
structure Trail where
  file : PendingFile
  above : List PendingFile

/-- The way to a file that is declared at the end of another way. -/
def Trail.below (t : Trail) (f : PendingFile) : Trail := ⟨f, t.file :: t.above⟩

/-- The files that a file leads to. -/
def declared (d : Disk) (s : ScanSettings) (f : PendingFile) : List PendingFile :=
  ((record? d f).map (Record.declared s f)).getD []

/-- The files that are declared in those of a generation, in the order of their declarations. -/
def next (d : Disk) (s : ScanSettings) (level : List Trail) : List Trail :=
  level.flatMap fun t => (declared d s t.file).map t.below

/-- The generation that comes so many times after the first one. -/
def generation (d : Disk) (s : ScanSettings) (level : List Trail) : Nat → List Trail
  | 0 => level
  | n + 1 => generation d s (next d s level) n

/-- So many generations, one after the other. -/
def breadthFirst (d : Disk) (s : ScanSettings) (level : List Trail) : Nat → List Trail
  | 0 => []
  | n + 1 => level ++ breadthFirst d s (next d s level) n

/-- The first generation, which is the entry. -/
def origin (d : Disk) (s : ScanSettings) : List Trail :=
  match entry? d s.root with
  | none => []
  | some path => [⟨⟨ModulePath.root, [path], true, none⟩, []⟩]

/-- The account of a scan: all files that are declared below the entry and the entry itself, breadth
first, each with its record, are what the scan ends with. -/
structure Accounts (d : Disk) (s : ScanSettings) (sources : SourceSet)
    (account : List (Trail × Record)) : Prop where
  /-- Behind these generations there is none. -/
  all : ∃ depth, generation d s (origin d s) depth = []
    ∧ account.map (·.1) = breadthFirst d s (origin d s) depth
  records : ∀ e ∈ account, record? d e.1.file = some e.2
  files : sources.files = account.filterMap (·.2.file?)
  remarks : sources.diagnostics = account.filterMap (·.2.remark?)

/-- The scan ends with these sources. -/
def EndsWith (d : Disk) (s : ScanSettings) (sources : SourceSet) : Prop :=
  ∃ scan n, start d s = .ok scan ∧ run d s n scan = some (.ok sources)

variable {d d' : Disk} {s : ScanSettings} {f : PendingFile} {level : List Trail}
  {sources result : SourceSet}

/-! ## Steps -/

/-- A file that is declared in another one, or the entry, which is looked for at one path. -/
def IsSought (f : PendingFile) : Prop := f.declaredIn.isSome ∨ ∃ path, f.candidates = [path]

theorem isSought_of_mem_declared {g : PendingFile} (h : g ∈ declared d s f) : IsSought g := by
  unfold declared at h
  cases hrecord : record? d f with
  | none => simp [hrecord] at h
  | some r =>
      rw [hrecord, Option.map_some, Option.getD_some] at h
      cases r with
      | source file =>
          obtain ⟨o, -, rfl⟩ := List.mem_map.mp h
          exact .inl rfl
      | unparsed | missing => cases h

/-- A step records the first file and goes on to those that it leads to. -/
theorem step_of_record? {r : Record} (h : record? d f = some r) (rest : List PendingFile)
    (sources : SourceSet) : step d s ⟨f :: rest, sources⟩
      = .ok ⟨rest ++ declared d s f, sources.recorded [r]⟩ := by
  rw [declared, h]
  unfold record? at h
  cases hread : readFirst? d f.candidates with
  | none =>
      rw [hread] at h
      obtain ⟨path, hpath, rfl⟩ := Option.map_eq_some_iff.mp h
      simp [step, hread, missing, hpath, SourceSet.recorded, SourceSet.remark, Record.declared,
        Record.file?, Record.remark?]
  | some found =>
      obtain ⟨path, text⟩ := found
      cases hparse : Code.File.parse text with
      | error e =>
          simp only [hread, hparse, Option.some.injEq] at h
          subst h
          simp [step, hread, SourceSet.add, hparse, SourceSet.recorded, SourceSet.remark,
            Record.declared, Record.file?, Record.remark?]
      | ok code =>
          simp only [hread, hparse, Option.some.injEq] at h
          subst h
          -- the scan looks for the modules of the file in the order in which they stand there
          have hdeclared := declaredBy_eq (s := s) hread hparse
          simp only [declaredBy, hread, hparse] at hdeclared
          simp [step, hread, SourceSet.add, hparse, SourceSet.recorded, hdeclared,
            Record.declared, Record.file?, Record.remark?]

/-- A step fails where there is no record. -/
theorem step_of_record?_eq_none (hf : IsSought f) (h : record? d f = none)
    (rest : List PendingFile) (sources : SourceSet) :
    ∃ e, step d s ⟨f :: rest, sources⟩ = .error e := by
  unfold record? at h
  cases hread : readFirst? d f.candidates with
  | none =>
      -- only the entry has no record then, and that it cannot be read is a failure
      rw [hread] at h
      have hentry : f.declaredIn = none := Option.map_eq_none_iff.mp h
      obtain ⟨path, hpath⟩ : ∃ path, f.candidates = [path] := hf.resolve_left (by simp [hentry])
      rw [hpath] at hread
      cases hcause : d.read path with
      | ok text => simp [readFirst?, hcause] at hread
      | error cause =>
          exact ⟨.unreadable path cause, by simp [step, hpath, hread, missing, hentry, hcause]⟩
  | some found =>
      obtain ⟨path, text⟩ := found
      cases hparse : Code.File.parse text <;> simp [hread, hparse] at h

/-- A run that ends well begins with the record of the first file. -/
theorem run_cons (hf : IsSought f) {rest : List PendingFile} {n : Nat}
    (h : run d s n ⟨f :: rest, sources⟩ = some (.ok result)) :
    ∃ r m, record? d f = some r ∧ n = m + 1
      ∧ run d s m ⟨rest ++ declared d s f, sources.recorded [r]⟩ = some (.ok result) := by
  cases n with
  | zero => cases h
  | succ m =>
      rw [run_succ_cons] at h
      cases hrecord : record? d f with
      | none =>
          obtain ⟨e, he⟩ := step_of_record?_eq_none (s := s) hf hrecord rest sources
          rw [he] at h
          cases h
      | some r =>
          rw [step_of_record? hrecord] at h
          exact ⟨r, m, rfl, rfl, h⟩

/-! ## Generations -/

theorem isSought_of_mem_next {t : Trail} (h : t ∈ next d s level) : IsSought t.file := by
  obtain ⟨u, -, ht⟩ := List.mem_flatMap.mp h
  obtain ⟨g, hg, rfl⟩ := List.mem_map.mp ht
  exact isSought_of_mem_declared hg

theorem next_file : (next d s level).map Trail.file
    = level.flatMap fun t => declared d s t.file := by
  simp [next, List.map_flatMap, Trail.below, Function.comp_def]

/-- A run goes through a generation, and behind it in the queue is the next one then. -/
theorem run_level (hlevel : ∀ t ∈ level, IsSought t.file) {later : List PendingFile} {n : Nat}
    (h : run d s n ⟨level.map Trail.file ++ later, sources⟩ = some (.ok result)) :
    ∃ (account : List (Trail × Record)) (m : Nat), account.map (·.1) = level
      ∧ (∀ e ∈ account, record? d e.1.file = some e.2) ∧ n = m + level.length
      ∧ run d s m ⟨later ++ (next d s level).map Trail.file,
          sources.recorded (account.map (·.2))⟩ = some (.ok result) := by
  rw [next_file]
  induction level generalizing later n sources with
  | nil =>
      refine ⟨[], n, rfl, by simp, rfl, ?_⟩
      simpa [SourceSet.recorded] using h
  | cons t level ih =>
      obtain ⟨ht, hlevel⟩ := List.forall_mem_cons.mp hlevel
      rw [List.map_cons, List.cons_append] at h
      obtain ⟨r, m, hrecord, rfl, hrun⟩ := run_cons ht h
      rw [List.append_assoc] at hrun
      obtain ⟨account, k, haccount, hrecords, rfl, hrest⟩ := ih hlevel hrun
      refine ⟨(t, r) :: account, k, by simp [haccount], ?_, by simp; omega, ?_⟩
      · exact List.forall_mem_cons.mpr ⟨hrecord, hrecords⟩
      · simpa [SourceSet.recorded_append] using hrest

/-- A run that ends well goes through all generations. -/
theorem run_breadthFirst (n : Nat) {level : List Trail} {sources : SourceSet}
    (hlevel : ∀ t ∈ level, IsSought t.file)
    (h : run d s n ⟨level.map Trail.file, sources⟩ = some (.ok result)) :
    ∃ (depth : Nat) (account : List (Trail × Record)), generation d s level depth = []
      ∧ account.map (·.1) = breadthFirst d s level depth
      ∧ (∀ e ∈ account, record? d e.1.file = some e.2)
      ∧ result = sources.recorded (account.map (·.2)) := by
  -- a generation that is not empty takes a step at least
  induction n using Nat.strongRecOn generalizing level sources with
  | ind n ih =>
      cases hempty : level with
      | nil =>
          rw [hempty, List.map_nil, run_nil] at h
          obtain rfl := Except.ok.inj (Option.some.inj h)
          exact ⟨0, [], rfl, rfl, by simp, by simp [SourceSet.recorded]⟩
      | cons t rest =>
          rw [← hempty]
          rw [← List.append_nil (level.map Trail.file)] at h
          obtain ⟨account, m, haccount, hrecords, hn, hrun⟩ := run_level hlevel h
          have hm : m < n := by
            rw [hn, hempty, List.length_cons]
            omega
          obtain ⟨depth, others, hdepth, hothers, hrecords', hresult⟩ :=
            ih m hm (fun _ => isSought_of_mem_next) hrun
          refine ⟨depth + 1, account ++ others, hdepth, ?_, ?_, ?_⟩
          · rw [List.map_append, haccount, hothers, breadthFirst]
          · exact List.forall_mem_append.mpr ⟨hrecords, hrecords'⟩
          · rw [hresult, SourceSet.recorded_append, List.map_append]

theorem start_eq {scan : Scan} (h : start d s = .ok scan) :
    scan = ⟨(origin d s).map Trail.file, {}⟩ ∧ ∀ t ∈ origin d s, IsSought t.file := by
  unfold start at h
  unfold origin
  cases hentry : entry? d s.root with
  | none =>
      rw [hentry] at h
      cases h
  | some path =>
      rw [hentry] at h
      obtain rfl := Except.ok.inj h
      exact ⟨rfl, fun t ht => .inr ⟨path, by rw [List.mem_singleton.mp ht]⟩⟩

theorem exists_accounts (h : EndsWith d s sources) : ∃ account, Accounts d s sources account := by
  obtain ⟨scan, n, hstart, hrun⟩ := h
  obtain ⟨rfl, horigin⟩ := start_eq hstart
  obtain ⟨depth, account, hdepth, haccount, hrecords, rfl⟩ := run_breadthFirst n horigin hrun
  refine ⟨account, ⟨depth, hdepth, haccount⟩, hrecords, ?_, ?_⟩
  · simp [SourceSet.recorded, List.filterMap_map]
  · simp [SourceSet.recorded, List.filterMap_map]

/-- An answer with sources is given by a scan that ends with them. -/
theorem endsWith_of_scan? (h : scan? d s = some (.ok sources)) : EndsWith d s sources := by
  unfold scan? at h
  cases hstart : start d s with
  | error e =>
      rw [hstart] at h
      cases Option.some.inj h
  | ok scan =>
      rw [hstart] at h
      exact ⟨scan, enough d, hstart, h⟩

theorem exists_endsWith {modules : List ModulePath}
    (h : ((scan? d s).bind Except.toOption).map (fun sources => sources.files.map SourceFile.module)
      = some modules) :
    ∃ sources, EndsWith d s sources ∧ sources.files.map SourceFile.module = modules := by
  obtain ⟨sources, hsources, hmodules⟩ := Option.map_eq_some_iff.mp h
  obtain ⟨result, hresult, hok⟩ := Option.bind_eq_some_iff.mp hsources
  cases result with
  | error e => cases hok
  | ok _ =>
      obtain rfl := Option.some.inj hok
      exact ⟨_, endsWith_of_scan? hresult, hmodules⟩

/-! ## Two disks -/

/-- The file and those that it is declared below are read alike from both disks. -/
def Trail.ReadAlike (d d' : Disk) (t : Trail) : Prop :=
  ∀ f ∈ t.file :: t.above, readFirst? d' f.candidates = readFirst? d f.candidates

instance (d d' : Disk) (t : Trail) : Decidable (t.ReadAlike d d') :=
  inferInstanceAs (Decidable (∀ f ∈ t.file :: t.above, _))

theorem readFirst?_congr {candidates : List String}
    (h : ∀ path ∈ candidates, d'.read path = d.read path) :
    readFirst? d' candidates = readFirst? d candidates := by
  induction candidates with
  | nil => rfl
  | cons path rest ih =>
      obtain ⟨hpath, hrest⟩ := List.forall_mem_cons.mp h
      have hfirst := ih hrest
      unfold readFirst? at hfirst ⊢
      rw [List.findSome?_cons, List.findSome?_cons, hpath, hfirst]

/-- If the disks differ at one path only, files are read alike unless they, or files that they are
declared below, are looked for there. -/
theorem Trail.readAlike_of_forall {path : String} {t : Trail}
    (hread : ∀ other, other ≠ path → d'.read other = d.read other)
    (ht : ∀ f ∈ t.file :: t.above, path ∉ f.candidates) : t.ReadAlike d d' := by
  refine fun f hf => readFirst?_congr fun other hother => hread other ?_
  rintro rfl
  exact ht f hf hother

theorem Trail.ReadAlike.record?_eq {t : Trail} (h : t.ReadAlike d d') :
    record? d' t.file = record? d t.file := by
  rw [record?, record?, h t.file List.mem_cons_self]

/-- What is declared below a file that is not read alike is not either. -/
theorem filter_next (e : Disk) : (next e s level).filter (·.ReadAlike d d')
    = (level.filter (·.ReadAlike d d')).flatMap fun t =>
      ((declared e s t.file).map t.below).filter (·.ReadAlike d d') := by
  induction level with
  | nil => rfl
  | cons t level ih =>
      rw [next, List.flatMap_cons, List.filter_append, ← next, ih]
      by_cases ht : t.ReadAlike d d'
      · rw [List.filter_cons_of_pos (by simpa using ht), List.flatMap_cons]
      · rw [List.filter_cons_of_neg (by simpa using ht)]
        -- the file is one of those above all that it declares
        have hnone : ((declared e s t.file).map t.below).filter (·.ReadAlike d d') = [] := by
          refine List.filter_eq_nil_iff.mpr fun u hu halike => ht ?_
          obtain ⟨g, -, rfl⟩ := List.mem_map.mp hu
          exact fun f hf => of_decide_eq_true halike f (List.mem_cons_of_mem g hf)
        rw [hnone, List.nil_append]

/-- The files of a generation that are read alike declare the same files. -/
theorem filter_next_eq {level' : List Trail}
    (h : level'.filter (·.ReadAlike d d') = level.filter (·.ReadAlike d d')) :
    (next d' s level').filter (·.ReadAlike d d') = (next d s level).filter (·.ReadAlike d d') := by
  rw [filter_next, filter_next, h]
  refine List.flatMap_congr fun t ht => ?_
  have halike : t.ReadAlike d d' := of_decide_eq_true (List.mem_filter.mp ht).2
  rw [declared, declared, halike.record?_eq]

theorem filter_breadthFirst (n : Nat) {level level' : List Trail}
    (h : level'.filter (·.ReadAlike d d') = level.filter (·.ReadAlike d d')) :
    (breadthFirst d' s level' n).filter (·.ReadAlike d d')
      = (breadthFirst d s level n).filter (·.ReadAlike d d') := by
  induction n generalizing level level' with
  | zero => rfl
  | succ n ih =>
      rw [breadthFirst, breadthFirst, List.filter_append, List.filter_append, h,
        ih (filter_next_eq h)]

theorem breadthFirst_nil (n : Nat) : breadthFirst d s [] n = [] := by
  induction n with
  | zero => rfl
  | succ n ih => exact ih

/-- Behind an empty generation there is none. -/
theorem breadthFirst_add {depth : Nat} {level : List Trail}
    (h : generation d s level depth = []) (n : Nat) :
    breadthFirst d s level (depth + n) = breadthFirst d s level depth := by
  induction depth generalizing level with
  | zero =>
      obtain rfl : level = [] := h
      rw [breadthFirst_nil, breadthFirst_nil]
  | succ depth ih => rw [Nat.succ_add, breadthFirst, breadthFirst, ih h]

variable {sources' : SourceSet} {account account' : List (Trail × Record)}

/-- Some files of an account with their records. -/
theorem Accounts.map_filter (h : Accounts d s sources account) (p : Trail → Bool) :
    (account.filter fun e => p e.1).map (fun e => (e.1, some e.2))
      = ((account.map (·.1)).filter p).map fun t => (t, record? d t.file) := by
  rw [List.filter_map, List.map_map]
  refine List.map_congr_left fun e he => ?_
  rw [Function.comp_apply, h.records e (List.mem_filter.mp he).1]

/-- The accounts of two scans that begin at the same file agree on what is read alike. -/
theorem Accounts.filter_eq (h : Accounts d s sources account)
    (h' : Accounts d' s sources' account') (hentry : entry? d' s.root = entry? d s.root) :
    account'.filter (·.1.ReadAlike d d') = account.filter (·.1.ReadAlike d d') := by
  obtain ⟨depth, hdepth, hall⟩ := h.all
  obtain ⟨depth', hdepth', hall'⟩ := h'.all
  have horigin : origin d' s = origin d s := by rw [origin, origin, hentry]
  -- both go down far enough for all files
  have hfiles : (account'.map (·.1)).filter (·.ReadAlike d d')
      = (account.map (·.1)).filter (·.ReadAlike d d') := by
    rw [hall, hall', ← breadthFirst_add hdepth depth', ← breadthFirst_add hdepth' depth,
      Nat.add_comm depth', horigin]
    exact filter_breadthFirst _ rfl
  have hinjective : Function.Injective fun e : Trail × Record => (e.1, some e.2) := by
    rintro ⟨t, r⟩ ⟨u, q⟩ he
    simpa using he
  refine List.map_injective_iff.mpr hinjective ?_
  rw [h'.map_filter (·.ReadAlike d d'), h.map_filter (·.ReadAlike d d'), hfiles]
  refine List.map_congr_left fun t ht => ?_
  have halike : t.ReadAlike d d' := of_decide_eq_true (List.mem_filter.mp ht).2
  rw [halike.record?_eq]

/-! ## The result -/

/-- **Every declared module is accounted for once.** When a scan ends with sources, they are the
records of the entry and of all modules that are declared below it in files which are read and
parsed, one record for each declaration, breadth first. The scan of another disk with the same entry
records the same in the same order for all modules whose files, and those they are declared below,
are read alike. -/
theorem accounts_of_endsWith (h : EndsWith d s sources) : ∃ account, Accounts d s sources account
    ∧ ∀ d' sources', EndsWith d' s sources' → entry? d' s.root = entry? d s.root →
      ∃ account', Accounts d' s sources' account'
        ∧ account'.filter (·.1.ReadAlike d d') = account.filter (·.1.ReadAlike d d') := by
  obtain ⟨account, haccount⟩ := exists_accounts h
  refine ⟨account, haccount, fun d' sources' h' hentry => ?_⟩
  obtain ⟨account', haccount'⟩ := exists_accounts h'
  exact ⟨account', haccount', haccount.filter_eq haccount' hentry⟩

end Scan

/-- A crate with the modules `a`, `b` and `c`, where the file of `a` has this text and there is none
for `b`. -/
def threeModules (text : String) : Disk :=
  ⟨.directory [("src", .directory [("lib.rs", .file (.text "mod a; mod b; mod c;")),
    ("a.rs", .file (.text text)), ("c.rs", .file (.text ""))])], [], .usual⟩

namespace Scan

/-- The module `c` is recorded whether the file of `a` is code or not. -/
theorem accounts_of_endsWith_threeModules : ∃ sources sources' account account',
    EndsWith (threeModules "struct") { root := "src" } sources
      ∧ EndsWith (threeModules "") { root := "src" } sources'
      ∧ sources.files.map SourceFile.module = [⟨[]⟩, ⟨["c"]⟩]
      ∧ sources'.files.map SourceFile.module = [⟨[]⟩, ⟨["a"]⟩, ⟨["c"]⟩]
      ∧ Accounts (threeModules "struct") { root := "src" } sources account
      ∧ Accounts (threeModules "") { root := "src" } sources' account'
      ∧ account'.filter (·.1.ReadAlike (threeModules "struct") (threeModules ""))
        = account.filter (·.1.ReadAlike (threeModules "struct") (threeModules "")) := by
  have hbroken : ∃ sources, EndsWith (threeModules "struct") { root := "src" } sources
      ∧ sources.files.map SourceFile.module = [⟨[]⟩, ⟨["c"]⟩] :=
    exists_endsWith (by decide +kernel)
  have hmended : ∃ sources, EndsWith (threeModules "") { root := "src" } sources
      ∧ sources.files.map SourceFile.module = [⟨[]⟩, ⟨["a"]⟩, ⟨["c"]⟩] :=
    exists_endsWith (by decide +kernel)
  obtain ⟨sources, hsources, hmodules⟩ := hbroken
  obtain ⟨sources', hsources', hmodules'⟩ := hmended
  obtain ⟨account, haccount, halike⟩ := accounts_of_endsWith hsources
  obtain ⟨account', haccount', hsame⟩ := halike _ sources' hsources' (by decide +kernel)
  exact ⟨sources, sources', account, account', hsources, hsources', hmodules, hmodules', haccount,
    haccount', hsame⟩

end Scan

end BuilderForge
