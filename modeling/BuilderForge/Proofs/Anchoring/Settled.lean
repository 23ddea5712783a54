import BuilderForge.Proofs.Anchoring.Accounts
import BuilderForge.Proofs.Resolution.Supply

set_option autoImplicit false

/-! # Which paths of an anchored type are settled

A path is settled if it means the same in every module, or if there has been a note about it. Three
sorts of path are overlooked: those that stand apart from other paths, builtins that go by another
name, and `Self` where nothing is known that it stands for. All others are settled
(`isSettled_iff`).
-/

namespace BuilderForge

open Code (Tree Kind Segment Path PathRole Mention)

/-! ## Names of builtins -/

namespace Registry

variable (r : Registry) (m : ModulePath)

/-- Whether something in the module goes by the name: an item, an import, or what a glob import
supplies. -/
def shadows (name : String) : Bool :=
  match r.scope? m with
  | none => false
  | some scope => scope.hasLocal name || (scope.import? name).isSome
      || scope.globs.any fun glob =>
        match r.resolveIn importDepth m glob.leadingColon glob.segments .import with
        | .crate target => (r.scope? ⟨target⟩).any fun s => s.declares name
        | _ => false

variable {r m}

/-- A name that nothing shadows is neither in the scope of the module nor supplied by a glob. -/
theorem supplier?_of_not_shadows {s : Scope} (hs : r.scope? m = some s) {name : String}
    (h : r.shadows m name = false) :
    s.declares name = false ∧ r.supplier? importDepth m name = none := by
  simp only [shadows, hs, Bool.or_eq_false_iff, Option.isSome_eq_false_iff,
    Option.isNone_iff_eq_none] at h
  obtain ⟨⟨hlocal, himport⟩, hglobs⟩ := h
  refine ⟨(s.declares_eq_false_iff name).mpr ⟨hlocal, himport⟩, ?_⟩
  rw [supplier?_of_scope hs, List.findSome?_eq_none_iff]
  intro glob hglob
  cases hgives : r.gives? importDepth m name glob with
  | none => rfl
  | some target =>
      obtain ⟨hleads, u, hu, hdeclares⟩ := gives?_eq_some_iff.mp hgives
      have hnot := List.any_eq_false.mp hglobs glob hglob
      simp [hleads, hu, hdeclares] at hnot

/-- A path that nothing supplies is builtin by its first name. -/
theorem mem_builtinNames_of_resolveUnscoped {name : String} {rest : List String} {use : PathUse}
    (h : resolveUnscoped (name :: rest) use = .builtin) : name ∈ builtinNames := by
  rw [resolveUnscoped] at h
  by_cases hmem : builtinNames.contains name = true
  · exact List.contains_iff_mem.mp hmem
  · rw [if_neg hmem] at h
    split at h <;> cases h

/-- A builtin goes by its own name, unless that name is shadowed. -/
theorem head_of_builtin {path : Path} (h : r.resolvePath m path = .builtin) :
    ∃ name, path.names.head? = some name ∧ (r.shadows m name = false → name ∈ builtinNames) := by
  rw [resolvePath] at h
  cases hcolon : path.leadingColon with
  | true =>
      rw [hcolon, resolveIn_leading] at h
      cases h
  | false =>
  cases hnames : path.names with
  | nil =>
      rw [hcolon, hnames] at h
      cases h
  | cons name rest =>
  rw [hcolon, hnames] at h
  by_cases hkeyword : isPathKeyword name = true
  · exact absurd h (resolveIn_keyword_ne_builtin hkeyword)
  rw [Bool.not_eq_true] at hkeyword
  refine ⟨name, rfl, fun hshadows => ?_⟩
  cases hs : r.scope? m with
  | none =>
      rw [resolveIn_unscoped hkeyword hs] at h
      exact mem_builtinNames_of_resolveUnscoped h
  | some s =>
      obtain ⟨hdeclares, hsupplier⟩ := supplier?_of_not_shadows hs hshadows
      rw [resolveIn_unsupplied hkeyword hs hdeclares hsupplier] at h
      exact mem_builtinNames_of_resolveUnscoped h

end Registry

/-! ## Settled paths -/

section Settled

variable (r : Registry) (m : ModulePath)

/-- The path begins with the name of a builtin that nothing in the module shadows. -/
def Registry.StartsBuiltin (x : Mention) : Prop :=
  ∃ i, x.idents.head? = some i ∧ i.name ∈ builtinNames ∧ r.shadows m i.name = false

/-- The path leads to a builtin under a name that something in the module goes by. -/
def Registry.RenamesBuiltin (x : Mention) : Prop :=
  r.resolvePath m x.path = .builtin
    ∧ ∃ i, x.idents.head? = some i ∧ r.shadows m i.name = true

theorem startsBuiltin_or_renamesBuiltin {x : Mention} (h : r.resolvePath m x.path = .builtin) :
    r.StartsBuiltin m x ∨ r.RenamesBuiltin m x := by
  obtain ⟨name, hhead, hmem⟩ := Registry.head_of_builtin h
  obtain ⟨i, hi, hname⟩ : ∃ i, x.idents.head? = some i ∧ i.name = name := by
    have hnames : x.path.names = x.idents.map Code.Ident.name := by
      simp [Mention.path, Path.names, Segment.ofIdent, Segment.ident, Function.comp_def]
    rw [hnames, List.head?_map] at hhead
    exact Option.map_eq_some_iff.mp hhead
  cases hshadows : r.shadows m name with
  | false => exact Or.inl ⟨i, hi, hname ▸ hmem hshadows, hname ▸ hshadows⟩
  | true => exact Or.inr ⟨h, i, hi, hname ▸ hshadows⟩

/-- The path is absolute, or a builtin under its own name, or it was noted. -/
def Registry.IsSettled (noted : List String) (x : Mention) : Prop :=
  x.isAbsolute = true ∨ r.StartsBuiltin m x ∨ x.written ∈ noted

/-- A module as the place of a type, with the path that `Self` stands for, if there is one. -/
def Place.ofModule (selfPath : Option Path) : Place :=
  match selfPath with
  | none => ⟨r, m, none⟩
  | some path => (Place.mk r m none).withSelf path

/-- The paths in the arguments of the path that `Self` stands for. -/
def selfMentions (selfPath : Option Path) : List Mention :=
  selfPath.toList.flatMap fun path => Tree.segmentMentions path.segments

/-- A path that is neither absolute nor a builtin under its own name, and that nobody looks at: it
stands apart in the type as it was written, or it leads to a builtin by another name, or it begins
with a `Self` of the type that nothing is known to stand for. -/
structure Registry.Overlooks (selfPath : Option Path) (t : Tree) (x : Mention) : Prop where
  relative : x.isAbsolute = false
  not_builtin : ¬ r.StartsBuiltin m x
  cause : (x.apart = true ∧ (x ∈ t.mentions ∨ x ∈ selfMentions selfPath))
    ∨ r.RenamesBuiltin m x
    ∨ (x.beginsWith "Self" = true
      ∧ (selfPath = none ∧ x ∈ t.mentions ∨ x ∈ selfMentions selfPath))

variable (selfPath : Option Path)

theorem Place.registry_ofModule : (Place.ofModule r m selfPath).registry = r := by
  cases selfPath <;> rfl

theorem Place.module_ofModule : (Place.ofModule r m selfPath).module = m := by
  cases selfPath <;> rfl

theorem Place.self_ofModule : (Place.ofModule r m selfPath).self = none ↔ selfPath = none := by
  cases selfPath with
  | none => exact ⟨fun _ => rfl, fun _ => rfl⟩
  | some path => simp [Place.ofModule, Place.withSelf]

/-- The paths in the arguments of the path that `Self` stands for are accounted for. -/
theorem selfAccounted_ofModule :
    (Place.ofModule r m selfPath).SelfAccounted (selfMentions selfPath) := by
  cases selfPath with
  | none => exact fun _ hnone => by cases hnone
  | some path =>
      rintro _ ⟨⟩ a ha x hx
      obtain ⟨s, hs, rfl⟩ := List.mem_map.mp ha
      have hown : Tree.argumentMentions s ⊆ selfMentions (some path) := by
        intro y hy
        exact List.mem_flatMap.mpr ⟨path, List.mem_singleton.mpr rfl,
          Tree.mem_segmentMentions.mpr ⟨s, hs, hy⟩⟩
      -- in the path itself, nothing is known that `Self` stands for
      have hbare : (Place.mk r m none).SelfAccounted [] := fun _ hnone => by cases hnone
      cases ((Place.allAccounted_all hbare).2.2.1 s).2 x hx with
      | absolute h => exact .absolute h
      | noted h => exact .noted h
      | builtin h => exact .builtin h
      | apart hapart h =>
          rw [or_iff_left List.not_mem_nil] at h
          exact .apart hapart (Or.inr (hown h))
      | self hself h =>
          rw [or_iff_left List.not_mem_nil] at h
          exact .self hself (Or.inr (hown h.2))

/-- A path of an anchored type is settled, unless it is overlooked; one that is overlooked counts as
settled only if a path that is written like it was noted. -/
theorem isSettled_iff (t : Tree) :
    ∀ x ∈ ((Place.ofModule r m selfPath).anchor t).type.mentions,
      r.IsSettled m ((Place.ofModule r m selfPath).anchor t).notes.unresolved x
        ↔ (r.Overlooks m selfPath t x →
          x.written ∈ ((Place.ofModule r m selfPath).anchor t).notes.unresolved) := by
  intro x hx
  have htree := (Place.allAccounted_all (selfAccounted_ofModule r m selfPath)).1 t
  constructor
  · rintro (habsolute | hbuiltin | hnoted) hoverlooked
    · rw [hoverlooked.relative] at habsolute
      cases habsolute
    · exact absurd hbuiltin hoverlooked.not_builtin
    · exact hnoted
  · intro hnoted
    by_cases habsolute : x.isAbsolute = true
    · exact Or.inl habsolute
    by_cases hbuiltin : r.StartsBuiltin m x
    · exact Or.inr (Or.inl hbuiltin)
    have hrelative : x.isAbsolute = false := (Bool.not_eq_true _).mp habsolute
    refine Or.inr (Or.inr ?_)
    cases htree.run x hx with
    | absolute h => exact absurd h habsolute
    | noted h => exact h
    | builtin h =>
        rw [Place.registry_ofModule, Place.module_ofModule] at h
        have hrenames := (startsBuiltin_or_renamesBuiltin r m h).resolve_left hbuiltin
        exact hnoted ⟨hrelative, hbuiltin, Or.inr (Or.inl hrenames)⟩
    | apart hapart h => exact hnoted ⟨hrelative, hbuiltin, Or.inl ⟨hapart, h⟩⟩
    | self hself h =>
        rw [Place.self_ofModule] at h
        exact hnoted ⟨hrelative, hbuiltin, Or.inr (Or.inr ⟨hself, h⟩)⟩

end Settled

/-! ## A path behind a type in angle brackets

The crate has a struct `Color` and a trait `Paint`. -/

def paintSources : SourceSet where
  files := [⟨"src/lib.rs", .root, [],
    [.unitStruct .everywhere "Color", .named .everywhere ⟨"Paint", false⟩ Tree.absent]⟩]

def colorType : Tree := .path .type false [.ofIdent ⟨"Color", false⟩]

/-- The type `Option<Color>`. -/
def optionalColor : Tree :=
  .path .type false [.mk ⟨"Option", false⟩
    (some (.node .angleArgs [Tree.absent, .op "<", .node .parameters [colorType], .op ">"]))]

/-- The type `<Color as Paint>::Shade`. -/
def colorShade : Tree :=
  .node .qualified [.op "<", colorType,
    .node .asTrait [Tree.keyword "as", .path .other false [.ofIdent ⟨"Paint", false⟩]],
    .op ">", .op "::", .path .other false [.ofIdent ⟨"Shade", false⟩]]

/-- Both paths of the first type are settled: one is a builtin, and the other begins with `crate`.
-/
theorem isSettled_optionalColor :
    ((Place.ofModule (.ofSources paintSources) .root none).anchor optionalColor).type.mentions
        = [⟨false, [⟨"Option", false⟩], false⟩,
          ⟨false, [⟨"crate", false⟩, ⟨"Color", false⟩], false⟩]
      ∧ ∀ x ∈ ((Place.ofModule (.ofSources paintSources) .root none).anchor
          optionalColor).type.mentions,
        (Registry.ofSources paintSources).IsSettled .root [] x := by
  have hmentions : ((Place.ofModule (.ofSources paintSources) .root none).anchor
      optionalColor).type.mentions
        = [⟨false, [⟨"Option", false⟩], false⟩,
          ⟨false, [⟨"crate", false⟩, ⟨"Color", false⟩], false⟩] := by
    decide +kernel
  have hnotes : ((Place.ofModule (.ofSources paintSources) .root none).anchor
      optionalColor).notes.unresolved = [] := by
    decide +kernel
  refine ⟨hmentions, fun x hx => ?_⟩
  have hiff := isSettled_iff (.ofSources paintSources) .root none optionalColor x hx
  rw [hnotes] at hiff
  refine hiff.mpr fun hoverlooked => ?_
  rw [hmentions, List.mem_cons, List.mem_singleton] at hx
  rcases hx with rfl | rfl
  · have hbuiltin : "Option" ∈ builtinNames
        ∧ (Registry.ofSources paintSources).shadows .root "Option" = false := by
      decide +kernel
    exact absurd ⟨_, rfl, hbuiltin⟩ hoverlooked.not_builtin
  · exact absurd hoverlooked.relative (by decide +kernel)

/-- The trait of the second type is left as it was written, and nothing is said about it. -/
theorem not_isSettled_colorShade :
    ¬ ∀ (r : Registry) (m : ModulePath) (selfPath : Option Path) (t : Tree),
      ∀ x ∈ ((Place.ofModule r m selfPath).anchor t).type.mentions,
        r.IsSettled m ((Place.ofModule r m selfPath).anchor t).notes.unresolved x := by
  intro hall
  have hx : ⟨false, [⟨"Paint", false⟩, ⟨"Shade", false⟩], true⟩
      ∈ ((Place.ofModule (.ofSources paintSources) .root none).anchor colorShade).type.mentions := by
    decide +kernel
  have hnotes : ((Place.ofModule (.ofSources paintSources) .root none).anchor
      colorShade).notes.unresolved = [] := by
    decide +kernel
  have hsettled := hall (.ofSources paintSources) .root none colorShade _ hx
  rw [hnotes] at hsettled
  rcases hsettled with habsolute | ⟨i, hi, hmem, -⟩ | hnoted
  · revert habsolute
    decide +kernel
  · obtain rfl := Option.some.inj hi
    revert hmem
    decide +kernel
  · cases hnoted

end BuilderForge
