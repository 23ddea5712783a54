import BuilderForge.Proofs.Registry.Building
import BuilderForge.Proofs.Resolution.Supply

set_option autoImplicit false

/-! # Relative paths

A relative path begins with `self`, with `super` any number of times, or with `self` and `super`
behind it. It should lead to the module that many levels up and go on from there with the names
behind, or nowhere if there are not so many levels (`RelativePath.target`). The number of levels is
counted down by `climb`, which is right at every depth, at the root, and past it (`climb_supers`).

But only a path that begins with `super` is climbed. Behind `self` the names are taken for those of
items, so that a `super` there stays in the path. So a path leads where it should as long as the two
are not mixed, and never if they are (`Registry.resolvePath_relative_iff`).
-/

namespace BuilderForge

open Code (Path Segment)

namespace ModulePath

/-- The module this many levels up. -/
def up? (m : ModulePath) (levels : Nat) : Option ModulePath :=
  if levels ≤ m.segments.length then some ⟨m.segments.take (m.segments.length - levels)⟩ else none

theorem up?_zero (m : ModulePath) : m.up? 0 = some m := by
  simp [up?]

/-- The way up begins with the parent. -/
theorem up?_succ (m : ModulePath) (levels : Nat) :
    m.up? (levels + 1) = m.parent?.bind fun p => p.up? levels := by
  rcases m.segments.eq_nil_or_concat' with h | ⟨above, name, h⟩
  · simp [up?, parent?, h]
  · have hparent : m.parent? = some ⟨above⟩ := by simp [parent?, h]
    have hlength : m.segments.length = above.length + 1 := by simp [h]
    rw [hparent, Option.bind_some, up?, up?, hlength]
    by_cases hle : levels ≤ above.length
    · rw [if_pos (by omega), if_pos hle, h,
        show above.length + 1 - (levels + 1) = above.length - levels by omega,
        List.take_append_of_le_length (by omega)]
    · rw [if_neg (by omega), if_neg hle]

end ModulePath

/-- Above the root there is nothing, and climbing on does not change that. -/
theorem climb_supers_none (levels : Nat) {rest : List String} (hrest : rest.head? ≠ some "super") :
    climb none (List.replicate levels "super" ++ rest) = (none, rest) := by
  induction levels with
  | zero =>
      cases rest with
      | nil => rfl
      | cons name rest =>
          have hname : name ≠ "super" := fun h => hrest (congrArg some h)
          simp [climb, hname]
  | succ levels ih => simpa [List.replicate_succ, climb] using ih

/-- Each `super` in front leads one level up. -/
theorem climb_supers (m : ModulePath) (levels : Nat) {rest : List String}
    (hrest : rest.head? ≠ some "super") :
    climb (some m) (List.replicate levels "super" ++ rest) = (m.up? levels, rest) := by
  induction levels generalizing m with
  | zero =>
      rw [ModulePath.up?_zero]
      cases rest with
      | nil => rfl
      | cons name rest =>
          have hname : name ≠ "super" := fun h => hrest (congrArg some h)
          simp [climb, hname]
  | succ levels ih =>
      rw [ModulePath.up?_succ]
      have hstep : climb (some m) (List.replicate (levels + 1) "super" ++ rest)
          = climb m.parent? (List.replicate levels "super" ++ rest) := by
        simp [List.replicate_succ, climb]
      rw [hstep]
      cases m.parent? with
      | none => exact climb_supers_none levels hrest
      | some p => exact ih p

/-- A relative path: `self` in front or not, then `super` a number of times, then other names. -/
structure RelativePath where
  fromSelf : Bool
  ups : Nat
  rest : List String
  isRelative : fromSelf = true ∨ 0 < ups
  plain : ∀ name ∈ rest, isPathKeyword name = false

namespace RelativePath

/-- The names of the path. -/
def names (x : RelativePath) : List String :=
  (if x.fromSelf then ["self"] else []) ++ (List.replicate x.ups "super" ++ x.rest)

/-- What the path should mean in a module. -/
def target (x : RelativePath) (m : ModulePath) : Resolution :=
  if x.ups ≤ m.segments.length then
    .crate (m.segments.take (m.segments.length - x.ups) ++ x.rest)
  else .unresolved

/-- Whether the path has `super` behind `self`. -/
def IsMixed (x : RelativePath) : Prop := x.fromSelf = true ∧ 0 < x.ups

theorem head?_rest (x : RelativePath) : x.rest.head? ≠ some "super" := by
  intro h
  have hsuper := x.plain "super" (List.mem_of_head? h)
  cases hsuper

end RelativePath

namespace Registry

variable (r : Registry) (m : ModulePath) (x : RelativePath) {path : Path}

/-- Behind `self` the names stay as they are. -/
theorem resolvePath_self (hleading : path.leadingColon = false) (hnames : path.names = x.names)
    (hself : x.fromSelf = true) : r.resolvePath m path
      = .crate (m.segments ++ (List.replicate x.ups "super" ++ x.rest)) := by
  have hbegin : path.names = "self" :: (List.replicate x.ups "super" ++ x.rest) := by
    rw [hnames, RelativePath.names, if_pos hself]
    rfl
  rw [resolvePath, hleading, hbegin]
  rfl

/-- A path that begins with `super` is climbed as far as it says. -/
theorem resolvePath_super (hleading : path.leadingColon = false) (hnames : path.names = x.names)
    (hself : x.fromSelf = false) : r.resolvePath m path = x.target m := by
  obtain ⟨levels, hups⟩ : ∃ levels, x.ups = levels + 1 := by
    rcases x.isRelative with h | h
    · rw [hself] at h
      cases h
    · exact ⟨x.ups - 1, by omega⟩
  have hbegin : path.names = "super" :: (List.replicate levels "super" ++ x.rest) := by
    rw [hnames, RelativePath.names, hself, hups]
    rfl
  have hclimb : climb m.parent? (List.replicate levels "super" ++ x.rest)
      = (m.up? x.ups, x.rest) := by
    rw [← climb_supers m x.ups x.head?_rest, hups]
    simp [List.replicate_succ, climb]
  rw [resolvePath, hleading, hbegin, RelativePath.target]
  simp only [resolveIn, Bool.false_eq_true, if_false, hclimb, ModulePath.up?]
  by_cases hle : x.ups ≤ m.segments.length
  · rw [if_pos hle, if_pos hle]
  · rw [if_neg hle, if_neg hle]

/-- The names of the module above and those behind the prefix are all that is in a path that was
climbed. -/
theorem forall_mem_of_target (hm : ∀ name ∈ m.segments, isPathKeyword name = false)
    {segments : List String} (h : x.target m = .crate segments) :
    ∀ name ∈ segments, isPathKeyword name = false := by
  rw [RelativePath.target] at h
  split at h
  · obtain rfl := Resolution.crate.inj h
    intro name hname
    rcases List.mem_append.mp hname with hname | hname
    · exact hm name (List.mem_of_mem_take hname)
    · exact x.plain name hname
  · cases h

/-- **A relative path means what it should unless it mixes `self` and `super`.** With `super` alone
it is climbed, past the root to nothing, and with `self` alone it goes on in the module. In a
mixed one every `super` is kept as if it were the name of an item. -/
theorem resolvePath_relative_iff (path : Path) (hleading : path.leadingColon = false)
    (hnames : path.names = x.names) :
    (r.resolvePath m path = x.target m ↔ ¬ x.IsMixed)
    ∧ (x.IsMixed → r.resolvePath m path
        = .crate (m.segments ++ (List.replicate x.ups "super" ++ x.rest)))
    ∧ ((∀ name ∈ m.segments, isPathKeyword name = false) →
      ((∀ segments, r.resolvePath m path = .crate segments →
        ∀ name ∈ segments, isPathKeyword name = false) ↔ ¬ x.IsMixed)) := by
  have hunmixed : ¬ x.IsMixed → r.resolvePath m path = x.target m := by
    intro hmixed
    cases hself : x.fromSelf with
    | false => exact resolvePath_super r m x hleading hnames hself
    | true =>
        have hups : x.ups = 0 := Nat.eq_zero_of_not_pos fun h => hmixed ⟨hself, h⟩
        rw [resolvePath_self r m x hleading hnames hself, RelativePath.target, hups]
        simp
  have hleft : x.IsMixed → r.resolvePath m path
      = .crate (m.segments ++ (List.replicate x.ups "super" ++ x.rest)) :=
    fun hmixed => resolvePath_self r m x hleading hnames hmixed.1
  refine ⟨⟨fun heq hmixed => ?_, hunmixed⟩, hleft, fun hm => ⟨fun hplain hmixed => ?_, ?_⟩⟩
  · -- the path that keeps every `super` is longer than the one that is climbed
    have hups := hmixed.2
    rw [hleft hmixed, RelativePath.target] at heq
    split at heq
    · have hlength := congrArg List.length (Resolution.crate.inj heq)
      simp only [List.length_append, List.length_replicate, List.length_take] at hlength
      omega
    · cases heq
  · have hsuper : "super" ∈ List.replicate x.ups "super" :=
      List.mem_replicate.mpr ⟨Nat.pos_iff_ne_zero.mp hmixed.2, rfl⟩
    have hkeyword := hplain _ (hleft hmixed) "super"
      (List.mem_append_right _ (List.mem_append_left _ hsuper))
    cases hkeyword
  · intro hmixed segments h
    rw [hunmixed hmixed] at h
    exact forall_mem_of_target m x hm h

/-! ## A color next door -/

/-- A module with a color in it, and one beside it. -/
def garageSources : SourceSet where
  files := [
    ⟨"src/lib.rs", .root, [], ["paint", "garage"].map (.outlined .everywhere)⟩,
    ⟨"src/paint.rs", ⟨["paint"]⟩, [], [.unitStruct .everywhere "Color"]⟩,
    ⟨"src/garage.rs", ⟨["garage"]⟩, [], []⟩]

/-- A relative path to the color. -/
def toColor (fromSelf : Bool) (ups : Nat) (h : fromSelf = true ∨ 0 < ups) : RelativePath :=
  ⟨fromSelf, ups, ["paint", "Color"], h, by decide⟩

/-- A path of these names. -/
def pathOf (names : List String) : Path := ⟨false, names.map fun name => .ofIdent ⟨name, false⟩⟩

/-- The names `self::super::paint::Color`. -/
def selfSuperColor : Path := pathOf ["self", "super", "paint", "Color"]

/-- The color is found one level up, and two levels up there is nothing. With `self` in front, the
`super` stays where it is. -/
theorem resolvePath_superColor :
    (ofSources garageSources).resolvePath ⟨["garage"]⟩ (pathOf ["super", "paint", "Color"])
        = .crate ["paint", "Color"]
      ∧ (ofSources garageSources).resolvePath ⟨["garage"]⟩
        (pathOf ["super", "super", "paint", "Color"]) = .unresolved
      ∧ (ofSources garageSources).resolvePath ⟨["garage"]⟩ selfSuperColor
        = .crate ["garage", "super", "paint", "Color"] := by
  obtain ⟨hone, -⟩ := resolvePath_relative_iff (ofSources garageSources) ⟨["garage"]⟩
    (toColor false 1 (by decide)) (pathOf ["super", "paint", "Color"]) rfl rfl
  obtain ⟨htwo, -⟩ := resolvePath_relative_iff (ofSources garageSources) ⟨["garage"]⟩
    (toColor false 2 (by decide)) (pathOf ["super", "super", "paint", "Color"]) rfl rfl
  obtain ⟨-, hmixed, -⟩ := resolvePath_relative_iff (ofSources garageSources) ⟨["garage"]⟩
    (toColor true 1 (by decide)) selfSuperColor rfl rfl
  exact ⟨hone.mpr fun h => Bool.noConfusion h.1, htwo.mpr fun h => Bool.noConfusion h.1,
    hmixed ⟨rfl, by decide⟩⟩

/-- A path that mixes `self` and `super` does not lead one level up. -/
theorem not_climbs_selfSuper :
    ¬ ∀ (sources : SourceSet) (m : ModulePath) (x : RelativePath) (path : Path),
      path.leadingColon = false → path.names = x.names →
      (∀ name ∈ m.segments, isPathKeyword name = false) →
      (ofSources sources).resolvePath m path = x.target m
      ∧ ∀ segments, (ofSources sources).resolvePath m path = .crate segments →
        ∀ name ∈ segments, isPathKeyword name = false := by
  intro h
  obtain ⟨hclimbs, -⟩ := h garageSources ⟨["garage"]⟩ (toColor true 1 (by decide)) selfSuperColor
    rfl rfl (by decide)
  have hstays : (ofSources garageSources).resolvePath ⟨["garage"]⟩ selfSuperColor
      = .crate ["garage", "super", "paint", "Color"] := rfl
  have hsame := hstays.symm.trans hclimbs
  revert hsame
  decide

end Registry

end BuilderForge
