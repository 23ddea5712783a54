import BuilderForge.ModuleTree
import Mathlib.Data.List.Infix
import Mathlib.Data.List.Pairwise
import Mathlib.Data.String.Basic

set_option autoImplicit false

/-! # The builders of a tree

A tree of modules holds *entries*: builders, each with the names of the modules on the way to it.
Adding a builder adds its entry and nothing else (`entries_push`).

The *path* of an entry ends with the name of the builder module. Two paths clash if one of them
begins with the other. A tree accepts a builder exactly if its path clashes with none
(`insert_eq_ok_iff`), so that in a tree that has grown from the empty one no two paths clash
(`Grown.pairwise`). Such a tree is also tidy: its modules are sorted by name, and none is without a
builder (`Grown.tidy`).
-/

namespace BuilderForge

open Code (Ident)

namespace ModuleTree

/-! ## Entries -/

/-- A builder and the names of the modules it stands in, the outermost first. -/
structure Entry where
  space : List String
  builder : RenderedBuilder

namespace Entry

/-- The names on the way to the builder module, its own one included. -/
def path (e : Entry) : List String := e.space ++ [e.builder.module.text]

/-- The entry as it is seen from outside of the module `name`. -/
def inside (name : String) (e : Entry) : Entry := { e with space := name :: e.space }

@[simp] theorem path_inside (name : String) (e : Entry) : (e.inside name).path = name :: e.path := rfl

@[simp] theorem path_here (b : RenderedBuilder) : (⟨[], b⟩ : Entry).path = [b.module.text] := rfl

end Entry

mutual

/-- The entries of a tree: its own builders and then those of its modules. -/
def entries : ModuleTree → List Entry
  | .node bs cs => bs.map (Entry.mk []) ++ forestEntries cs

/-- The entries of modules. -/
def forestEntries : ModuleForest → List Entry
  | .nil => []
  | .cons name t rest => (entries t).map (Entry.inside name) ++ forestEntries rest

end

mutual

/-- The size of a tree is the number of its entries. -/
theorem size_eq_length_entries : ∀ t : ModuleTree, t.size = t.entries.length
  | .node bs cs => by simp [size, entries, forestSize_eq_length_entries cs]

theorem forestSize_eq_length_entries : ∀ cs : ModuleForest,
    forestSize cs = (forestEntries cs).length
  | .nil => rfl
  | .cons _ t rest => by
      simp [forestSize, forestEntries, size_eq_length_entries t, forestSize_eq_length_entries rest]

end

theorem isEmpty_iff (t : ModuleTree) : t.isEmpty = true ↔ t.entries = [] := by
  simp [isEmpty, size_eq_length_entries]

theorem entries_empty : empty.entries = [] := rfl

/-! ## Adding a builder -/

theorem forestEntries_modify {name : String} {f : ModuleTree → ModuleTree} {e : Entry}
    (hf : ∀ t, (f t).entries.Perm (e :: t.entries)) : ∀ cs : ModuleForest,
    (forestEntries (cs.modify name f)).Perm (e.inside name :: forestEntries cs)
  | .nil => by
      rw [ModuleForest.modify, forestEntries]
      exact ((hf (.node [] .nil)).map _).append_right _
  | .cons n t rest => by
      have hmap : ∀ t, ((f t).entries.map (Entry.inside name)).Perm
          (e.inside name :: t.entries.map (Entry.inside name)) := fun t => by
        simpa using (hf t).map (Entry.inside name)
      unfold ModuleForest.modify
      split
      · next h =>
          subst h
          exact (hmap t).append_right _
      · split
        · exact (hmap (.node [] .nil)).append_right _
        · refine ((forestEntries_modify hf rest).append_left _).trans ?_
          exact List.perm_middle

/-- Adding a builder adds its entry. -/
theorem entries_push (b : RenderedBuilder) (names : List String) (t : ModuleTree) :
    (push b names t).entries.Perm (⟨names, b⟩ :: t.entries) := by
  induction names generalizing t with
  | nil =>
      obtain ⟨bs, cs⟩ := t
      simp only [push, entries, List.map_append, List.map_cons, List.map_nil, List.append_assoc]
      exact List.perm_middle
  | cons name names ih =>
      obtain ⟨bs, cs⟩ := t
      exact ((forestEntries_modify ih cs).append_left _).trans List.perm_middle

end ModuleTree

namespace ModuleForest

/-- The names of the modules. -/
def names : ModuleForest → List String
  | .nil => []
  | .cons name _ rest => name :: rest.names

theorem mem_names_of_find? {name : String} {t : ModuleTree} : ∀ {cs : ModuleForest},
    cs.find? name = some t → name ∈ cs.names
  | .nil, h => by cases h
  | .cons n u rest, h => by
      unfold find? at h
      split at h
      · next hn => exact hn ▸ List.mem_cons_self
      · exact List.mem_cons_of_mem _ (mem_names_of_find? h)

/-- What holds of no modules, and of modules with one more in front, holds of all. -/
@[elab_as_elim]
theorem induction {P : ModuleForest → Prop} (nil : P .nil)
    (cons : ∀ name t rest, P rest → P (.cons name t rest)) : ∀ cs, P cs
  | .nil => nil
  | .cons name t rest => cons name t rest (induction nil cons rest)

theorem mem_names_modify {name n : String} {f : ModuleTree → ModuleTree} : ∀ {cs : ModuleForest},
    n ∈ (cs.modify name f).names ↔ n = name ∨ n ∈ cs.names
  | .nil => by simp [modify, names]
  | .cons m t rest => by
      unfold modify
      split
      · next h =>
          subst h
          simp [names]
      · split
        · simp [names]
        · simp only [names, List.mem_cons, mem_names_modify]
          exact or_left_comm

end ModuleForest

namespace ModuleTree

/-! ## Tidy trees -/

mutual

/-- The modules of a tree are sorted by name, and none of them is without a builder. -/
def Tidy : ModuleTree → Prop
  | .node _ cs => TidyForest cs

/-- Modules are sorted by name, tidy themselves, and none of them is without a builder. -/
def TidyForest : ModuleForest → Prop
  | .nil => True
  | .cons name t rest =>
      (∀ n ∈ rest.names, name < n) ∧ t.entries ≠ [] ∧ Tidy t ∧ TidyForest rest

end

theorem tidyForest_modify {name : String} {f : ModuleTree → ModuleTree}
    (hf : ∀ t, t.Tidy → (f t).Tidy) (hne : ∀ t, (f t).entries ≠ []) : ∀ {cs : ModuleForest},
    TidyForest cs → TidyForest (cs.modify name f)
  | .nil, _ => ⟨by simp [ModuleForest.names], hne _, hf _ trivial, trivial⟩
  | .cons n t rest, ⟨hlt, hfull, ht, hrest⟩ => by
      unfold ModuleForest.modify
      split
      · exact ⟨hlt, hne _, hf _ ht, hrest⟩
      · next hn =>
          split
          · next hname =>
              refine ⟨?_, hne _, hf _ trivial, hlt, hfull, ht, hrest⟩
              intro m hm
              rcases List.mem_cons.mp hm with rfl | hm
              · exact hname
              · exact hname.trans (hlt m hm)
          · next hname =>
              refine ⟨?_, hfull, ht, tidyForest_modify hf hne hrest⟩
              intro m hm
              rcases ModuleForest.mem_names_modify.mp hm with rfl | hm
              · exact lt_of_le_of_ne (not_lt.mp hname) hn
              · exact hlt m hm

theorem tidy_push (b : RenderedBuilder) (names : List String) {t : ModuleTree} (ht : t.Tidy) :
    (push b names t).Tidy := by
  induction names generalizing t with
  | nil =>
      obtain ⟨bs, cs⟩ := t
      exact ht
  | cons name names ih =>
      obtain ⟨bs, cs⟩ := t
      refine tidyForest_modify (fun _ => ih) ?_ ht
      intro t hnil
      have hperm := entries_push b names t
      rw [hnil] at hperm
      exact absurd hperm.nil_eq (by simp)

/-- A module of a tidy forest is tidy and holds a builder. -/
theorem tidy_of_find? {name : String} {t : ModuleTree} : ∀ {cs : ModuleForest}, TidyForest cs →
    cs.find? name = some t → t.Tidy ∧ t.entries ≠ []
  | .nil, _, h => by cases h
  | .cons n u rest, ⟨_, hfull, hu, hrest⟩, h => by
      unfold ModuleForest.find? at h
      split at h
      · obtain rfl := Option.some.inj h
        exact ⟨hu, hfull⟩
      · exact tidy_of_find? hrest h

/-- A tidy tree without builders has no modules either. -/
theorem eq_empty_of_isEmpty {t : ModuleTree} (ht : t.Tidy) (h : t.isEmpty = true) : t = empty := by
  obtain ⟨bs, cs⟩ := t
  have hnone := (isEmpty_iff _).mp h
  rw [entries, List.append_eq_nil_iff, List.map_eq_nil_iff] at hnone
  obtain ⟨rfl, hforest⟩ := hnone
  cases cs with
  | nil => rfl
  | cons name t rest =>
      obtain ⟨-, hfull, -⟩ := ht
      rw [forestEntries, List.append_eq_nil_iff, List.map_eq_nil_iff] at hforest
      exact absurd hforest.1 hfull

/-- The entries of tidy modules are those of the modules that are found by name. -/
theorem mem_forestEntries_iff {e : Entry} : ∀ {cs : ModuleForest}, TidyForest cs →
    (e ∈ forestEntries cs ↔
      ∃ name t, cs.find? name = some t ∧ ∃ e' ∈ t.entries, e'.inside name = e)
  | .nil, _ => by simp [forestEntries, ModuleForest.find?]
  | .cons n u rest, ⟨hlt, _, _, hrest⟩ => by
      rw [forestEntries, List.mem_append, List.mem_map, mem_forestEntries_iff hrest]
      constructor
      · rintro (⟨e', he', rfl⟩ | ⟨name, t, hfind, he⟩)
        · exact ⟨n, u, by simp [ModuleForest.find?], e', he', rfl⟩
        · -- a later module has a greater name
          have hne : n ≠ name := (hlt name (ModuleForest.mem_names_of_find? hfind)).ne
          exact ⟨name, t, by simp [ModuleForest.find?, hne, hfind], he⟩
      · rintro ⟨name, t, hfind, e', he', rfl⟩
        unfold ModuleForest.find? at hfind
        split at hfind
        · next hn =>
            subst hn
            obtain rfl := Option.some.inj hfind
            exact Or.inl ⟨e', he', rfl⟩
        · exact Or.inr ⟨name, t, hfind, e', he', rfl⟩

/-! ## Names of modules -/

mutual

/-- All modules inside of the tree have names with the property. -/
def AllNames (P : String → Prop) : ModuleTree → Prop
  | .node _ cs => (∀ name ∈ cs.names, P name) ∧ AllInnerNames P cs

/-- All modules inside of these modules have names with the property. -/
def AllInnerNames (P : String → Prop) : ModuleForest → Prop
  | .nil => True
  | .cons _ t rest => AllNames P t ∧ AllInnerNames P rest

end

mutual

/-- The names of the modules are those on the way to the builders. -/
theorem allNames_iff {P : String → Prop} : ∀ {t : ModuleTree}, t.Tidy →
    (t.AllNames P ↔ ∀ e ∈ t.entries, ∀ name ∈ e.space, P name)
  | .node bs cs, h => by
      have hcs : TidyForest cs := h
      rw [AllNames, allInnerNames_iff hcs, entries, List.forall_mem_append]
      simp

theorem allInnerNames_iff {P : String → Prop} : ∀ {cs : ModuleForest}, TidyForest cs →
    ((∀ name ∈ cs.names, P name) ∧ AllInnerNames P cs ↔
      ∀ e ∈ forestEntries cs, ∀ name ∈ e.space, P name)
  | .nil, _ => by simp [ModuleForest.names, AllInnerNames, forestEntries]
  | .cons name t rest, ⟨_, hfull, ht, hrest⟩ => by
      obtain ⟨e₀, he₀⟩ := List.exists_mem_of_ne_nil _ hfull
      simp only [ModuleForest.names, AllInnerNames, forestEntries, List.forall_mem_append,
        List.forall_mem_map, List.forall_mem_cons, Entry.inside, ← allInnerNames_iff hrest,
        allNames_iff ht]
      constructor
      · rintro ⟨⟨hname, hnames⟩, hin, hinner⟩
        exact ⟨fun e he => ⟨hname, hin e he⟩, hnames, hinner⟩
      · rintro ⟨hin, hnames, hinner⟩
        exact ⟨⟨(hin e₀ he₀).1, hnames⟩, fun e he => (hin e he).2, hinner⟩

end

/-! ## Paths that clash -/

/-- One of two paths begins with the other. -/
def Clash (p q : List String) : Prop := p <+: q ∨ q <+: p

theorem Clash.symm {p q : List String} (h : Clash p q) : Clash q p := Or.symm h

@[simp] theorem clash_cons {a b : String} {p q : List String} :
    Clash (a :: p) (b :: q) ↔ a = b ∧ Clash p q := by
  simp only [Clash, List.cons_prefix_cons]
  constructor
  · rintro (⟨rfl, h⟩ | ⟨rfl, h⟩)
    · exact ⟨rfl, Or.inl h⟩
    · exact ⟨rfl, Or.inr h⟩
  · rintro ⟨rfl, h | h⟩
    · exact Or.inl ⟨rfl, h⟩
    · exact Or.inr ⟨rfl, h⟩

@[simp] theorem clash_nil_left (p : List String) : Clash [] p := Or.inl p.nil_prefix

@[simp] theorem clash_nil_right (p : List String) : Clash p [] := Or.inr p.nil_prefix

/-- Nothing is in the way where there is no module. -/
theorem collision?_none (module : Ident) (names : List String) (walked : ModulePath) :
    collision? walked module names none = none := by
  induction names generalizing walked with
  | nil => rfl
  | cons name names ih => exact ih _

theorem hasBuilder_iff {bs : List RenderedBuilder} {cs : ModuleForest} {name : String} :
    hasBuilder (.node bs cs) name = true ↔ ∃ b ∈ bs, b.module.text = name := by
  simp [hasBuilder, builders, Ident.isWritten]

/-- An entry of a tidy tree is a builder of its own or comes from one of its modules. -/
theorem forall_entries_iff {bs : List RenderedBuilder} {cs : ModuleForest} (h : TidyForest cs)
    (P : Entry → Prop) : (∀ e ∈ entries (.node bs cs), P e) ↔ (∀ b ∈ bs, P ⟨[], b⟩)
      ∧ ∀ name t, cs.find? name = some t → ∀ e ∈ t.entries, P (e.inside name) := by
  simp only [entries, List.mem_append, List.mem_map, mem_forestEntries_iff h]
  constructor
  · intro hall
    exact ⟨fun b hb => hall _ (Or.inl ⟨b, hb, rfl⟩),
      fun name t ht e he => hall _ (Or.inr ⟨name, t, ht, e, he, rfl⟩)⟩
  · rintro ⟨hown, hmodules⟩ e (⟨b, hb, rfl⟩ | ⟨name, t, ht, e', he', rfl⟩)
    · exact hown b hb
    · exact hmodules name t ht e' he'

/-- The names stand in nobody's way exactly if the path clashes with no entry. -/
theorem collision?_eq_none_iff (module : Ident) (names : List String) (walked : ModulePath)
    {t : ModuleTree} (ht : t.Tidy) : collision? walked module names (some t) = none ↔
      ∀ e ∈ t.entries, ¬ Clash e.path (names ++ [module.text]) := by
  induction names generalizing t walked with
  | nil =>
      obtain ⟨bs, cs⟩ := t
      have hfind : cs.find? module.text = none ↔ ∀ name t, cs.find? name = some t →
          ∀ e ∈ t.entries, name ≠ module.text := by
        constructor
        · rintro hnone name t hsome e - rfl
          rw [hnone] at hsome
          cases hsome
        · intro hall
          by_contra hsome
          obtain ⟨t, hsome⟩ := Option.ne_none_iff_exists'.mp hsome
          obtain ⟨e, he⟩ := List.exists_mem_of_ne_nil _ (tidy_of_find? ht hsome).2
          exact hall _ t hsome e he rfl
      rw [forall_entries_iff ht]
      simp only [collision?, children, List.nil_append, Entry.path_here, Entry.path_inside,
        clash_cons, clash_nil_right, and_true, ← hfind, Option.isSome_iff_ne_none, hasBuilder_iff, Bool.or_eq_true, ite_eq_right_iff, reduceCtorEq, imp_false, not_or,
        not_exists, not_and, not_not]
      exact and_comm
  | cons name names ih =>
      obtain ⟨bs, cs⟩ := t
      rw [forall_entries_iff ht]
      simp only [Entry.path_here, Entry.path_inside, List.cons_append, clash_cons, clash_nil_left,
        and_true, not_and]
      have hbuilders : hasBuilder (.node bs cs) name = false ↔ ∀ b ∈ bs, b.module.text ≠ name := by
        rw [← Bool.not_eq_true, hasBuilder_iff]
        simp
      cases htaken : hasBuilder (.node bs cs) name with
      | true =>
          have hno : ¬ ∀ b ∈ bs, b.module.text ≠ name := by simp [← hbuilders, htaken]
          simp [collision?, htaken, hno]
      | false =>
          simp only [collision?, htaken, Bool.false_eq_true, if_false, Option.bind_some,
            children]
          cases hfind : cs.find? name with
          | none =>
              simp only [collision?_none, true_iff]
              refine ⟨hbuilders.mp htaken, ?_⟩
              rintro n t hsome e - rfl
              rw [hfind] at hsome
              cases hsome
          | some u =>
              rw [ih _ (tidy_of_find? ht hfind).1]
              constructor
              · intro hall
                refine ⟨hbuilders.mp htaken, ?_⟩
                rintro n t hsome e he rfl
                obtain rfl := Option.some.inj (hfind.symm.trans hsome)
                exact hall e he
              · rintro ⟨-, hall⟩ e he
                exact hall name u hfind e he rfl

/-- A tree accepts a builder exactly if its path clashes with none. -/
theorem insert_eq_ok_iff {t t' : ModuleTree} {space : ModulePath} {b : RenderedBuilder}
    (ht : t.Tidy) : t.insert space b = .ok t' ↔
      (∀ e ∈ t.entries, ¬ Clash e.path (Entry.mk space.segments b).path)
        ∧ t' = push b space.segments t := by
  have hnone := collision?_eq_none_iff b.module space.segments ModulePath.root ht
  unfold insert
  split
  · next failure hsome =>
      have hclash : ¬ ∀ e ∈ t.entries, ¬ Clash e.path (Entry.mk space.segments b).path := by
        rw [Entry.path, ← hnone, hsome]
        exact Option.some_ne_none _
      simp only [reduceCtorEq, hclash, false_and]
  · next hfree =>
      rw [Except.ok.injEq]
      exact ⟨fun h => ⟨hnone.mp hfree, h.symm⟩, fun h => h.2.symm⟩

/-- What stands in the way of a builder is always a name. -/
theorem exists_of_collision? {module : Ident} {names : List String} {walked : ModulePath}
    {t : ModuleTree} {failure : BuilderFailure}
    (h : collision? walked module names (some t) = some failure) :
    ∃ space name, failure = .moduleNameCollision space name := by
  induction names generalizing t walked with
  | nil =>
      simp only [collision?] at h
      split at h
      · exact ⟨_, _, (Option.some.inj h).symm⟩
      · cases h
  | cons name names ih =>
      simp only [collision?, Option.bind_some] at h
      split at h
      · exact ⟨_, _, (Option.some.inj h).symm⟩
      · cases hfind : t.children.find? name with
        | none =>
            rw [hfind, collision?_none] at h
            cases h
        | some u =>
            rw [hfind] at h
            exact ih h

/-- A builder that is not accepted is refused because of its name. -/
theorem exists_of_insert_error {t : ModuleTree} {space : ModulePath} {b : RenderedBuilder}
    {failure : BuilderFailure} (h : t.insert space b = .error failure) :
    ∃ m name, failure = .moduleNameCollision m name := by
  unfold insert at h
  split at h
  · next found hfound =>
      obtain rfl := Except.error.inj h
      exact exists_of_collision? hfound
  · cases h

/-! ## Trees that have grown -/

/-- A tree that came about by adding builders to the empty one. -/
inductive Grown : ModuleTree → Prop
  | empty : Grown empty
  | insert {t t' : ModuleTree} {space : ModulePath} {b : RenderedBuilder} (ht : Grown t)
      (h : t.insert space b = .ok t') : Grown t'

theorem Grown.tidy {t : ModuleTree} (ht : t.Grown) : t.Tidy := by
  induction ht with
  | empty => trivial
  | insert _ h ih =>
      obtain ⟨-, rfl⟩ := (insert_eq_ok_iff ih).mp h
      exact tidy_push _ _ ih

/-- No two paths of a tree that has grown clash. -/
theorem Grown.pairwise {t : ModuleTree} (ht : t.Grown) :
    t.entries.Pairwise fun e e' => ¬ Clash e.path e'.path := by
  induction ht with
  | empty => exact List.Pairwise.nil
  | insert ht h ih =>
      obtain ⟨hfree, rfl⟩ := (insert_eq_ok_iff ht.tidy).mp h
      have hsymm : ∀ {e e' : Entry}, ¬ Clash e.path e'.path → ¬ Clash e'.path e.path :=
        fun h h' => h h'.symm
      rw [(entries_push _ _ _).pairwise_iff hsymm, List.pairwise_cons]
      exact ⟨fun e he => hsymm (hfree e he), ih⟩

end ModuleTree

end BuilderForge
