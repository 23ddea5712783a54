import BuilderForge.Proofs.ModuleTree.Declared

set_option autoImplicit false

/-! # Adding builders one after the other

What a tidy tree holds is told by the builders of each of its modules (`eq_of_buildersAt`), and
adding a builder adds it behind those of its own module (`buildersAt_push`). A tree that has grown
refuses a builder if its path clashes with that of an entry, and only then. So builders can be added
one after the other if no two paths clash, those in the tree included (`insertAll_eq_ok_iff`).
Neither this nor which builders a module has depends on the order (`insertion_exact`).
-/

namespace BuilderForge

namespace ModuleForest

/-- Nothing is found under a name that is less than all names. -/
theorem find?_eq_none_of_lt {name : String} {cs : ModuleForest} (h : ∀ n ∈ cs.names, name < n) :
    cs.find? name = none := by
  rw [Option.eq_none_iff_forall_ne_some]
  intro t hfind
  exact lt_irrefl name (h name (mem_names_of_find? hfind))

theorem find?_cons_self (name : String) (t : ModuleTree) (rest : ModuleForest) :
    (cons name t rest).find? name = some t := if_pos rfl

theorem find?_cons_of_ne {name n : String} (h : n ≠ name) (t : ModuleTree) (rest : ModuleForest) :
    (cons n t rest).find? name = rest.find? name := if_neg h

theorem find?_cons_of_lt {name n : String} {t : ModuleTree} {rest : ModuleForest}
    (hn : name < n) (hlt : ∀ k ∈ rest.names, n < k) : (cons n t rest).find? name = none := by
  rw [find?_cons_of_ne hn.ne', find?_eq_none_of_lt fun k hk => hn.trans (hlt k hk)]

/-- In sorted modules only the one of the name is replaced. -/
theorem find?_modify {name n : String} {f : ModuleTree → ModuleTree} : ∀ {cs : ModuleForest},
    ModuleTree.TidyForest cs → (cs.modify name f).find? n
      = if n = name then some (f ((cs.find? name).getD .empty)) else cs.find? n
  | .nil, _ => by
      rw [modify, find?, ModuleTree.empty]
      simp only [find?, Option.getD_none, eq_comm]
  | .cons m t rest, hcs => by
      obtain ⟨hlt, -, -, hrest⟩ := hcs
      unfold modify
      by_cases hm : m = name
      · subst hm
        rw [if_pos rfl, find?_cons_self]
        by_cases hn : n = m
        · rw [if_pos hn, hn, find?_cons_self, Option.getD_some]
        · rw [if_neg hn, find?_cons_of_ne (Ne.symm hn), find?_cons_of_ne (Ne.symm hn)]
      rw [if_neg hm, find?_cons_of_ne hm]
      by_cases hname : name < m
      · -- the module is a new one in front of the others
        rw [if_pos hname, find?_eq_none_of_lt fun k hk => hname.trans (hlt k hk)]
        by_cases hn : n = name
        · rw [if_pos hn, hn, find?_cons_self]
          rfl
        · rw [if_neg hn, find?_cons_of_ne (Ne.symm hn)]
      · rw [if_neg hname]
        by_cases hn : n = m
        · rw [hn, if_neg hm, find?_cons_self, find?_cons_self]
        · rw [find?_cons_of_ne (Ne.symm hn), find?_cons_of_ne (Ne.symm hn), find?_modify hrest]

end ModuleForest

namespace ModuleTree

/-! ## The builders of a module -/

/-- The builders of the module at the end of these names. There are none where there is no
module. -/
def buildersAt (space : List String) (t : ModuleTree) : List RenderedBuilder :=
  ((moduleAt? space t).map builders).getD []

@[simp] theorem buildersAt_nil (t : ModuleTree) : buildersAt [] t = t.builders := rfl

@[simp] theorem buildersAt_empty (space : List String) : buildersAt space empty = [] := by
  cases space <;> rfl

theorem buildersAt_cons (name : String) (space : List String) (bs : List RenderedBuilder)
    (cs : ModuleForest) :
    buildersAt (name :: space) (.node bs cs) = buildersAt space ((cs.find? name).getD empty) := by
  rw [buildersAt, moduleAt?]
  cases cs.find? name with
  | none => exact (buildersAt_empty space).symm
  | some t => rfl

/-- They are the entries with these names. -/
theorem mem_buildersAt_iff {t : ModuleTree} (ht : t.Tidy) {space : List String}
    {b : RenderedBuilder} : b ∈ buildersAt space t ↔ (⟨space, b⟩ : Entry) ∈ t.entries := by
  rw [mem_entries_iff_moduleAt? space ht, buildersAt]
  cases moduleAt? space t <;> simp

/-- A module with the builders of one that is not empty is there. -/
theorem isSome_of_buildersAt {t : ModuleTree} (ht : t.Tidy) (hfull : t.entries ≠ [])
    {found : Option ModuleTree}
    (h : ∀ space, buildersAt space (found.getD empty) = buildersAt space t) : found.isSome := by
  obtain ⟨⟨space, b⟩, he⟩ := List.exists_mem_of_ne_nil _ hfull
  have hb : b ∈ buildersAt space (found.getD empty) := by
    rw [h, mem_buildersAt_iff ht]
    exact he
  cases found with
  | none => simp at hb
  | some u => rfl

theorem tidy_getD_find? {cs : ModuleForest} (hcs : TidyForest cs) (name : String) :
    ((cs.find? name).getD empty).Tidy := by
  cases hfind : cs.find? name with
  | none => trivial
  | some t => exact (tidy_of_find? hcs hfind).1

/-- A builder is added behind those of its own module, and nothing happens to any other module. -/
theorem buildersAt_push (b : RenderedBuilder) (names : List String) {t : ModuleTree} (ht : t.Tidy)
    (space : List String) : buildersAt space (push b names t)
      = buildersAt space t ++ if space = names then [b] else [] := by
  induction names generalizing t space with
  | nil =>
      obtain ⟨bs, cs⟩ := t
      cases space with
      | nil => rfl
      | cons n space => simp [push, buildersAt_cons]
  | cons name names ih =>
      obtain ⟨bs, cs⟩ := t
      have hcs : TidyForest cs := ht
      cases space with
      | nil => simp [push, builders]
      | cons n space =>
          rw [push, buildersAt_cons, buildersAt_cons, ModuleForest.find?_modify hcs]
          by_cases hn : n = name
          · subst hn
            simp only [if_true, Option.getD_some, ih (tidy_getD_find? hcs n), List.cons.injEq,
              true_and]
          · simp [hn]

/-! ## Trees with the same builders -/

mutual

/-- Two tidy trees with the same builders in all modules are the same tree. -/
theorem eq_of_buildersAt : ∀ {t u : ModuleTree}, t.Tidy → u.Tidy →
    (∀ space, buildersAt space t = buildersAt space u) → t = u
  | .node bs cs, .node bs' ds, ht, hu, h => by
      have hforest : cs = ds := eq_of_buildersAt_find? ht hu fun name space => by
        rw [← buildersAt_cons name space bs, h, buildersAt_cons]
      rw [show bs = bs' from h [], hforest]

theorem eq_of_buildersAt_find? : ∀ {cs ds : ModuleForest}, TidyForest cs → TidyForest ds →
    (∀ name space, buildersAt space ((cs.find? name).getD empty)
      = buildersAt space ((ds.find? name).getD empty)) → cs = ds
  | .nil, .nil, _, _, _ => rfl
  | .nil, .cons n u _, _, ⟨_, hfull, hu, _⟩, h => by
      have hsome : (ModuleForest.nil.find? n).isSome := isSome_of_buildersAt hu hfull fun space =>
        (h n space).trans (by rw [ModuleForest.find?_cons_self, Option.getD_some])
      cases hsome
  | .cons n t _, .nil, ⟨_, hfull, ht, _⟩, _, h => by
      have hsome : (ModuleForest.nil.find? n).isSome := isSome_of_buildersAt ht hfull fun space =>
        (h n space).symm.trans (by rw [ModuleForest.find?_cons_self, Option.getD_some])
      cases hsome
  | .cons n t cs, .cons m u ds, ⟨hlt, hfull, ht, hcs⟩, ⟨hlt', hfull', hu, hds⟩, h => by
      rcases lt_trichotomy n m with hnm | rfl | hnm
      · -- the lesser of the two first modules would be missing on the other side
        have hsome : ((ModuleForest.cons m u ds).find? n).isSome :=
          isSome_of_buildersAt ht hfull fun space =>
            (h n space).symm.trans (by rw [ModuleForest.find?_cons_self, Option.getD_some])
        rw [ModuleForest.find?_cons_of_lt hnm hlt'] at hsome
        cases hsome
      · have hfirst : t = u := eq_of_buildersAt ht hu fun space => by
          have hsame := h n space
          rwa [ModuleForest.find?_cons_self, ModuleForest.find?_cons_self, Option.getD_some,
            Option.getD_some] at hsame
        have hrest : cs = ds := eq_of_buildersAt_find? hcs hds fun name space => by
          by_cases hname : n = name
          · subst hname
            rw [ModuleForest.find?_eq_none_of_lt hlt, ModuleForest.find?_eq_none_of_lt hlt']
          · have hsame := h name space
            rwa [ModuleForest.find?_cons_of_ne hname, ModuleForest.find?_cons_of_ne hname] at hsame
        rw [hfirst, hrest]
      · have hsome : ((ModuleForest.cons n t cs).find? m).isSome :=
          isSome_of_buildersAt hu hfull' fun space =>
            (h m space).trans (by rw [ModuleForest.find?_cons_self, Option.getD_some])
        rw [ModuleForest.find?_cons_of_lt hnm hlt] at hsome
        cases hsome

end

/-! ## One builder -/

/-- What a tree is after a builder was handed to it: the one with the builder, if it is accepted. -/
def handed (t : ModuleTree) (space : ModulePath) (b : RenderedBuilder) : ModuleTree :=
  (t.insert space b).toOption.getD t

/-- A tree refuses a builder exactly if its path clashes with one. -/
theorem exists_insert_error_iff {t : ModuleTree} (ht : t.Tidy) {space : ModulePath}
    {b : RenderedBuilder} : (∃ failure, t.insert space b = .error failure)
      ↔ ∃ e ∈ t.entries, Clash e.path (Entry.mk space.segments b).path := by
  cases hinsert : t.insert space b with
  | error failure =>
      simp only [Except.error.injEq, exists_eq', true_iff]
      -- with no clash it would have been accepted
      by_contra hnone
      push Not at hnone
      rw [(insert_eq_ok_iff ht).mpr ⟨hnone, rfl⟩] at hinsert
      cases hinsert
  | ok t' =>
      obtain ⟨hfree, -⟩ := (insert_eq_ok_iff ht).mp hinsert
      simp only [reduceCtorEq, exists_false, false_iff, not_exists, not_and]
      exact hfree

/-! ## Many builders -/

/-- Adds builders to the modules of their entries, one after the other. -/
def insertAll (added : List Entry) (t : ModuleTree) : Except BuilderFailure ModuleTree :=
  added.foldlM (fun t e => t.insert ⟨e.space⟩ e.builder) t

/-- The tree with the builders of these entries, whether or not it accepts them. -/
def pushAll (added : List Entry) (t : ModuleTree) : ModuleTree :=
  added.foldl (fun t e => push e.builder e.space t) t

/-- No two paths of the entries clash. -/
def Apart (es : List Entry) : Prop := es.Pairwise fun e e' => ¬ Clash e.path e'.path

theorem Apart.perm {es es' : List Entry} (hperm : es.Perm es') : Apart es ↔ Apart es' :=
  hperm.pairwise_iff fun h h' => h h'.symm

/-- Builders can be added one after the other if no two paths clash, those in the tree included. -/
theorem insertAll_eq_ok_iff {added : List Entry} {t u : ModuleTree} (ht : t.Grown) :
    insertAll added t = .ok u ↔ Apart (added ++ t.entries) ∧ u = pushAll added t := by
  induction added generalizing t with
  | nil =>
      have hapart : Apart t.entries := ht.pairwise
      rw [List.nil_append]
      exact ⟨fun h => ⟨hapart, (Except.ok.inj h).symm⟩, fun h => congrArg Except.ok h.2.symm⟩
  | cons e added ih =>
      rw [insertAll, List.foldlM_cons]
      cases hinsert : t.insert ⟨e.space⟩ e.builder with
      | error failure =>
          obtain ⟨e', he', hclash⟩ := (exists_insert_error_iff ht.tidy).mp ⟨failure, hinsert⟩
          constructor
          · intro h
            cases h
          · rintro ⟨hapart, -⟩
            rw [List.cons_append, Apart, List.pairwise_cons] at hapart
            exact absurd hclash.symm (hapart.1 e' (List.mem_append_right _ he'))
      | ok t' =>
          refine (ih (ht.insert hinsert)).trans ?_
          obtain ⟨-, rfl⟩ := (insert_eq_ok_iff ht.tidy).mp hinsert
          -- the entry is one of the tree now, no matter where it stands there
          have hperm : (added ++ (push e.builder e.space t).entries).Perm
              (e :: added ++ t.entries) :=
            ((entries_push e.builder e.space t).append_left added).trans List.perm_middle
          rw [Apart.perm hperm]
          rfl

/-- They stand behind those of their module, in the order they were added in. -/
theorem buildersAt_pushAll (added : List Entry) {t : ModuleTree} (ht : t.Tidy)
    (space : List String) : buildersAt space (pushAll added t)
      = buildersAt space t ++ (added.filter (·.space = space)).map Entry.builder := by
  induction added generalizing t with
  | nil => simp [pushAll]
  | cons e added ih =>
      rw [pushAll, List.foldl_cons]
      refine (ih (tidy_push e.builder e.space ht)).trans ?_
      rw [buildersAt_push e.builder e.space ht, List.filter_cons, List.append_assoc]
      by_cases hspace : space = e.space
      · simp [hspace]
      · simp [hspace, Ne.symm hspace]

/-- **Adding a builder is exact, and the order of adding does not matter.** Let a tree have grown
from the empty one. It refuses a builder if and only if some builder of it has the same path, one
that the new path begins with, or one that begins with the new path; the failure is that of a name,
and the tree stays as it was. A builder that is accepted stands behind those of its module, all
other modules have the builders they had, and there is no other tree like this. Builders that are
handed to the tree one after the other are all accepted in one order if they are in any other, and
every module has the same builders then. -/
theorem insertion_exact {t : ModuleTree} (ht : t.Grown) :
    (∀ space b,
      ((∃ failure, t.insert space b = .error failure)
        ↔ ∃ e ∈ t.entries, Clash e.path (space.segments ++ [b.module.text]))
      ∧ (∀ failure, t.insert space b = .error failure →
        (∃ m name, failure = .moduleNameCollision m name) ∧ t.handed space b = t)
      ∧ ∀ t', t.insert space b = .ok t' → t.handed space b = t'
        ∧ (∀ other, buildersAt other t'
          = buildersAt other t ++ if other = space.segments then [b] else [])
        ∧ ∀ u : ModuleTree, u.Grown →
          (∀ other, buildersAt other u = buildersAt other t') → u = t')
      ∧ ∀ added added' : List Entry, added.Perm added' →
        ((∃ u, insertAll added t = .ok u) ↔ ∃ u, insertAll added' t = .ok u)
        ∧ ∀ u u', insertAll added t = .ok u → insertAll added' t = .ok u' →
          ∀ space, (buildersAt space u).Perm (buildersAt space u') := by
  refine ⟨fun space b => ⟨exists_insert_error_iff ht.tidy, ?_, ?_⟩, ?_⟩
  · intro failure hinsert
    refine ⟨exists_of_insert_error hinsert, ?_⟩
    rw [handed, hinsert]
    rfl
  · intro t' hinsert
    have hgrown : t'.Grown := ht.insert hinsert
    obtain ⟨-, hpush⟩ := (insert_eq_ok_iff ht.tidy).mp hinsert
    refine ⟨by rw [handed, hinsert]; rfl, ?_, ?_⟩
    · intro other
      rw [hpush, buildersAt_push b space.segments ht.tidy]
    · intro u hu hsame
      exact eq_of_buildersAt hu.tidy hgrown.tidy hsame
  · intro added added' hperm
    refine ⟨?_, ?_⟩
    · simp only [insertAll_eq_ok_iff ht, exists_and_left, exists_eq, and_true]
      exact Apart.perm (hperm.append_right t.entries)
    · intro u u' hu hu' space
      obtain ⟨-, rfl⟩ := (insertAll_eq_ok_iff ht).mp hu
      obtain ⟨-, rfl⟩ := (insertAll_eq_ok_iff ht).mp hu'
      rw [buildersAt_pushAll added ht.tidy, buildersAt_pushAll added' ht.tidy]
      exact ((hperm.filter _).map _).append_left _

/-- The builder of a type of this name, without code. -/
def builderOf (name : String) : RenderedBuilder :=
  ⟨builderModuleIdent ⟨name, false⟩, wrapperIdent ⟨name, false⟩, name, []⟩

/-- The builder of a point in the module `shapes`. -/
def shapesTree : ModuleTree := push (builderOf "Point") ["shapes"] empty

/-- A builder inside of a module `shapes::t_point` is refused beside that of the point. The builder
of a circle is accepted behind it; this one and one of a further module can be added in either
order. -/
theorem insertion_shapes : shapesTree.Grown
    ∧ (∃ failure, shapesTree.insert ⟨["shapes", "t_point"]⟩ (builderOf "Circle") = .error failure)
    ∧ (∃ t', shapesTree.insert ⟨["shapes"]⟩ (builderOf "Circle") = .ok t'
      ∧ buildersAt ["shapes"] t' = [builderOf "Point", builderOf "Circle"])
    ∧ ∃ u', insertAll [⟨["shapes"], builderOf "Circle"⟩, ⟨["shapes", "flat"], builderOf "Disc"⟩]
      shapesTree = .ok u' := by
  have hgrown : shapesTree.Grown := @Grown.insert empty _ ⟨["shapes"]⟩ _ .empty rfl
  obtain ⟨hone, hmany⟩ := insertion_exact hgrown
  refine ⟨hgrown, ?_, ?_, ?_⟩
  · refine (hone _ _).1.mpr ⟨⟨["shapes"], builderOf "Point"⟩, List.mem_singleton.mpr rfl, ?_⟩
    exact Or.inl ⟨["t_circle"], by decide⟩
  · have hinsert : shapesTree.insert ⟨["shapes"]⟩ (builderOf "Circle")
        = .ok (push (builderOf "Circle") ["shapes"] shapesTree) := rfl
    exact ⟨_, hinsert, ((hone _ _).2.2 _ hinsert).2.1 ["shapes"]⟩
  · -- the other order can be computed
    exact (hmany _ _ (List.Perm.swap _ _ [])).1.mpr ⟨_, rfl⟩

end ModuleTree

end BuilderForge
