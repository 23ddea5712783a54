import BuilderForge.FieldChain
import BuilderForge.Proofs.Derive.Accepted

set_option autoImplicit false

/-! # The structs of a chain

A chain is gathered from a *lineage*: a struct, the parent its link leads to, the parent of that
one, and so on up to a struct without a link. `lineage_of_ofDecl` reads off a chain which lineage it
was gathered from. The fields of the chain are those of the lineage, level by level, no struct
occurs twice, and no field has a type that the crate cannot name everywhere.
-/

namespace BuilderForge.FieldChain

variable (r : Registry)

/-- Where the types of the fields of a struct are written. -/
def place (d : Declaration) : Place :=
  ({ registry := r, module := d.module } : Place).withSelf d.typePath

/-- A struct and its parents, nearest first. -/
inductive Lineage : Declaration → List Declaration → Prop
  | top {d : Declaration} (hlink : d.parent = none) : Lineage d [d]
  | child {d e : Declaration} {link : DeclaredField} {above : List Declaration}
      (hlink : d.parent = some link) (hparent : ancestor r d link.type = .ok e)
      (rest : Lineage e above) : Lineage d (d :: above)

/-- A struct has one lineage at most. -/
theorem Lineage.unique {d : Declaration} {ds ds' : List Declaration} (h : Lineage r d ds)
    (h' : Lineage r d ds') : ds = ds' := by
  induction h generalizing ds' with
  | top hlink =>
      cases h' with
      | top _ => rfl
      | child hlink' _ _ =>
          rw [hlink] at hlink'
          cases hlink'
  | child hlink hparent rest ih =>
      cases h' with
      | top hlink' =>
          rw [hlink] at hlink'
          cases hlink'
      | child hlink' hparent' rest' =>
          obtain rfl := Option.some.inj (hlink.symm.trans hlink')
          obtain rfl := Except.ok.inj (hparent.symm.trans hparent')
          rw [ih rest']

/-- A field as it stands in a chain. -/
def chainField (depth : Nat) (d : Declaration) (f : DeclaredField) : ChainField :=
  ⟨f.ident, ((place r d).anchor f.type).type, d.pathString, depth⟩

/-- The fields of structs one above the other, the first of which stands at `depth`. -/
def levelFields : Nat → List Declaration → List ChainField
  | _, [] => []
  | depth, d :: above => d.fields.map (chainField r depth d) ++ levelFields (depth + 1) above

/-- What a walk adds to a chain: a lineage with its fields. -/
structure Gathers (d : Declaration) (ds : List Declaration) (c c' : FieldChain) : Prop where
  lineage : Lineage r d ds
  target : c'.target = c.target
  chain : c'.chain = c.chain ++ ds.map Declaration.pathString
  fields : c'.fields = c.fields ++ levelFields r c.chain.length ds
  /-- No struct occurs twice. -/
  nodup : c.chain.Nodup → c'.chain.Nodup
  /-- The crate can name the type of every field. -/
  reachable : ∀ e ∈ ds, ∀ f ∈ e.fields, ((place r e).anchor f.type).notes.unreachable = []

/-- The fields of one struct are added in their order, or none of them is. -/
theorem foldlM_addField_ok {p : Place} {typeName : String} {d : Declaration}
    (fs : List DeclaredField) {c c' : FieldChain}
    (h : fs.foldlM (addField p typeName d) c = .ok c') :
    c'.target = c.target ∧ c'.chain = c.chain
      ∧ c'.fields = c.fields ++ fs.map (fun f =>
          ⟨f.ident, (p.anchor f.type).type, d.pathString, c.chain.length - 1⟩)
      ∧ ∀ f ∈ fs, (p.anchor f.type).notes.unreachable = [] := by
  induction fs generalizing c with
  | nil =>
      obtain rfl := Except.ok.inj h
      simp
  | cons f fs ih =>
      rw [List.foldlM_cons] at h
      obtain ⟨c₁, hadd, h⟩ := bind_eq_ok h
      obtain ⟨htarget, hchain, hfields, hreach⟩ := ih h
      unfold addField at hadd
      dsimp only at hadd
      split at hadd
      · cases hadd
      · next hnil =>
          obtain rfl := Except.ok.inj hadd
          refine ⟨htarget, hchain, ?_, ?_⟩
          · simpa using hfields
          · intro g hg
            rcases List.mem_cons.mp hg with rfl | hg
            · exact hnil
            · exact hreach g hg

/-- The fields of a struct are complained about for nothing but a type that the crate cannot name
everywhere. -/
theorem foldlM_addField_error {p : Place} {typeName : String} {d : Declaration}
    (fs : List DeclaredField) {c : FieldChain} {e : BuilderFailure}
    (h : fs.foldlM (addField p typeName d) c = .error e) :
    ∃ f ∈ fs, ∃ path ∈ (p.anchor f.type).notes.unreachable, e = .notReachable typeName path := by
  induction fs generalizing c with
  | nil => cases h
  | cons f fs ih =>
      rw [List.foldlM_cons] at h
      rcases bind_eq_error h with hadd | ⟨c', -, hrest⟩
      · unfold addField at hadd
        dsimp only at hadd
        split at hadd
        · next path more hnotes =>
            refine ⟨f, List.mem_cons_self, path, ?_, (Except.error.inj hadd).symm⟩
            rw [hnotes]
            exact List.mem_cons_self
        · cases hadd
      · obtain ⟨g, hg, hpath⟩ := ih hrest
        exact ⟨g, List.mem_cons_of_mem f hg, hpath⟩

/-- A field with a type that the crate cannot name everywhere is complained about, whatever the
other fields are. -/
theorem foldlM_addField_unreachable {p : Place} {typeName : String} {d : Declaration}
    {fs : List DeclaredField} {f : DeclaredField} (hf : f ∈ fs)
    (hunreachable : (p.anchor f.type).notes.unreachable ≠ []) (c : FieldChain) :
    ∃ path, fs.foldlM (addField p typeName d) c = .error (.notReachable typeName path) := by
  induction fs generalizing c with
  | nil => cases hf
  | cons g fs ih =>
      rw [List.foldlM_cons]
      cases hnotes : (p.anchor g.type).notes.unreachable with
      | cons path more =>
          refine ⟨path, ?_⟩
          simp only [addField, hnotes]
          rfl
      | nil =>
          -- the first field is fine, so the one that is not is a later one
          rcases List.mem_cons.mp hf with rfl | hf
          · exact absurd hnotes hunreachable
          · simp only [addField, hnotes]
            exact ih hf _

/-- A walk does not end well at a struct it has been at. -/
theorem not_mem_of_extend_ok {typeName : String} {fuel : Nat} {d : Declaration}
    {c c' : FieldChain} (h : extend r typeName (fuel + 1) c d = .ok c') :
    d.pathString ∉ c.chain := by
  intro hmem
  have hagain : c.chain.contains d.pathString = true := by simpa using hmem
  simp only [extend, hagain, if_true] at h
  cases h

/-- One level of a walk: the fields of the struct are added, and the walk is over or goes on with
the parent. -/
theorem extend_succ {typeName : String} {fuel : Nat} {d : Declaration} {c : FieldChain}
    (hnew : d.pathString ∉ c.chain) :
    extend r typeName (fuel + 1) c d
      = (d.fields.foldlM (addField (place r d) typeName d)
          { c with chain := c.chain ++ [d.pathString] }) >>= fun c₁ =>
        match d.parent with
        | none => .ok c₁
        | some link => ancestor r d link.type >>= extend r typeName fuel c₁ := by
  have hagain : c.chain.contains d.pathString = false := by simpa using hnew
  simp only [extend, hagain, Bool.false_eq_true, if_false]
  rfl

/-- A walk that ends well gathers a lineage. -/
theorem gathers_of_extend {typeName : String} (fuel : Nat) {d : Declaration} {c c' : FieldChain}
    (h : extend r typeName fuel c d = .ok c') : ∃ ds, Gathers r d ds c c' := by
  induction fuel generalizing d c with
  | zero => cases h
  | succ fuel ih =>
      have hnew := not_mem_of_extend_ok r h
      rw [extend_succ r hnew] at h
      -- `c₁`: the chain with this level, from which the walk goes on with the parent
      obtain ⟨c₁, hadd, hrest⟩ := bind_eq_ok h
      obtain ⟨htarget, hchain, hfields, hreach⟩ := foldlM_addField_ok d.fields hadd
      have hlevel : c₁.fields = c.fields ++ d.fields.map (chainField r c.chain.length d) := by
        rw [hfields]
        simp only [List.length_append, List.length_singleton, Nat.add_sub_cancel]
        rfl
      have hnodup : c.chain.Nodup → c₁.chain.Nodup := by
        intro h
        rw [hchain]
        simpa using List.Nodup.concat hnew h
      cases hlink : d.parent with
      | none =>
          simp only [hlink, Except.ok.injEq] at hrest
          subst hrest
          refine ⟨[d], .top hlink, htarget, hchain, ?_, hnodup, ?_⟩
          · simpa [levelFields] using hlevel
          · intro e he
            obtain rfl := List.mem_singleton.mp he
            exact hreach
      | some link =>
          simp only [hlink] at hrest
          obtain ⟨e, hparent, hextend⟩ := bind_eq_ok hrest
          obtain ⟨above, hg⟩ := ih hextend
          refine ⟨d :: above, .child hlink hparent hg.lineage, hg.target.trans htarget, ?_, ?_,
            fun h => hg.nodup (hnodup h), ?_⟩
          · rw [hg.chain, hchain]
            simp
          · rw [hg.fields, hlevel, hchain]
            simp [levelFields]
          · intro e' he'
            rcases List.mem_cons.mp he' with rfl | he'
            · exact hreach
            · exact hg.reachable e' he'

/-- A chain is gathered from a lineage of the struct it begins with. -/
theorem gathers_of_ofDecl {d : Declaration} {c : FieldChain} (h : ofDecl r d = .ok c) :
    ∃ ds path, r.reachablePath? d = some path ∧ d.generic = false
      ∧ Gathers r d ds ⟨path, [], [], []⟩ c := by
  unfold ofDecl at h
  split at h
  · cases h
  · next hgeneric =>
      split at h
      · cases h
      · next path hpath =>
          obtain ⟨ds, hg⟩ := gathers_of_extend r _ h
          exact ⟨ds, path, hpath, by simpa using hgeneric, hg⟩

/-! ## What cannot be reached -/

variable {r} {d : Declaration}

/-- A struct without a visible path gets no chain. -/
theorem ofDecl_of_not_visible (hgeneric : d.generic = false)
    (hvisible : r.visiblePath? d.segments = none) :
    ofDecl r d = .error (.notReachable d.pathString d.pathString) := by
  simp [ofDecl, hgeneric, Registry.reachablePath?, hvisible]

/-- Neither does one with a field of a type that the crate cannot name everywhere. -/
theorem ofDecl_of_unreachable_field (hgeneric : d.generic = false) {f : DeclaredField}
    (hf : f ∈ d.fields) (hunreachable : ((place r d).anchor f.type).notes.unreachable ≠ []) :
    ∃ path, ofDecl r d = .error (.notReachable d.pathString path) := by
  cases hvisible : r.visiblePath? d.segments with
  | none => exact ⟨_, ofDecl_of_not_visible hgeneric hvisible⟩
  | some visible =>
      obtain ⟨path, herror⟩ : ∃ path, d.fields.foldlM (addField (place r d) d.pathString d)
          ⟨Registry.cratePath visible, [], [] ++ [d.pathString], []⟩
          = .error (.notReachable d.pathString path) :=
        foldlM_addField_unreachable hf hunreachable _
      have hnew : d.pathString ∉ (⟨Registry.cratePath visible, [], [], []⟩ : FieldChain).chain :=
        List.not_mem_nil
      refine ⟨path, ?_⟩
      simp only [ofDecl, hgeneric, Registry.reachablePath?, hvisible, Option.map_some]
      rw [extend_succ r hnew, herror]
      rfl

end BuilderForge.FieldChain
