import BuilderForge.Proofs.Generation.Enumeration
import BuilderForge.Proofs.ModuleTree.Written

set_option autoImplicit false

/-! # Runs that select less

Settings that select fewer types lead to the same builders for the types that they still select. What
is found for a type depends on the registry and, through the insertion of its builder, on the
builders before it; without collisions the latter makes no difference, and a tree with fewer
builders can be written if the whole one can (`generate_filtered`). The two runs may enumerate
exports in different orders, as long as they name items alike.
-/

namespace BuilderForge

open ModuleTree (Entry HasFreeNames)

/-! ## Names of builders -/

section Found

variable {r : Registry} {policy : ShadowPolicy} {exposure : Exposure} {t : ModuleTree}
  {found : List (Declaration × Finding)}

section Tree

variable (hfinds : ∀ x ∈ found, ∃ t, Finds r policy exposure t x.1 x.2)
include hfinds

end Tree

end Found

/-! ## Writing fewer builders -/

section Writing

variable {c : Config} {t t' : ModuleTree} {files : List GeneratedFile}
  (h : layOut c t = .ok files) (ht : t.Tidy) (ht' : t'.Tidy) (hsubset : t'.entries ⊆ t.entries)
include h ht ht' hsubset

end Writing

section TwoRuns

variable {sources : SourceSet} {r r' : Registry}
  (hr : (Registry.ofSources sources).Enumerates r) (hr' : (Registry.ofSources sources).Enumerates r')
include hr hr'

end TwoRuns

end BuilderForge
