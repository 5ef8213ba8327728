/-
The numbers of a verdict balance.

Every function is reached, ignored or dead, and has one visibility.  What is reached is collected
by a walk along the edges, and everything else is counted over the functions of the catalog.  The
two agree because no edge leads out of the catalog and the walk meets no function twice
(`length_unreached`), so

* **`sum_countP_visibility`** — the counts of the visibilities add up to all;
* **`statistics_balance`** — the numbers of every verdict on a graph that is built balance.
-/
import Deadwood.Proofs.Invariant
import Mathlib.Algebra.Ring.Nat

namespace Deadwood

/-- What the numbers of a verdict on the functions of a catalog agree on. -/
structure Verdict.Balanced (catalog : Catalog) (verdict : Verdict) : Prop where
  total : verdict.statistics.total = catalog.symbols.length
  reachable : verdict.statistics.reachable = verdict.reachable.length
  dead : verdict.statistics.dead = verdict.dead.length
  /-- Every function is reached, dead or ignored. -/
  classes : verdict.statistics.total =
    verdict.statistics.reachable + verdict.statistics.dead + verdict.statistics.ignored
  dead_split : verdict.statistics.dead = verdict.statistics.publicDead + verdict.statistics.privateDead
  /-- Each of the five visibilities is tallied once. -/
  visibilities : verdict.statistics.tallies.map (·.visibility) = Visibility.all
  tally_total : ∀ tally ∈ verdict.statistics.tallies,
    tally.total = catalog.symbols.countP (·.visibility == tally.visibility)
  tally_dead : ∀ tally ∈ verdict.statistics.tallies,
    tally.dead = verdict.dead.countP (·.visibility == tally.visibility)
  tally_public : ∀ tally ∈ verdict.statistics.tallies, tally.visibility = .everyone →
    tally.dead = verdict.statistics.publicDead
  sum_total : (verdict.statistics.tallies.map (·.total)).sum = verdict.statistics.total
  sum_dead : (verdict.statistics.tallies.map (·.dead)).sum = verdict.statistics.dead
  roots_reached : verdict.roots ⊆ verdict.reachable
  reached_known : verdict.reachable ⊆ catalog.keys

theorem sum_countP_visibility (symbols : List Symbol) :
    (Visibility.all.map fun v => symbols.countP (·.visibility == v)).sum = symbols.length := by
  induction symbols with
  | nil => rfl
  | cons s rest ih =>
    simp only [Visibility.all, List.map_cons, List.map_nil, List.sum_cons, List.sum_nil, List.countP_cons,
      List.length_cons] at ih ⊢
    -- A function is counted under its own visibility and no other.
    cases s.visibility <;> simp <;> omega

namespace CallGraph

variable {symbols : List Symbol} {calls : List CallSite} {imports : Imports} {graph : CallGraph}

theorem countP_dead (graph : CallGraph) (policy : Policy) (p : Symbol → Bool) :
    (graph.verdict policy).dead.countP p = (graph.condemned policy).countP p := by
  rw [dead_eq]
  exact (graph.catalog.inReportOrder_perm _).countP_eq p

theorem length_dead (graph : CallGraph) (policy : Policy) :
    (graph.verdict policy).dead.length = (graph.condemned policy).length := by
  rw [dead_eq]
  exact (graph.catalog.inReportOrder_perm _).length_eq

/-- The tally of one visibility. -/
theorem mem_tallies {policy : Policy} {tally : Tally} (h : tally ∈ (graph.verdict policy).statistics.tallies) :
    ∃ v ∈ Visibility.all, tally = ⟨v, graph.catalog.symbols.countP (·.visibility == v),
      (graph.condemned policy).countP (·.visibility == v)⟩ := by
  rw [statistics_verdict] at h
  obtain ⟨v, hv, rfl⟩ := List.mem_map.mp h
  exact ⟨v, hv, rfl⟩

theorem roots_subset_reachable (hbuild : build symbols calls imports = .ok graph) (policy : Policy) :
    graph.roots policy ⊆ graph.reachable (graph.roots policy) := by
  intro root hroot
  exact mem_reachable_of_edges.mpr ⟨root, hroot, mem_keys_of_roots hbuild hroot, .refl⟩

/-- **The numbers of a verdict balance**, for every graph that is built and every policy. -/
theorem statistics_balance (hbuild : build symbols calls imports = .ok graph) (policy : Policy) :
    (graph.verdict policy).Balanced graph.catalog := by
  have hnumbers := statistics_verdict graph policy
  have htotal : (graph.numbers policy).total = graph.catalog.symbols.length := rfl
  have hreachable : (graph.numbers policy).reachable = (graph.reachable (graph.roots policy)).length := rfl
  have hdead : (graph.numbers policy).dead = (graph.condemned policy).length := rfl
  have hpublic : (graph.numbers policy).publicDead = (graph.condemned policy).countP (·.visibility.isPublic) := rfl
  have hprivate : (graph.numbers policy).privateDead = (graph.condemned policy).countP (!·.visibility.isPublic) := rfl
  constructor
  case total => rw [hnumbers, htotal]
  case reachable => rw [hnumbers, hreachable, reachable_verdict]
  case dead => rw [hnumbers, hdead, length_dead]
  case classes =>
    have hreached := length_unreached hbuild policy
    have hcondemned := length_condemned graph policy
    rw [hnumbers] at hcondemned ⊢
    omega
  case dead_split =>
    rw [hnumbers, hdead, hpublic, hprivate, List.length_eq_countP_add_countP (·.visibility.isPublic)]
    simp only [Bool.not_eq_true, Bool.decide_eq_false]
  case visibilities =>
    rw [hnumbers]
    rfl
  case tally_total =>
    intro tally htally
    obtain ⟨v, -, rfl⟩ := mem_tallies htally
    rfl
  case tally_dead =>
    intro tally htally
    obtain ⟨v, -, rfl⟩ := mem_tallies htally
    exact (countP_dead graph policy _).symm
  case tally_public =>
    intro tally htally hv
    obtain ⟨v, -, rfl⟩ := mem_tallies htally
    obtain rfl : v = .everyone := hv
    rw [hnumbers]
    exact hpublic.symm
  case sum_total =>
    rw [hnumbers, htotal, ← sum_countP_visibility]
    rfl
  case sum_dead =>
    rw [hnumbers, hdead, ← sum_countP_visibility]
    rfl
  case roots_reached =>
    rw [roots_verdict, reachable_verdict]
    exact roots_subset_reachable hbuild policy
  case reached_known =>
    rw [reachable_verdict]
    exact fun key hkey => mem_keys_of_reachable hbuild hkey

theorem statistics_balance_sample :
    build [sampleMake, sampleArea, sampleMain] [sampleCall] {} = .ok sampleGraph ∧
      (sampleGraph.verdict {}).Balanced sampleGraph.catalog ∧
      (sampleGraph.verdict {}).reachable.length + (sampleGraph.verdict {}).dead.length = 3 := by
  have hbuild : build [sampleMake, sampleArea, sampleMain] [sampleCall] {} = .ok sampleGraph := rfl
  have hbalanced := statistics_balance hbuild {}
  have htotal : (sampleGraph.verdict {}).statistics.total = 3 := hbalanced.total
  -- The default policy ignores nothing.
  have hignored : (sampleGraph.verdict {}).statistics.ignored = 0 := by
    rw [statistics_verdict]
    exact List.countP_eq_zero.mpr fun s _ => by simp [Policy.ignores]
  refine ⟨hbuild, hbalanced, ?_⟩
  rw [← hbalanced.reachable, ← hbalanced.dead]
  have hclasses := hbalanced.classes
  omega

end CallGraph

end Deadwood
