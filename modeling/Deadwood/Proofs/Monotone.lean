/-
Over-approximation keeps functions alive.

A call is resolved by the catalog alone, so what it leads to does not depend on the
other calls.  Hence more calls make more entries and more chains, a wider policy
makes more entries, and

* **`Alive.mono`** — what a chain of calls keeps alive stays alive;
* **`liveness_monotone`** — with more calls and a wider policy, more is reached and
  less is dead.

A policy is *within* another if it has no entry point, and ignores nothing, that
the other has not (`Policy.Within`).
-/
import Deadwood.Proofs.Liveness

namespace Deadwood

/-! ### Policies -/

/-- All that a policy names and all that it switches on is named and switched on by another. -/
structure Policy.Within (p q : Policy) : Prop where
  visibilities : p.visibilities ⊆ q.visibilities
  entryNames : p.entryNames ⊆ q.entryNames
  includeTests : p.includeTests = true → q.includeTests = true
  includeForeign : p.includeForeign = true → q.includeForeign = true
  includeTraitImpls : p.includeTraitImpls = true → q.includeTraitImpls = true
  keepAlive : p.keepAlive ⊆ q.keepAlive
  ignored : p.ignored ⊆ q.ignored

namespace Policy.Within

variable {p q : Policy} {s : Symbol}

theorem keepsAlive (h : p.Within q) (hs : p.keepsAlive s = true) : q.keepsAlive s = true := by
  obtain ⟨pattern, hpattern, hnames⟩ := List.any_eq_true.mp hs
  exact List.any_eq_true.mpr ⟨pattern, h.keepAlive hpattern, hnames⟩

theorem ignores (h : p.Within q) (hs : p.ignores s = true) : q.ignores s = true := by
  obtain ⟨pattern, hpattern, hmatches⟩ := List.any_eq_true.mp hs
  exact List.any_eq_true.mpr ⟨pattern, h.ignored hpattern, hmatches⟩

/-- An entry point of a policy is one of every wider policy, for the same reason. -/
theorem isRoot (h : p.Within q) (hs : p.isRoot s = true) : q.isRoot s = true := by
  simp only [Policy.isRoot, Bool.or_eq_true, Bool.and_eq_true, List.contains_iff_mem] at hs ⊢
  rcases hs with ((((hvisible | hname) | ⟨hswitch, htest⟩) | ⟨hswitch, hforeign⟩) | ⟨hswitch, htrait⟩) | hkept
  · exact .inl (.inl (.inl (.inl (.inl (h.visibilities hvisible)))))
  · exact .inl (.inl (.inl (.inl (.inr (h.entryNames hname)))))
  · exact .inl (.inl (.inl (.inr ⟨h.includeTests hswitch, htest⟩)))
  · exact .inl (.inl (.inr ⟨h.includeForeign hswitch, hforeign⟩))
  · exact .inl (.inr ⟨h.includeTraitImpls hswitch, htrait⟩)
  · exact .inr (h.keepsAlive hkept)

end Policy.Within

namespace CallGraph

open Relation (ReflTransGen)

variable {symbols : List Symbol} {calls calls' : List CallSite} {imports : Imports} {catalog : Catalog}
  {graph graph' : CallGraph} {p q : Policy} {key : Key}

/-! ### Entries and chains -/

theorem Entry.mono (hcalls : calls ⊆ calls') (hpolicy : p.Within q) (h : Entry catalog calls p key) :
    Entry catalog calls' q key := by
  rcases h with ⟨s, hs, hkey, hroot⟩ | ⟨call, hcall, hbody, hleads⟩
  · exact Or.inl ⟨s, hs, hkey, hpolicy.isRoot hroot⟩
  · exact Or.inr ⟨call, hcalls hcall, hbody, hleads⟩

theorem CallsTo.mono (hcalls : calls ⊆ calls') {a b : Key} (h : CallsTo catalog calls a b) :
    CallsTo catalog calls' a b := by
  obtain ⟨call, hcall, hwithin⟩ := h
  exact ⟨call, hcalls hcall, hwithin⟩

/-- More calls and a wider policy keep every function alive that was. -/
theorem Alive.mono (hcalls : calls ⊆ calls') (hpolicy : p.Within q) (h : Alive catalog calls p key) :
    Alive catalog calls' q key := by
  obtain ⟨start, hentry, hchain⟩ := h
  refine ⟨start, hentry.mono hcalls hpolicy, ?_⟩
  exact ReflTransGen.mono (fun _ _ hcall => hcall.mono hcalls) _ _ hchain

/-! ### Verdicts -/

/-- **More calls and more entry points never kill a function.**  Of two graphs of the same functions and imports,
let the second have every call of the first, in any order and any number of times, and let it be judged by a
wider policy.  Then whatever is reached in the first is reached in the second, and whatever is dead in the second
is dead in the first. -/
theorem liveness_monotone (hbuild : build symbols calls imports = .ok graph)
    (hbuild' : build symbols calls' imports = .ok graph') (hcalls : ∀ call ∈ calls, call ∈ calls')
    (hpolicy : p.Within q) :
    (∀ key ∈ (graph.verdict p).reachable, key ∈ (graph'.verdict q).reachable) ∧
      ∀ s ∈ (graph'.verdict q).dead, s ∈ (graph.verdict p).dead := by
  have hrecords := records_build hbuild
  have hrecords' := records_build hbuild'
  -- Both graphs have the catalog of the functions and imports, so an alive key is alive in the same sense.
  have hreached : ∀ key, key ∈ graph.reachable (graph.roots p) → key ∈ graph'.reachable (graph'.roots q) := by
    intro key hkey
    rw [hrecords.mem_reachable_iff] at hkey
    exact hrecords'.mem_reachable_iff.mpr (hkey.mono hcalls hpolicy)
  rw [reachable_verdict, reachable_verdict]
  refine ⟨hreached, fun s hs => ?_⟩
  rw [dead_eq, Catalog.mem_inReportOrder, mem_condemned] at hs ⊢
  obtain ⟨hmem, hignored, hunreached⟩ := hs
  refine ⟨?_, ?_, fun hkey => hunreached (hreached _ hkey)⟩
  · rwa [hrecords.catalog_eq, ← hrecords'.catalog_eq]
  · rw [Bool.eq_false_iff] at hignored ⊢
    exact fun h => hignored (hpolicy.ignores h)

theorem liveness_monotone_sample :
    build [sampleMake, sampleArea, sampleMain] [sampleCall] {} = .ok sampleGraph ∧
      build [sampleMake, sampleArea, sampleMain] [sampleCall, sampleCall] {} = .ok sampleTwice ∧
      Policy.Within {} { keepAlive := ["area"] } ∧
      sampleMake.key ∈ (sampleTwice.verdict { keepAlive := ["area"] }).reachable := by
  have hbuild : build [sampleMake, sampleArea, sampleMain] [sampleCall] {} = .ok sampleGraph := rfl
  have hbuild' : build [sampleMake, sampleArea, sampleMain] [sampleCall, sampleCall] {} = .ok sampleTwice := rfl
  have hwithin : Policy.Within {} { keepAlive := ["area"] } := by constructor <;> simp
  obtain ⟨hreached, -⟩ := liveness_monotone hbuild hbuild' (by simp) hwithin
  refine ⟨hbuild, hbuild', hwithin, hreached _ ?_⟩
  have hmain : Entry sampleGraph.catalog [sampleCall] {} sampleMain.key :=
    Or.inl ⟨sampleMain, by decide +kernel, rfl, by decide⟩
  have hresolve : sampleGraph.catalog.resolve sampleCall = .ok (.linked .tail [sampleMake.key]) := rfl
  have hleads : sampleGraph.catalog.Leads sampleCall sampleMake.key :=
    (Catalog.leads_of_linked hresolve).mpr List.mem_cons_self
  have hcall : CallsTo sampleGraph.catalog [sampleCall] sampleMain.key sampleMake.key :=
    ⟨sampleCall, List.mem_cons_self, by decide +kernel, rfl, hleads⟩
  rw [reachable_verdict]
  exact (records_build hbuild).mem_reachable_iff.mpr ⟨_, hmain, .single hcall⟩

end CallGraph

end Deadwood
