/-
Chains that explain why a function is alive.

A verdict collects what can be reached depth first, from the roots as they are listed; an
explanation searches breadth first, from the roots in their order.  Both follow the same
edges, so

* **`isSome_explainKey?_iff`** — a function has an explanation exactly if it is reached;
* **`chain_of_explainKey?`** — an explanation is a chain of edges from a root to it;
* **`explain?_iff_alive`** — hence the explanation of a target, which may name several
  functions, is that of the first of them that is alive, and there is none only if none is.
-/
import Deadwood.Proofs.Liveness
import Deadwood.Proofs.ShortestPaths

namespace Deadwood

/-- A path that ends with another at a separator. -/
theorem ModulePath.endsWith_iff {path tail : String} :
    endsWith path tail = true ↔ ∃ front, path = front ++ "::" ++ tail := by
  rw [endsWith, List.isSuffixOf_iff_suffix]
  constructor
  · rintro ⟨front, hfront⟩
    refine ⟨String.ofList front, String.toList_inj.mp ?_⟩
    rw [← hfront, String.append_assoc, String.toList_append (s := String.ofList front), String.toList_ofList]
    rfl
  · rintro ⟨front, rfl⟩
    rw [String.append_assoc, String.toList_append (s := front)]
    exact List.suffix_append _ _

/-- What a target names: functions whose path is the target, or ends with it. -/
theorem Catalog.mem_find {catalog : Catalog} {target : String} {key : Key} (h : key ∈ catalog.find target) :
    key ∈ catalog.keys ∧ (key.path = target ∨ ∃ front, key.path = front ++ "::" ++ target) := by
  rw [find] at h
  split at h
  · obtain ⟨hkey, hends⟩ := List.mem_filter.mp h
    exact ⟨hkey, Or.inr (ModulePath.endsWith_iff.mp hends)⟩
  · obtain ⟨s, hs, rfl, hpath⟩ := mem_withPath.mp h
    exact ⟨mem_keys.mpr ⟨s, hs, rfl⟩, Or.inl hpath⟩

namespace CallGraph

variable {graph : CallGraph} {roots : List Key} {key : Key}

/-- The search finds what the walk collects. -/
theorem isSome_explainKey?_iff (hkey : key ∈ graph.catalog.keys) :
    (graph.explainKey? roots key).isSome = true ↔ key ∈ graph.reachable roots := by
  rw [Option.isSome_iff_exists]
  exact (Digraph.exists_explain?_plain_iff (enumerates_callees graph)).trans (and_iff_right hkey)

/-- What the search finds is a chain of edges from a root. -/
theorem chain_of_explainKey? {chain : List Key} (h : graph.explainKey? roots key = some chain) :
    (∃ root ∈ roots, chain.head? = some root) ∧ chain.IsChain (fun a b => (a, b) ∈ graph.edges) ∧
      chain.getLast? = some key := by
  obtain ⟨⟨root, hroot, -, hhead⟩, hchain, hlast⟩ :=
    (Digraph.shortest_of_explain?_plain (enumerates_callees graph) h).toRoute
  exact ⟨⟨root, hroot, hhead⟩, hchain, hlast⟩

/-- The order of the roots does not matter to what is reached from them. -/
theorem mem_reachable_sort : key ∈ graph.reachable (Key.sort roots) ↔ key ∈ graph.reachable roots := by
  simp only [mem_reachable_of_edges, Key.sort, List.mem_mergeSort]

/-- **Explanations agree with the verdict.**  A target has no explanation exactly if nothing that it names is reached.
Otherwise its explanation gives the full paths along a chain of edges, which begins at a root and ends at the first
function under the target that is reached; the full path of that function is the target or ends with it. -/
theorem explain?_iff_alive (graph : CallGraph) (policy : Policy) (target : String) :
    (graph.explain? target policy = none ↔
      ∀ key ∈ graph.catalog.find target, key ∉ (graph.verdict policy).reachable) ∧
    ∀ paths, graph.explain? target policy = some paths →
      ∃ (chain : List Key) (key : Key), paths = chain.map (·.path) ∧
        (∃ root ∈ graph.roots policy, chain.head? = some root) ∧
        chain.IsChain (fun a b => (a, b) ∈ graph.edges) ∧ chain.getLast? = some key ∧
        (graph.catalog.find target).find? (fun key => decide (key ∈ (graph.verdict policy).reachable)) = some key ∧
        (key.path = target ∨ ∃ front, key.path = front ++ "::" ++ target) := by
  -- What the search finds and what the verdict collects is the same for each function under the target.
  have hfound : ∀ key ∈ graph.catalog.find target,
      ((graph.explainKey? (Key.sort (graph.roots policy)) key).isSome = true ↔
        key ∈ (graph.verdict policy).reachable) := by
    intro key hkey
    rw [isSome_explainKey?_iff (Catalog.mem_find hkey).1, reachable_verdict]
    exact mem_reachable_sort
  constructor
  · rw [explain?, Option.map_eq_none_iff, List.findSome?_eq_none_iff]
    refine forall₂_congr fun key hkey => ?_
    rw [← hfound key hkey, Bool.not_eq_true, Option.isSome_eq_false_iff, Option.isNone_iff_eq_none]
  · intro paths hpaths
    obtain ⟨chain, hchain, rfl⟩ := Option.map_eq_some_iff.mp hpaths
    obtain ⟨earlier, key, later, hfind, hkey, hnone⟩ := List.findSome?_eq_some_iff.mp hchain
    have hmem : key ∈ graph.catalog.find target := by
      rw [hfind]
      simp
    obtain ⟨⟨root, hroot, hhead⟩, hedges, hlast⟩ := chain_of_explainKey? hkey
    refine ⟨chain, key, rfl, ⟨root, List.mem_mergeSort.mp hroot, hhead⟩, hedges, hlast, ?_, (Catalog.mem_find hmem).2⟩
    -- The functions before it have no explanation, so none of them is reached.
    refine List.find?_eq_some_iff_append.mpr ⟨decide_eq_true ?_, earlier, later, hfind, fun other hother => ?_⟩
    · exact (hfound key hmem).mp (by rw [hkey]; rfl)
    · have hin : other ∈ graph.catalog.find target := by
        rw [hfind]
        exact List.mem_append_left _ hother
      have hunreached : other ∉ (graph.verdict policy).reachable := by
        rw [← hfound other hin, hnone other hother]
        simp
      simp [hunreached]

theorem explain?_iff_alive_sample :
    sampleGraph.explain? "area" {} = none ∧ sampleArea.key ∉ (sampleGraph.verdict {}).reachable ∧
      sampleGraph.explain? "make" {} = some ["main", "geo::Point::make"] ∧
      sampleMake.key ∈ (sampleGraph.verdict {}).reachable := by
  have hnone : sampleGraph.explain? "area" {} = none := by decide +kernel
  have hsome : sampleGraph.explain? "make" {} = some ["main", "geo::Point::make"] := by decide +kernel
  have hdead := (explain?_iff_alive sampleGraph {} "area").1.mp hnone sampleArea.key (by decide +kernel)
  obtain ⟨chain, key, -, -, -, -, hfirst, -⟩ := (explain?_iff_alive sampleGraph {} "make").2 _ hsome
  have hnamed : sampleGraph.catalog.find "make" = [sampleMake.key] := by decide +kernel
  obtain rfl : key = sampleMake.key := by
    have hmem := List.mem_of_find?_eq_some hfirst
    rwa [hnamed, List.mem_singleton] at hmem
  have halive := List.find?_some hfirst
  exact ⟨hnone, hdead, hsome, of_decide_eq_true halive⟩

end CallGraph

end Deadwood
