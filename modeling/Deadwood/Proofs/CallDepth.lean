/-
The depth of a call graph is the greatest distance of a living function.

The depth is read off a table of distances, which a search fills that does not stop.  An explanation
is found by a search that stops at its target and keeps predecessors.  What both agree on is the
distance of a node, the least number of steps from a start (`Distance`).  The main statements are

* **`get?_distances`** — the table holds the distance of every node that can be reached;
* **`distance_le_depth`**, **`exists_distance_depth`** — so the depth is the greatest distance;
* **`Shortest.distance`** — the explanation of a node has as many steps as its distance;
* **`depth_is_eccentricity`** — hence the depth of a call graph is the greatest number of calls in
  an explanation, in whatever order roots and neighbours are listed, and it is less than the number
  of functions, since no function is twice on an explanation.

Roots may be listed twice.  Then they are visited twice, so the table is needed to see that all
visits of a node are equally long: it has one entry for the node.
-/
import Deadwood.Proofs.Explanation
import Deadwood.Proofs.Invariant
import Mathlib.Order.Bounds.Defs

namespace Deadwood

/-! ### Depth and explanations in a graph -/

namespace Digraph

variable {α : Type} {graph : Digraph α} {next : α → List α} {roots : List α} {x target : α} {n : Nat}

/-- An explanation has as many steps as its target is away from the roots. -/
theorem Shortest.distance (hroots : roots ⊆ graph.nodes) {path : List α} (h : Shortest graph roots target path) :
    ∃ n, path.length = n + 1 ∧ Distance graph.Edge roots target n := by
  obtain ⟨root, hroot, -, hhead⟩ := h.begins
  obtain ⟨rest, rfl⟩ := List.head?_eq_some_iff.mp hhead
  refine ⟨rest.length, rfl, ⟨root, hroot, Steps.of_chain h.chain h.ends⟩, fun a ha k hk => ?_⟩
  obtain ⟨nodes, hfirst, hedges, hend, hlength⟩ := hk.exists_chain
  have hle := h.least nodes ⟨⟨a, ha, hroots ha, hfirst⟩, hedges, hend⟩
  rw [hlength, List.length_cons] at hle
  omega

theorem starting_roots (roots : List α) : Graph.Starting roots (roots.map (·, [])) := by
  rintro ⟨node, path⟩
  rw [List.mem_map]
  constructor
  · rintro ⟨root, hroot, heq⟩
    obtain ⟨rfl, rfl⟩ := Prod.mk.inj heq
    exact ⟨rfl, hroot⟩
  · rintro ⟨rfl, hroot⟩
    exact ⟨node, hroot, rfl⟩

variable [DecidableEq α]

theorem get?_roots (roots : List α) (x : α) :
    (OrderedMap.ofList (roots.map (·, 0))).get? x = if x ∈ roots then some 0 else none := by
  suffices h : ∀ map : OrderedMap α Nat,
      ((roots.map (·, 0)).foldl (fun map pair => map.insert pair.1 pair.2) map).get? x =
        if x ∈ roots then some 0 else map.get? x from h .empty
  induction roots with
  | nil => exact fun map => rfl
  | cons root rest ih =>
    intro map
    rw [List.map_cons, List.foldl_cons, ih, OrderedMap.get?_insert]
    by_cases hx : x = root <;> simp [hx]

theorem nodup_keys_distances (graph : Digraph α) (next : α → List α) (roots : List α) :
    (graph.distances next roots).keys.Nodup := by
  refine Graph.nodup_keys_explore ?_ roots
  suffices h : ∀ map : OrderedMap α Nat, map.keys.Nodup →
      ((roots.map (·, 0)).foldl (fun map pair => map.insert pair.1 pair.2) map).keys.Nodup from h .empty List.nodup_nil
  induction roots with
  | nil => exact fun map h => h
  | cons root rest ih => exact fun map h => ih _ (OrderedMap.nodup_keys_insert h root 0)

/-- The visits of a search for distances: it starts from all roots, as often as they are listed. -/
def rounds (graph : Digraph α) (next : α → List α) (roots : List α) : List (α × List α) :=
  Graph.sweep next (Graph.discover [] graph.domain roots).1 (roots.map (·, []))

/-- The table holds zero for the roots, and the lengths of visits. -/
theorem get?_distances_iff_round :
    (graph.distances next roots).get? x = some n ↔
      (x ∈ roots ∧ n = 0) ∨ ∃ path, (x, path) ∈ graph.rounds next roots ∧ n = path.length := by
  have hdistinct : graph.domain.Nodup := nodup_eraseDups _
  have htable := @Graph.get?_explore _ _ _ next _ graph.domain List.length (.ofList (roots.map (·, 0)))
    (fun table node => (table.get? node).getD 0 + 1) (roots.map (·, []))
    (fun table node path h => by rw [h]; rfl) (hdistinct.sublist (Graph.discover_sublist [] graph.domain roots))
    ((starting_roots roots).mirrors hdistinct (get?_roots roots)) x n
  have hqueue : (roots.map fun root => (root, ([] : List α))).map (·.1) = roots := by
    rw [List.map_map]
    exact List.map_id _
  rw [hqueue, get?_roots] at htable
  refine htable.trans (or_congr_left ?_)
  by_cases hx : x ∈ roots <;> simp [hx, eq_comm]

/-- The first visit of a node is as long as its distance, and all its visits are equally long. -/
theorem distance_of_round (hnext : graph.Enumerates next) {path : List α} (h : (x, path) ∈ graph.rounds next roots) :
    Distance graph.Edge roots x path.length := by
  have hclosed : ∀ a, ∀ b ∈ next a, b ∈ graph.domain := fun a b hb => hnext.mem_domain hb
  have hsome : ((graph.rounds next roots).find? fun entry => entry.1 = x).isSome = true :=
    List.find?_isSome.mpr ⟨_, h, decide_eq_true rfl⟩
  obtain ⟨⟨node, first⟩, hfirst⟩ := Option.isSome_iff_exists.mp hsome
  have hnode := List.find?_some hfirst
  obtain rfl : node = x := of_decide_eq_true hnode
  have hdistance := (starting_roots roots).distance (nodup_eraseDups _) hclosed hfirst
  rw [hnext.edge_eq] at hdistance
  -- The table has one entry for the node.
  have hpath := get?_distances_iff_round.mpr (Or.inr ⟨path, h, rfl⟩)
  have hlength := get?_distances_iff_round.mpr (Or.inr ⟨first, List.mem_of_find?_eq_some hfirst, rfl⟩)
  rwa [Option.some.inj (hpath.symm.trans hlength)]

/-- The table of distances holds the distance of each node that has one. -/
theorem get?_distances (hnext : graph.Enumerates next) :
    (graph.distances next roots).get? x = some n ↔ Distance graph.Edge roots x n := by
  have hclosed : ∀ a, ∀ b ∈ next a, b ∈ graph.domain := fun a b hb => hnext.mem_domain hb
  have hreached := (starting_roots roots).exists_visit_iff (nodup_eraseDups _) hclosed x
  rw [hnext.edge_eq] at hreached
  rw [get?_distances_iff_round]
  constructor
  · rintro (⟨hroot, rfl⟩ | ⟨path, hpath, rfl⟩)
    · exact distance_zero hroot
    · exact distance_of_round hnext hpath
  · intro hdistance
    obtain ⟨root, hroot, hsteps⟩ := hdistance.path
    obtain ⟨path, hpath⟩ := hreached.mpr ⟨root, hroot, hsteps.reflTransGen⟩
    exact Or.inr ⟨path, hpath, hdistance.unique (distance_of_round hnext hpath)⟩

theorem distance_le_depth (hnext : graph.Enumerates next) (h : Distance graph.Edge roots x n) :
    n ≤ graph.depth next roots := by
  have hmem : n ∈ (graph.distances next roots).entries.map (·.2) :=
    List.mem_map_of_mem (OrderedMap.mem_of_get? ((get?_distances hnext).mpr h))
  obtain ⟨greatest, hgreatest⟩ := Option.ne_none_iff_exists'.mp
    (mt List.max?_eq_none_iff.mp (List.ne_nil_of_mem hmem))
  rw [depth, hgreatest, Option.getD_some]
  exact (List.max?_eq_some_iff.mp hgreatest).2 n hmem

theorem exists_distance_depth (hnext : graph.Enumerates next) (hne : roots ≠ []) :
    ∃ x, Distance graph.Edge roots x (graph.depth next roots) := by
  obtain ⟨root, hroot⟩ := List.exists_mem_of_ne_nil _ hne
  have hentry : 0 ∈ (graph.distances next roots).entries.map (·.2) :=
    List.mem_map_of_mem (OrderedMap.mem_of_get? ((get?_distances hnext).mpr (distance_zero hroot)))
  obtain ⟨greatest, hgreatest⟩ := Option.ne_none_iff_exists'.mp
    (mt List.max?_eq_none_iff.mp (List.ne_nil_of_mem hentry))
  rw [depth, hgreatest, Option.getD_some]
  obtain ⟨⟨x, n⟩, hmem, rfl⟩ := List.mem_map.mp (List.max?_eq_some_iff.mp hgreatest).1
  exact ⟨x, (get?_distances hnext).mp ((OrderedMap.get?_eq_some_iff (nodup_keys_distances _ _ _)).mpr hmem)⟩

theorem depth_nil (graph : Digraph α) (next : α → List α) : graph.depth next [] = 0 := by
  rw [depth, distances, Graph.explore]
  rfl

/-- The order in which roots and neighbours are listed does not matter to the depth. -/
theorem depth_congr {next' : α → List α} {roots' : List α} (hnext : graph.Enumerates next)
    (hnext' : graph.Enumerates next') (hsame : ∀ x, x ∈ roots' ↔ x ∈ roots) :
    graph.depth next' roots' = graph.depth next roots := by
  by_cases hne : roots = []
  · subst hne
    obtain rfl : roots' = [] := List.eq_nil_iff_forall_not_mem.mpr fun x hx => absurd ((hsame x).mp hx) List.not_mem_nil
    rw [depth_nil, depth_nil]
  · obtain ⟨root, hroot⟩ := List.exists_mem_of_ne_nil _ hne
    obtain ⟨x, hx⟩ := exists_distance_depth hnext hne
    obtain ⟨x', hx'⟩ := exists_distance_depth hnext' (List.ne_nil_of_mem ((hsame root).mpr hroot))
    have hle : graph.depth next roots ≤ graph.depth next' roots' := distance_le_depth hnext' (hx.congr hsame)
    have hge : graph.depth next' roots' ≤ graph.depth next roots :=
      distance_le_depth hnext (hx'.congr fun a => (hsame a).symm)
    exact Nat.le_antisymm hge hle

end Digraph

namespace CallGraph

variable {symbols : List Symbol} {calls : List CallSite} {imports : Imports} {graph : CallGraph} {policy : Policy}
  {key : Key}

/-- The numbers of calls in the explanations of what is reached. -/
def explanationLengths (graph : CallGraph) (policy : Policy) : Set Nat :=
  {n | ∃ key ∈ (graph.verdict policy).reachable, ∃ chain,
    graph.explainKey? (Key.sort (graph.roots policy)) key = some chain ∧ chain.length = n + 1}

section Built

variable (hbuild : build symbols calls imports = .ok graph)
include hbuild

theorem sort_roots_subset (policy : Policy) : Key.sort (graph.roots policy) ⊆ graph.digraph.nodes := by
  intro root hroot
  exact mem_keys_of_roots hbuild (List.mem_mergeSort.mp hroot)

/-- What is reached has an explanation, and the explanation has as many calls as it is away from the roots. -/
theorem exists_explanation (h : key ∈ (graph.verdict policy).reachable) :
    ∃ chain n, graph.explainKey? (Key.sort (graph.roots policy)) key = some chain ∧ chain.length = n + 1 ∧
      Distance graph.digraph.Edge (graph.roots policy) key n := by
  rw [reachable_verdict] at h
  have hsome : (graph.explainKey? (Key.sort (graph.roots policy)) key).isSome = true :=
    (isSome_explainKey?_iff (mem_keys_of_reachable hbuild h)).mpr (mem_reachable_sort.mpr h)
  obtain ⟨chain, hchain⟩ := Option.isSome_iff_exists.mp hsome
  obtain ⟨n, hlength, hdistance⟩ :=
    (Digraph.shortest_of_explain?_plain (enumerates_callees graph) hchain).distance (sort_roots_subset hbuild policy)
  exact ⟨chain, n, hchain, hlength, hdistance.congr fun _ => List.mem_mergeSort.symm⟩

/-- What is some steps away from the roots is reached. -/
theorem mem_reachable_of_distance {n : Nat} (h : Distance graph.digraph.Edge (graph.roots policy) key n) :
    key ∈ (graph.verdict policy).reachable := by
  obtain ⟨root, hroot, hsteps⟩ := h.path
  rw [reachable_verdict]
  exact mem_reachable_of_edges.mpr ⟨root, hroot, mem_keys_of_roots hbuild hroot, hsteps.reflTransGen⟩

theorem reachable_eq_nil_iff : (graph.verdict policy).reachable = [] ↔ graph.roots policy = [] := by
  constructor
  · intro hnil
    refine List.eq_nil_iff_forall_not_mem.mpr fun root hroot => ?_
    have hreached : root ∈ (graph.verdict policy).reachable :=
      mem_reachable_of_distance hbuild (distance_zero hroot)
    rw [hnil] at hreached
    exact absurd hreached List.not_mem_nil
  · intro hnil
    refine List.eq_nil_iff_forall_not_mem.mpr fun key hkey => ?_
    obtain ⟨_, _, _, _, hdistance⟩ := exists_explanation hbuild hkey
    obtain ⟨root, hroot, -⟩ := hdistance.path
    rw [hnil] at hroot
    exact absurd hroot List.not_mem_nil

/-- The depth is the number of calls in the longest explanation. -/
theorem isGreatest_depth (hne : (graph.verdict policy).reachable ≠ []) :
    IsGreatest (graph.explanationLengths policy) (graph.depth policy) := by
  have hroots : graph.roots policy ≠ [] := fun hnil => hne ((reachable_eq_nil_iff hbuild).mpr hnil)
  constructor
  · obtain ⟨key, hkey⟩ := Digraph.exists_distance_depth (enumerates_callees graph) hroots
    have hreached := mem_reachable_of_distance hbuild hkey
    obtain ⟨chain, n, hchain, hlength, hn⟩ := exists_explanation hbuild hreached
    -- Both numbers are the distance of the same function.
    have hdepth : n = graph.depth policy := hn.unique hkey
    exact ⟨key, hreached, chain, hchain, hdepth ▸ hlength⟩
  · rintro n ⟨key, hkey, chain, hchain, hlength⟩
    obtain ⟨chain', m, hchain', hlength', hm⟩ := exists_explanation hbuild hkey
    obtain rfl : chain = chain' := Option.some.inj (hchain.symm.trans hchain')
    obtain rfl : n = m := by omega
    exact Digraph.distance_le_depth (enumerates_callees graph) hm

/-- An explanation names functions only, and none of them twice. -/
theorem length_explanation_le {chain : List Key}
    (h : graph.explainKey? (Key.sort (graph.roots policy)) key = some chain) :
    chain.length ≤ graph.catalog.symbols.length := by
  have hshortest := Digraph.shortest_of_explain?_plain (enumerates_callees graph) h
  obtain ⟨⟨root, -, hroot, hhead⟩, hchain, -⟩ := hshortest.toRoute
  have hkeys : chain ⊆ graph.catalog.keys := by
    refine hchain.induction (· ∈ graph.catalog.keys) _
      (fun a b hab _ => (edge_ends_of_build hbuild hab).2) fun hne => ?_
    rw [List.head?_eq_some_head hne] at hhead
    exact Option.some.inj hhead ▸ hroot
  have hle := (hshortest.nodup.subperm hkeys).length_le
  rwa [Catalog.keys, List.length_map] at hle

end Built

/-- **The depth of a call graph is the greatest distance of a living function.**  In every graph that is built, under
every policy: what is reached has an explanation from the sorted roots, and the depth is the greatest number of calls in
one of these, or zero if nothing is reached.  So it is less than the number of functions, if there are any.  The order
in which roots and neighbours are listed does not matter to it. -/
theorem depth_is_eccentricity (hbuild : build symbols calls imports = .ok graph) (policy : Policy) :
    (∀ key ∈ (graph.verdict policy).reachable, ∃ chain,
      graph.explainKey? (Key.sort (graph.roots policy)) key = some chain) ∧
    ((graph.verdict policy).reachable ≠ [] →
      IsGreatest (graph.explanationLengths policy) (graph.depth policy)) ∧
    ((graph.verdict policy).reachable = [] → graph.depth policy = 0) ∧
    (graph.catalog.symbols ≠ [] → graph.depth policy < graph.catalog.symbols.length) ∧
    ∀ next roots, graph.digraph.Enumerates next → (∀ key, key ∈ roots ↔ key ∈ graph.roots policy) →
      graph.digraph.depth next roots = graph.depth policy := by
  have hempty : (graph.verdict policy).reachable = [] → graph.depth policy = 0 := by
    intro hnil
    rw [depth, (reachable_eq_nil_iff hbuild).mp hnil]
    exact Digraph.depth_nil _ _
  refine ⟨fun key hkey => ?_, isGreatest_depth hbuild, hempty, fun hne => ?_, fun next roots hnext hsame => ?_⟩
  · obtain ⟨chain, -, hchain, -⟩ := exists_explanation hbuild hkey
    exact ⟨chain, hchain⟩
  · by_cases hnil : (graph.verdict policy).reachable = []
    · rw [hempty hnil]
      exact List.length_pos_iff.mpr hne
    · obtain ⟨⟨key, -, chain, hchain, hlength⟩, -⟩ := isGreatest_depth hbuild hnil
      have hle := length_explanation_le hbuild hchain
      omega
  · exact Digraph.depth_congr (enumerates_callees graph) hnext hsame

/-! A project of one file: `read`, `fold` and `scan` call each other in a ring, into which two entry points lead. -/

def ringFunction (name : String) : Symbol :=
  { name, fullPath := name, visibility := if name = "start" then .everyone else .inModule, file := "src/main.rs",
    span := sampleSpan }

def ringFunctions : List Symbol :=
  ["main", "start", "read", "fold", "scan", "idle"].map ringFunction

def ringPairs : List (String × String) :=
  [("main", "read"), ("read", "fold"), ("fold", "scan"), ("scan", "read"), ("start", "scan")]

def ringCall (pair : String × String) : CallSite :=
  { callee := pair.2, file := "src/main.rs", span := sampleSpan, enclosing := pair.1, resolved := some pair.2 }

def ringGraph : CallGraph :=
  { catalog := Catalog.ofProject ringFunctions {}
    edges := ringPairs.map fun pair => ((ringFunction pair.1).key, (ringFunction pair.2).key)
    resolutions := ringPairs.map fun pair => (ringCall pair, [(ringFunction pair.2).key]) }

theorem depth_is_eccentricity_ring :
    build ringFunctions (ringPairs.map ringCall) {} = .ok ringGraph ∧ ringGraph.depth {} = 2 ∧
      (ringGraph.verdict {}).reachable ≠ [] ∧ IsGreatest (ringGraph.explanationLengths {}) 2 ∧
      2 < ringGraph.catalog.symbols.length ∧
      ringGraph.digraph.depth ringGraph.digraph.neighbors (ringGraph.roots {} ++ ringGraph.roots {}) = 2 := by
  have hbuild : build ringFunctions (ringPairs.map ringCall) {} = .ok ringGraph := rfl
  have hdepth : ringGraph.depth {} = 2 := by decide +kernel
  have hne : (ringGraph.verdict {}).reachable ≠ [] := by
    rw [ne_eq, reachable_eq_nil_iff hbuild]
    decide +kernel
  obtain ⟨-, hgreatest, -, hbound, horder⟩ := depth_is_eccentricity hbuild {}
  -- Roots that are listed twice, and neighbours in the order in which the calls were entered.
  have htwice := horder ringGraph.digraph.neighbors (ringGraph.roots {} ++ ringGraph.roots {})
    (Digraph.enumerates_neighbors _) fun key => by simp
  rw [hdepth] at hgreatest hbound htwice
  exact ⟨hbuild, hdepth, hne, hgreatest hne, hbound (by decide +kernel), htwice⟩

end CallGraph

end Deadwood
