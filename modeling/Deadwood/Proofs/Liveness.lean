/-
What is alive, in terms of the calls of a project.

A function is alive if a chain of calls leads to it from an entry: an entry point
of the policy, or a function called from the body of a module.  The graph holds
the same chains as edges, and the walk collects them, so

* **`mem_roots_iff`** — the roots of a graph are the entries;
* **`mem_reachable_iff`** — what is reached is what a chain of calls leads to;
* **`dead_exact`** — the dead functions are the others that are not ignored, each
  once, in the strict order of reports.

A chain never leaves the catalog: it begins at a function, and calls lead to
functions only.  This is why the edges, which are recorded for known callers
alone, lose no chain (`chain_iff`).
-/
import Deadwood.CallGraph.Verdict
import Deadwood.Proofs.Linking
import Deadwood.Proofs.Reachability

namespace Deadwood.CallGraph

open ModulePath (isModuleBody)
open Relation (ReflTransGen)

variable {symbols : List Symbol} {calls : List CallSite} {imports : Imports} {catalog : Catalog}
  {graph : CallGraph} {policy : Policy}

/-! ### Reaching along edges -/

theorem mem_callees {a b : Key} : b ∈ graph.callees a ↔ (a, b) ∈ graph.edges := by
  rw [callees, Key.sort, List.mem_mergeSort, Digraph.mem_neighbors]
  rfl

theorem mem_sortedEdges {edge : Key × Key} : edge ∈ graph.sortedEdges ↔ edge ∈ graph.edges := by
  obtain ⟨a, b⟩ := edge
  simp only [sortedEdges, List.mem_flatMap, Key.sort, List.mem_mergeSort, List.mem_eraseDups, List.mem_map,
    mem_callees, Prod.mk.injEq]
  constructor
  · rintro ⟨key, -, target, hedge, rfl, rfl⟩
    exact hedge
  · intro hedge
    exact ⟨a, ⟨(a, b), hedge, rfl⟩, b, hedge, rfl, rfl⟩

theorem nodup_callees (h : graph.edges.Nodup) (key : Key) : (graph.callees key).Nodup := by
  rw [callees, Key.sort, (List.mergeSort_perm _ _).nodup_iff, Digraph.neighbors]
  refine (h.filter _).map_on fun a ha b hb htarget => ?_
  have hsource : ∀ edge ∈ graph.digraph.edges.filter (·.1 == key), edge.1 = key :=
    fun edge hedge => beq_iff_eq.mp (List.mem_filter.mp hedge).2
  exact Prod.ext ((hsource a ha).trans (hsource b hb).symm) htarget

/-- Every edge is listed once. -/
theorem nodup_sortedEdges (h : graph.edges.Nodup) : graph.sortedEdges.Nodup := by
  have hsources : (Key.sort (graph.edges.map (·.1)).eraseDups).Nodup := by
    rw [Key.sort, (List.mergeSort_perm _ _).nodup_iff]
    exact nodup_eraseDups _
  refine List.nodup_flatMap.mpr ⟨fun key _ => ?_, hsources.imp fun {a b} hne edge ha hb => ?_⟩
  · exact (nodup_callees h key).map fun b b' heq => (Prod.mk.inj heq).2
  · obtain ⟨_, -, rfl⟩ := List.mem_map.mp ha
    obtain ⟨_, -, heq⟩ := List.mem_map.mp hb
    exact hne (Prod.mk.inj heq).1.symm

theorem enumerates_callees (graph : CallGraph) : graph.digraph.Enumerates graph.callees :=
  fun _ _ => mem_callees

theorem mem_reachable_of_edges {roots : List Key} {key : Key} :
    key ∈ graph.reachable roots ↔
      ∃ root ∈ roots, root ∈ graph.catalog.keys ∧ ReflTransGen (fun a b => (a, b) ∈ graph.edges) root key :=
  Digraph.mem_reachable_iff (enumerates_callees graph)

theorem nodup_reachable (graph : CallGraph) (roots : List Key) : (graph.reachable roots).Nodup :=
  Digraph.nodup_reachable _ _ _

/-! ### Entries and chains of calls -/

/-- A function that is alive by itself: an entry point of the policy, or one called from the body of a module. -/
def Entry (catalog : Catalog) (calls : List CallSite) (policy : Policy) (key : Key) : Prop :=
  (∃ s ∈ catalog.symbols, s.key = key ∧ policy.isRoot s = true) ∨
    ∃ call ∈ calls, isModuleBody call.enclosing = true ∧ catalog.Leads call key

/-- A call in one function that may reach another. -/
def CallsTo (catalog : Catalog) (calls : List CallSite) (a b : Key) : Prop :=
  ∃ call ∈ calls, isModuleBody call.enclosing = false ∧ callerKey call = a ∧ catalog.Leads call b

/-- A chain of calls leads to a function from an entry. -/
def Alive (catalog : Catalog) (calls : List CallSite) (policy : Policy) (key : Key) : Prop :=
  ∃ start, Entry catalog calls policy start ∧ ReflTransGen (CallsTo catalog calls) start key

theorem Entry.mem_keys {key : Key} (h : Entry catalog calls policy key) : key ∈ catalog.keys := by
  rcases h with ⟨s, hs, hkey, -⟩ | ⟨call, -, -, hleads⟩
  · exact Catalog.mem_keys.mpr ⟨s, hs, hkey⟩
  · exact hleads.mem_keys

/-- From a function of the catalog, edges and calls lead along the same chains. -/
theorem Records.chain_iff (h : Records catalog calls graph) {start key : Key} (hstart : start ∈ catalog.keys) :
    ReflTransGen (fun a b => (a, b) ∈ graph.edges) start key ↔ ReflTransGen (CallsTo catalog calls) start key := by
  constructor
  · intro hpath
    refine Relation.ReflTransGen.mono ?_ _ _ hpath
    intro a b hedge
    obtain ⟨call, hcall, hbody, hcaller, -, hleads⟩ := (h.mem_edges a b).mp hedge
    exact ⟨call, hcall, hbody, hcaller, hleads⟩
  · intro hpath
    -- Every function on the chain is one of the catalog, so each of its calls has made an edge.
    suffices hboth : ReflTransGen (fun a b => (a, b) ∈ graph.edges) start key ∧ key ∈ catalog.keys from hboth.1
    induction hpath with
    | refl => exact ⟨.refl, hstart⟩
    | @tail a b _ hcall ih =>
      obtain ⟨hpath, ha⟩ := ih
      obtain ⟨call, hcall, hbody, hcaller, hleads⟩ := hcall
      have hedge : (a, b) ∈ graph.edges := (h.mem_edges a b).mpr ⟨call, hcall, hbody, hcaller, ha, hleads⟩
      exact ⟨hpath.tail hedge, hleads.mem_keys⟩

theorem Records.mem_roots_iff (h : Records catalog calls graph) {key : Key} :
    key ∈ graph.roots policy ↔ Entry catalog calls policy key := by
  obtain rfl := h.catalog_eq
  rw [roots, Digraph.mem_foldl_adjoin, Catalog.mem_map_key_filter, List.mem_filter, h.mem_moduleRoots,
    Catalog.contains_iff]
  refine or_congr_right ⟨And.left, fun hentry => ⟨hentry, ?_⟩⟩
  obtain ⟨_, -, -, hleads⟩ := hentry
  exact hleads.mem_keys

theorem nodup_roots (graph : CallGraph) (policy : Policy) : (graph.roots policy).Nodup :=
  Digraph.nodup_foldl_adjoin (graph.catalog.nodup_map_filter _)

/-- What is reached from the roots is what a chain of calls leads to. -/
theorem Records.mem_reachable_iff (h : Records catalog calls graph) {key : Key} :
    key ∈ graph.reachable (graph.roots policy) ↔ Alive catalog calls policy key := by
  rw [mem_reachable_of_edges, h.catalog_eq]
  constructor
  · rintro ⟨root, hroot, hmem, hpath⟩
    exact ⟨root, h.mem_roots_iff.mp hroot, (h.chain_iff hmem).mp hpath⟩
  · rintro ⟨root, hentry, hpath⟩
    exact ⟨root, h.mem_roots_iff.mpr hentry, hentry.mem_keys, (h.chain_iff hentry.mem_keys).mpr hpath⟩

/-! ### The dead functions -/

/-- The functions that are not reached. -/
def unreached (graph : CallGraph) (reachable : List Key) : List Symbol :=
  Census.unreached reachable graph.catalog.symbols

/-- The functions that are neither reached nor ignored, in the order in which they were declared. -/
def condemned (graph : CallGraph) (policy : Policy) : List Symbol :=
  Census.condemned policy (graph.reachable (graph.roots policy)) graph.catalog.symbols

theorem condemned_sublist (graph : CallGraph) (policy : Policy) :
    (graph.condemned policy).Sublist graph.catalog.symbols :=
  Census.condemned_sublist _ _ _

/-- The numbers of a verdict, counted one by one. -/
def numbers (graph : CallGraph) (policy : Policy) : Statistics where
  total := graph.catalog.symbols.length
  reachable := (graph.reachable (graph.roots policy)).length
  dead := (graph.condemned policy).length
  ignored := (graph.unreached (graph.reachable (graph.roots policy))).countP policy.ignores
  publicDead := (graph.condemned policy).countP (·.visibility.isPublic)
  privateDead := (graph.condemned policy).countP (!·.visibility.isPublic)
  tallies := Census.tally graph.catalog.symbols (graph.condemned policy)
  edges := graph.edges.length
  unresolved := graph.unresolved.length

/-- One pass over the functions finds what is dead, and counts what there is to be counted. -/
theorem analyze?_eq (graph : CallGraph) (policy : Policy) :
    graph.analyze? policy = some
      { dead := graph.catalog.inReportOrder (graph.condemned policy)
        reachable := graph.reachable (graph.roots policy)
        roots := graph.roots policy
        statistics := graph.numbers policy } := by
  have hordered := Catalog.ordered?_eq (condemned_sublist graph policy).subset
  have hlength : ((graph.condemned policy).map (·.key)).length = (graph.condemned policy).length := List.length_map _
  rw [analyze?, Census.take?_eq]
  show Option.bind (graph.catalog.ordered? ((graph.condemned policy).map (·.key))) _ = _
  rw [hordered, numbers, ← hlength]
  rfl

theorem analyze?_eq_some_verdict (graph : CallGraph) (policy : Policy) :
    graph.analyze? policy = some (graph.verdict policy) :=
  (Option.some_get _).symm

theorem verdict_eq (graph : CallGraph) (policy : Policy) :
    graph.verdict policy =
      { dead := graph.catalog.inReportOrder (graph.condemned policy)
        reachable := graph.reachable (graph.roots policy)
        roots := graph.roots policy
        statistics := graph.numbers policy } :=
  Option.get_of_eq_some _ (analyze?_eq graph policy)

theorem dead_eq (graph : CallGraph) (policy : Policy) :
    (graph.verdict policy).dead = graph.catalog.inReportOrder (graph.condemned policy) := by
  rw [verdict_eq]

theorem reachable_verdict (graph : CallGraph) (policy : Policy) :
    (graph.verdict policy).reachable = graph.reachable (graph.roots policy) := by
  rw [verdict_eq]

theorem roots_verdict (graph : CallGraph) (policy : Policy) : (graph.verdict policy).roots = graph.roots policy := by
  rw [verdict_eq]

theorem statistics_verdict (graph : CallGraph) (policy : Policy) :
    (graph.verdict policy).statistics = graph.numbers policy := by
  rw [verdict_eq]

theorem mem_condemned {s : Symbol} :
    s ∈ graph.condemned policy ↔
      s ∈ graph.catalog.symbols ∧ policy.ignores s = false ∧ s.key ∉ graph.reachable (graph.roots policy) := by
  rw [condemned, Census.condemned, Census.unreached, List.mem_filter, List.mem_filter]
  simp only [Bool.not_eq_true', List.contains_eq_mem, decide_eq_false_iff_not]
  constructor
  · rintro ⟨⟨hs, hunreached⟩, hignored⟩
    exact ⟨hs, hignored, hunreached⟩
  · rintro ⟨hs, hignored, hunreached⟩
    exact ⟨⟨hs, hunreached⟩, hignored⟩

/-- **The dead functions are exactly those that no chain of calls leads to and that are not ignored.**  Each is
named once: they come strictly ordered by the first appearance of their file among the given functions, their
place in it, and their path. -/
theorem dead_exact (hbuild : build symbols calls imports = .ok graph) (policy : Policy) :
    (∀ s, s ∈ (graph.verdict policy).dead ↔
      s ∈ graph.catalog.symbols ∧ policy.ignores s = false ∧
        ¬ ∃ start, Entry graph.catalog calls policy start ∧
          ReflTransGen (CallsTo graph.catalog calls) start s.key) ∧
    (graph.verdict policy).dead.Pairwise fun a b =>
      Catalog.reportPlace symbols a < Catalog.reportPlace symbols b := by
  have hrecords := records_build hbuild
  constructor
  · intro s
    rw [dead_eq, Catalog.mem_inReportOrder, mem_condemned, hrecords.mem_reachable_iff, hrecords.catalog_eq]
    exact Iff.rfl
  · have hplace : Catalog.reportPlace symbols = Catalog.reportPlace graph.catalog.symbols := by
      funext s
      rw [Catalog.reportPlace, Catalog.reportPlace, hrecords.catalog_eq, Catalog.filesOf_ofProject]
    rw [hplace, dead_eq]
    exact Catalog.pairwise_inReportOrder (condemned_sublist graph policy)

theorem dead_exact_sample :
    build [sampleMake, sampleArea, sampleMain] [sampleCall] {} = .ok sampleGraph ∧
      sampleArea ∈ (sampleGraph.verdict {}).dead ∧ sampleMake ∉ (sampleGraph.verdict {}).dead := by
  have hbuild : build [sampleMake, sampleArea, sampleMain] [sampleCall] {} = .ok sampleGraph := rfl
  have hsymbols : sampleGraph.catalog.symbols = [sampleMake, sampleArea, sampleMain] := rfl
  have hbody : isModuleBody sampleCall.enclosing = false := by decide +kernel
  have hresolve : sampleGraph.catalog.resolve sampleCall = .ok (.linked .tail [sampleMake.key]) := rfl
  obtain ⟨hdead, -⟩ := dead_exact hbuild {}
  refine ⟨hbuild, (hdead _).mpr ⟨by simp [hsymbols], rfl, ?_⟩, fun hmake => ((hdead _).mp hmake).2.2 ?_⟩
  · rintro ⟨start, hentry, hpath⟩
    rcases hpath.cases_tail with rfl | ⟨caller, -, call, hcall, -, -, hleads⟩
    · rcases hentry with ⟨s, hs, hkey, hroot⟩ | ⟨call, hcall, hmodule, -⟩
      · rw [Catalog.eq_of_key_eq hs (by simp [hsymbols]) hkey] at hroot
        exact absurd hroot (by decide)
      · rw [List.mem_singleton.mp hcall, hbody] at hmodule
        exact absurd hmodule (by decide)
    · rw [List.mem_singleton.mp hcall, Catalog.leads_of_linked hresolve, List.mem_singleton] at hleads
      exact absurd hleads (by decide)
  · have hmain : Entry sampleGraph.catalog [sampleCall] {} sampleMain.key :=
      Or.inl ⟨sampleMain, by simp [hsymbols], rfl, by decide⟩
    have hleads : sampleGraph.catalog.Leads sampleCall sampleMake.key :=
      (Catalog.leads_of_linked hresolve).mpr List.mem_cons_self
    exact ⟨sampleMain.key, hmain, .single ⟨sampleCall, List.mem_cons_self, hbody, rfl, hleads⟩⟩

end Deadwood.CallGraph
