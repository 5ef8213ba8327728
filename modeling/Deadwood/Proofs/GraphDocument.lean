/-
What can be read off a graph document alone.

A graph document names functions by texts, `file::path`, and its edges by two of them.
`ListedGraph.read?` reads it without knowing the graph.  The main statements are

* **`nodeId_injective`** — if no file has a colon in its name, a text names one function;
* **`reaches_nodeId_iff`** — hence paths along the listed edges are paths of the graph;
* **`document_bears_out_verdict`** — so the document bears out its own marks and numbers:
  what is reached from the marked roots is what is counted as reachable, and the rest is
  what is marked as dead or counted as ignored.

Counts are compared function by function: a count over the nodes is one over the functions
of the catalog (`countP_nodes`), and each of these is reached, dead or ignored.
-/
import Deadwood.Proofs.Invariant
import Deadwood.Report.Document

namespace Deadwood

open Relation (ReflTransGen)

/-! ### Reading a document -/

namespace Json

/-- The value of a member of an object. -/
def at? : Json → String → Option Json
  | .object members, name => (members.find? (·.1 == name)).map (·.2)
  | _, _ => none

def asText? : Json → Option String
  | .text value => some value
  | _ => none

def asFlag? : Json → Option Bool
  | .bool value => some value
  | _ => none

def asInt? : Json → Option Int
  | .int value => some value
  | _ => none

def asList? : Json → Option (List Json)
  | .list items => some items
  | _ => none

end Json

/-- An entry of a function in a graph document. -/
structure ListedNode where
  id : String
  key : Key
  isRoot : Bool
  isDead : Bool
  deriving DecidableEq, Repr

/-- What a graph document says about functions, calls and numbers. -/
structure ListedGraph where
  nodes : List ListedNode
  edges : List (String × String)
  reachable : Int
  ignored : Int
  deriving DecidableEq, Repr

namespace ListedGraph

def readNode? (entry : Json) : Option ListedNode := do
  let id ← (← entry.at? "id").asText?
  let file ← (← entry.at? "file").asText?
  let path ← (← entry.at? "full_path").asText?
  let isRoot ← (← entry.at? "is_root").asFlag?
  let isDead ← (← entry.at? "is_dead").asFlag?
  return ⟨id, ⟨file, path⟩, isRoot, isDead⟩

def readEdge? (entry : Json) : Option (String × String) := do
  return (← (← entry.at? "from").asText?, ← (← entry.at? "to").asText?)

/-- Reads a graph document. -/
def read? (document : Json) : Option ListedGraph := do
  let nodes ← (← (← document.at? "nodes").asList?).mapM readNode?
  let edges ← (← (← document.at? "edges").asList?).mapM readEdge?
  let stats ← document.at? "stats"
  let reachable ← (← stats.at? "reachable_count").asInt?
  let ignored ← (← stats.at? "ignored_count").asInt?
  return ⟨nodes, edges, reachable, ignored⟩

/-- A path along the listed edges leads to a text from a node that is marked as a root. -/
def Reaches (listed : ListedGraph) (id : String) : Prop :=
  ∃ root ∈ listed.nodes, root.isRoot = true ∧ ReflTransGen (fun a b => (a, b) ∈ listed.edges) root.id id

end ListedGraph

open scoped Classical in
/-- What a graph document has to say for a reader who has nothing else. -/
structure ListedGraph.SelfConsistent (listed : ListedGraph) : Prop where
  ids_nodup : (listed.nodes.map (·.id)).Nodup
  edge_ends : ∀ edge ∈ listed.edges, edge.1 ∈ listed.nodes.map (·.id) ∧ edge.2 ∈ listed.nodes.map (·.id)
  dead_unreached : ∀ node ∈ listed.nodes, node.isDead = true → ¬ listed.Reaches node.id
  /-- What is not reached is marked as dead or counted as ignored. -/
  unreached_count : (listed.nodes.countP fun node => ¬ listed.Reaches node.id) =
    (listed.nodes.countP (·.isDead)) + listed.ignored
  reached_count : (listed.nodes.countP fun node => listed.Reaches node.id) = listed.reachable

namespace CallGraph

variable {symbols : List Symbol} {calls : List CallSite} {imports : Imports} {graph : CallGraph} {policy : Policy}

/-! ### What the document lists -/

/-- The entry of a function as it is read. -/
def listedNode (verdict : Verdict) (s : Symbol) : ListedNode :=
  ⟨nodeId s.key, s.key, verdict.roots.contains s.key, verdict.dead.any (·.key == s.key)⟩

/-- The document of a graph as it is read. -/
def listed (graph : CallGraph) (verdict : Verdict) : ListedGraph where
  nodes := (graph.catalog.inReportOrder graph.catalog.symbols).map (listedNode verdict)
  edges := graph.sortedEdges.map fun edge => (nodeId edge.1, nodeId edge.2)
  reachable := verdict.statistics.reachable
  ignored := verdict.statistics.ignored

/-- The document lists the functions in the order of reports. -/
theorem document_eq (graph : CallGraph) (verdict : Verdict) :
    graph.document verdict = .object [
      ("nodes", .list ((graph.catalog.inReportOrder graph.catalog.symbols).map (nodeEntry verdict))),
      ("edges", .list (graph.sortedEdges.map fun edge =>
        Json.object [("from", .text (nodeId edge.1)), ("to", .text (nodeId edge.2))])),
      ("stats", .object
        (verdict.statistics.members ++ [("max_call_depth", .int (graph.depthFrom verdict.roots))]))] := by
  have hordered : graph.catalog.ordered? graph.catalog.keys = _ := Catalog.ordered?_eq (List.Subset.refl _)
  refine Option.get_of_eq_some _ ?_
  rw [document?, hordered]
  rfl

theorem read?_document (graph : CallGraph) (verdict : Verdict) :
    ListedGraph.read? (graph.document verdict) = some (graph.listed verdict) := by
  have hnodes : ((graph.catalog.inReportOrder graph.catalog.symbols).map (nodeEntry verdict)).mapM
      ListedGraph.readNode? = some (graph.listed verdict).nodes := by
    rw [List.mapM_map]
    exact List.mapM_pure
  have hedges : (graph.sortedEdges.map fun edge =>
      Json.object [("from", .text (nodeId edge.1)), ("to", .text (nodeId edge.2))]).mapM ListedGraph.readEdge? =
        some (graph.listed verdict).edges := by
    rw [List.mapM_map]
    exact List.mapM_pure
  have hread : ListedGraph.read? (graph.document verdict) =
      (((graph.catalog.inReportOrder graph.catalog.symbols).map (nodeEntry verdict)).mapM
        ListedGraph.readNode?).bind fun nodes =>
      ((graph.sortedEdges.map fun edge =>
        Json.object [("from", .text (nodeId edge.1)), ("to", .text (nodeId edge.2))]).mapM
          ListedGraph.readEdge?).bind fun edges =>
      some ⟨nodes, edges, verdict.statistics.reachable, verdict.statistics.ignored⟩ := by
    rw [document_eq]
    rfl
  rw [hread, hnodes, hedges]
  rfl

theorem mem_nodes {verdict : Verdict} {node : ListedNode} :
    node ∈ (graph.listed verdict).nodes ↔ ∃ s ∈ graph.catalog.symbols, listedNode verdict s = node := by
  rw [listed, List.mem_map]
  simp only [Catalog.mem_inReportOrder]

/-- Nodes are counted function by function. -/
theorem countP_nodes (verdict : Verdict) (p : ListedNode → Bool) :
    (graph.listed verdict).nodes.countP p = graph.catalog.symbols.countP fun s => p (listedNode verdict s) := by
  rw [listed, List.countP_map]
  exact (graph.catalog.inReportOrder_perm _).countP_eq _

theorem map_id_nodes_perm (graph : CallGraph) (verdict : Verdict) :
    ((graph.listed verdict).nodes.map (·.id)).Perm (graph.catalog.keys.map nodeId) := by
  rw [listed, List.map_map, Catalog.keys, List.map_map]
  exact (graph.catalog.inReportOrder_perm _).map _

/-! ### Names of functions -/

theorem eq_of_append_colon {u u' v v' : List Char} (hu : ':' ∉ u) (hu' : ':' ∉ u')
    (h : u ++ ':' :: v = u' ++ ':' :: v') : u = u' ∧ v = v' := by
  induction u generalizing u' with
  | nil =>
    cases u' with
    | nil => exact ⟨rfl, (List.cons.inj h).2⟩
    | cons d u' =>
      obtain ⟨rfl, -⟩ := List.cons.inj h
      exact absurd List.mem_cons_self hu'
  | cons c u ih =>
    cases u' with
    | nil =>
      obtain ⟨rfl, -⟩ := List.cons.inj h
      exact absurd List.mem_cons_self hu
    | cons d u' =>
      obtain ⟨rfl, htail⟩ := List.cons.inj h
      have hrest : ':' ∉ u := fun hc => hu (List.mem_cons_of_mem _ hc)
      have hrest' : ':' ∉ u' := fun hc => hu' (List.mem_cons_of_mem _ hc)
      obtain ⟨rfl, rfl⟩ := ih hrest hrest' htail
      exact ⟨rfl, rfl⟩

theorem toList_nodeId (key : Key) : (nodeId key).toList = key.file.toList ++ ':' :: ':' :: key.path.toList := by
  simp [nodeId, toString, String.toList_append]

/-- A file without a colon in its name ends where the first colon stands. -/
theorem nodeId_injective {a b : Key} (ha : ':' ∉ a.file.toList) (hb : ':' ∉ b.file.toList)
    (h : nodeId a = nodeId b) : a = b := by
  have hlist := congrArg String.toList h
  rw [toList_nodeId, toList_nodeId] at hlist
  obtain ⟨hfile, hrest⟩ := eq_of_append_colon ha hb hlist
  have hpath : a.path.toList = b.path.toList := (List.cons.inj hrest).2
  exact congrArg₂ Key.mk (String.toList_inj.mp hfile) (String.toList_inj.mp hpath)

/-! ### Reaching along the listed edges -/

section Built

variable (hbuild : build symbols calls imports = .ok graph)
include hbuild

theorem colon_notMem_of_mem_keys (hfiles : ∀ s ∈ symbols, ':' ∉ s.file.toList) {key : Key}
    (hkey : key ∈ graph.catalog.keys) : ':' ∉ key.file.toList := by
  rw [(records_build hbuild).catalog_eq, Catalog.mem_keys_ofProject] at hkey
  obtain ⟨s, hs, rfl⟩ := List.mem_map.mp hkey
  exact hfiles s hs

/-- A path along the listed edges goes through the names of functions. -/
theorem exists_path_of_listed (hfiles : ∀ s ∈ symbols, ':' ∉ s.file.toList) {verdict : Verdict} {start : Key}
    (hstart : start ∈ graph.catalog.keys) {id : String}
    (hpath : ReflTransGen (fun a b => (a, b) ∈ (graph.listed verdict).edges) (nodeId start) id) :
    ∃ key ∈ graph.catalog.keys, nodeId key = id ∧ ReflTransGen (fun a b => (a, b) ∈ graph.edges) start key := by
  induction hpath with
  | refl => exact ⟨start, hstart, rfl, .refl⟩
  | @tail a b _ hlisted ih =>
    obtain ⟨key, hkey, rfl, hchain⟩ := ih
    obtain ⟨⟨source, target⟩, hedge, hnames⟩ := List.mem_map.mp hlisted
    obtain ⟨hsource, rfl⟩ := Prod.mk.inj hnames
    rw [mem_sortedEdges] at hedge
    obtain ⟨hends, htarget⟩ := edge_ends_of_build hbuild hedge
    -- The edge begins at a name; no other function has it, so the chain goes on from there.
    obtain rfl : source = key := nodeId_injective (colon_notMem_of_mem_keys hbuild hfiles hends)
      (colon_notMem_of_mem_keys hbuild hfiles hkey) hsource
    exact ⟨target, htarget, rfl, hchain.tail hedge⟩

theorem reaches_nodeId_iff (hfiles : ∀ s ∈ symbols, ':' ∉ s.file.toList) {key : Key}
    (hkey : key ∈ graph.catalog.keys) :
    (graph.listed (graph.verdict policy)).Reaches (nodeId key) ↔ key ∈ graph.reachable (graph.roots policy) := by
  constructor
  · rintro ⟨root, hroot, hmark, hpath⟩
    obtain ⟨s, hs, rfl⟩ := mem_nodes.mp hroot
    have hs' : s.key ∈ graph.catalog.keys := Catalog.mem_keys.mpr ⟨s, hs, rfl⟩
    obtain ⟨key', hkey', hname, hchain⟩ := exists_path_of_listed hbuild hfiles hs' hpath
    obtain rfl : key' = key := nodeId_injective (colon_notMem_of_mem_keys hbuild hfiles hkey')
      (colon_notMem_of_mem_keys hbuild hfiles hkey) hname
    have hmarked : s.key ∈ (graph.verdict policy).roots := List.contains_iff_mem.mp hmark
    rw [roots_verdict] at hmarked
    exact mem_reachable_of_edges.mpr ⟨s.key, hmarked, hs', hchain⟩
  · intro hreached
    obtain ⟨root, hroot, hmem, hchain⟩ := mem_reachable_of_edges.mp hreached
    obtain ⟨s, hs, rfl⟩ := Catalog.mem_keys.mp hmem
    rw [← roots_verdict] at hroot
    refine ⟨_, mem_nodes.mpr ⟨s, hs, rfl⟩, List.contains_iff_mem.mpr hroot, ?_⟩
    refine ReflTransGen.lift nodeId (fun a b hedge => ?_) _ _ hchain
    exact List.mem_map.mpr ⟨(a, b), mem_sortedEdges.mpr hedge, rfl⟩

end Built

/-! ### Marks and numbers -/

theorem isDead_listedNode_iff {s : Symbol} (hs : s ∈ graph.catalog.symbols) :
    (listedNode (graph.verdict policy) s).isDead = true ↔ s ∈ graph.condemned policy := by
  rw [listedNode, List.any_eq_true, dead_eq]
  simp only [Catalog.mem_inReportOrder, beq_iff_eq]
  constructor
  · rintro ⟨s', hs', hkey⟩
    obtain rfl := Catalog.eq_of_key_eq ((condemned_sublist graph policy).subset hs') hs hkey
    exact hs'
  · intro hs'
    exact ⟨s, hs', rfl⟩

/-- What is not reached is dead or ignored. -/
theorem countP_unreached (graph : CallGraph) (policy : Policy) :
    graph.catalog.symbols.countP (fun s => decide (s.key ∉ graph.reachable (graph.roots policy))) =
      graph.catalog.symbols.countP (fun s => (listedNode (graph.verdict policy) s).isDead) +
        (graph.verdict policy).statistics.ignored := by
  have hdead : graph.catalog.symbols.countP (fun s => (listedNode (graph.verdict policy) s).isDead) =
      (graph.condemned policy).length := by
    rw [condemned, Census.condemned, Census.unreached, List.filter_filter, ← List.countP_eq_length_filter]
    refine List.countP_congr fun s hs => ?_
    rw [isDead_listedNode_iff hs, mem_condemned]
    simp [hs]
  have hunreached : graph.catalog.symbols.countP
      (fun s => decide (s.key ∉ graph.reachable (graph.roots policy))) =
        (graph.unreached (graph.reachable (graph.roots policy))).length := by
    rw [List.countP_eq_length_filter, unreached, Census.unreached]
    simp
  rw [hdead, hunreached, length_condemned]

open scoped Classical in
/-- **A graph document bears out its verdict.**  It can be read without the graph, it lists each function once, under a
name of its own, and what its edges lead to from the marked roots is what it counts as reachable; the others are those
it marks as dead and those it counts as ignored. -/
theorem document_bears_out_verdict (hbuild : build symbols calls imports = .ok graph)
    (hfiles : ∀ s ∈ symbols, ':' ∉ s.file.toList) (policy : Policy) :
    ∃ listed, ListedGraph.read? (graph.document (graph.verdict policy)) = some listed ∧
      (listed.nodes.map (·.key)).Nodup ∧
      (∀ key, key ∈ listed.nodes.map (·.key) ↔ ∃ s ∈ symbols, s.key = key) ∧
      listed.SelfConsistent := by
  have hkeys : ((graph.listed (graph.verdict policy)).nodes.map (·.key)).Perm graph.catalog.keys := by
    rw [listed, List.map_map]
    exact (graph.catalog.inReportOrder_perm _).map _
  have hids := map_id_nodes_perm graph (graph.verdict policy)
  have hreaches : ∀ s ∈ graph.catalog.symbols,
      ((graph.listed (graph.verdict policy)).Reaches (listedNode (graph.verdict policy) s).id ↔
        s.key ∈ graph.reachable (graph.roots policy)) :=
    fun s hs => reaches_nodeId_iff hbuild hfiles (Catalog.mem_keys.mpr ⟨s, hs, rfl⟩)
  refine ⟨graph.listed (graph.verdict policy), read?_document graph _, hkeys.nodup_iff.mpr graph.catalog.keyed,
    fun key => ?_, ?_⟩
  · rw [hkeys.mem_iff, (records_build hbuild).catalog_eq, Catalog.mem_keys_ofProject, List.mem_map]
  constructor
  case ids_nodup =>
    refine hids.nodup_iff.mpr (graph.catalog.keyed.map_on fun a ha b hb hname => ?_)
    exact nodeId_injective (colon_notMem_of_mem_keys hbuild hfiles ha) (colon_notMem_of_mem_keys hbuild hfiles hb) hname
  case edge_ends =>
    intro listedEdge hlisted
    obtain ⟨⟨source, target⟩, hedge, rfl⟩ := List.mem_map.mp hlisted
    obtain ⟨hsource, htarget⟩ := edge_ends_of_build hbuild (mem_sortedEdges.mp hedge)
    exact ⟨hids.mem_iff.mpr (List.mem_map_of_mem hsource), hids.mem_iff.mpr (List.mem_map_of_mem htarget)⟩
  case dead_unreached =>
    intro node hnode hdead
    obtain ⟨s, hs, rfl⟩ := mem_nodes.mp hnode
    rw [hreaches s hs]
    exact (mem_condemned.mp ((isDead_listedNode_iff hs).mp hdead)).2.2
  case unreached_count =>
    have hcount : graph.catalog.symbols.countP (fun s => decide ¬ (graph.listed (graph.verdict policy)).Reaches
        (listedNode (graph.verdict policy) s).id) =
          graph.catalog.symbols.countP fun s => decide (s.key ∉ graph.reachable (graph.roots policy)) :=
      List.countP_congr fun s hs => by simp [hreaches s hs]
    rw [countP_nodes, countP_nodes, hcount, countP_unreached graph policy]
    exact Int.natCast_add _ _
  case reached_count =>
    have hcount : graph.catalog.symbols.countP (fun s => decide ((graph.listed (graph.verdict policy)).Reaches
        (listedNode (graph.verdict policy) s).id)) =
          graph.catalog.symbols.countP fun s => decide (s.key ∈ graph.reachable (graph.roots policy)) :=
      List.countP_congr fun s hs => by simp [hreaches s hs]
    rw [countP_nodes, hcount, countP_reached hbuild, listed, statistics_verdict]
    rfl

theorem document_bears_out_verdict_sample :
    build [sampleMake, sampleArea, sampleMain] [sampleCall] {} = .ok sampleGraph ∧
      (∀ s ∈ [sampleMake, sampleArea, sampleMain], ':' ∉ s.file.toList) ∧
      ∃ listed, ListedGraph.read? (sampleGraph.document (sampleGraph.verdict {})) = some listed ∧
        listed.SelfConsistent ∧ listed.edges = [("src/main.rs::main", "src/geo.rs::geo::Point::make")] ∧
        ∀ node ∈ listed.nodes, node.id = "src/geo.rs::geo::Point::make" → node.isDead = false := by
  have hbuild : build [sampleMake, sampleArea, sampleMain] [sampleCall] {} = .ok sampleGraph := rfl
  have hfiles : ∀ s ∈ [sampleMake, sampleArea, sampleMain], ':' ∉ s.file.toList := by decide +kernel
  obtain ⟨listed, hread, -, -, hlisted⟩ := document_bears_out_verdict hbuild hfiles {}
  refine ⟨hbuild, hfiles, listed, hread, hlisted, ?_⟩
  obtain rfl := Option.some.inj (hread.symm.trans (read?_document _ _))
  have hedges : (sampleGraph.listed (sampleGraph.verdict {})).edges =
      [("src/main.rs::main", "src/geo.rs::geo::Point::make")] := by decide +kernel
  refine ⟨hedges, fun node hnode hid => ?_⟩
  have hmain : listedNode (sampleGraph.verdict {}) sampleMain ∈ (sampleGraph.listed (sampleGraph.verdict {})).nodes :=
    mem_nodes.mpr ⟨sampleMain, by decide +kernel, rfl⟩
  -- The only edge leads to this function from the marked root, so the mark cannot be set.
  refine Bool.eq_false_iff.mpr fun hdead => hlisted.dead_unreached node hnode hdead ?_
  have hroot : sampleMain.key ∈ (sampleGraph.verdict {}).roots := by
    rw [roots_verdict]
    decide +kernel
  refine ⟨_, hmain, List.contains_iff_mem.mpr hroot, .single ?_⟩
  rw [hedges, hid]
  exact List.mem_singleton.mpr rfl

end CallGraph

end Deadwood
