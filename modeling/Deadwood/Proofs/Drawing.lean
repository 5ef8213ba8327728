/-
What the drawing of a call graph shows.

* **`exists_statements`** — a drawing can be made, and its statements are those of the
  functions that are kept and of the edges between them;
* **`drawing_joins_iff_colonFree`** — each function is read as a node of its name, but an edge
  is read as one between its two functions only if there is no colon in their names;
* **`colon_cuts_node`** — a function in a module has one: an edge to it is read as an edge to
  a node that is not in the drawing.
-/
import Deadwood.Proofs.DotReader
import Deadwood.Proofs.Invariant

namespace Deadwood.Dot

/-- Known keys are looked up one by one, and what follows is done with all functions. -/
theorem exists_mapM_keys {β γ ε : Type} {catalog : Catalog} {f : Key → Except ε β} {g : Symbol → β}
    (hf : ∀ s ∈ catalog.symbols, f s.key = .ok (g s)) {keys : List Key} (hkeys : keys ⊆ catalog.keys)
    (next : List β → Except ε γ) :
    ∃ found : List Symbol, found.map (·.key) = keys ∧ (keys.mapM f >>= next) = next (found.map g) := by
  suffices hfound : ∃ found : List Symbol, found.map (·.key) = keys ∧ keys.mapM f = .ok (found.map g) by
    obtain ⟨found, hkeys, hmapM⟩ := hfound
    exact ⟨found, hkeys, congrArg (· >>= next) hmapM⟩
  induction keys with
  | nil => exact ⟨[], rfl, rfl⟩
  | cons key keys ih =>
    obtain ⟨hkey, hrest⟩ := List.cons_subset.mp hkeys
    obtain ⟨s, hs, rfl⟩ := Catalog.mem_keys.mp hkey
    obtain ⟨found, rfl, hfound⟩ := ih hrest
    refine ⟨s :: found, rfl, ?_⟩
    rw [List.mapM_cons, hf s hs, hfound]
    rfl

theorem nodup_kept (graph : CallGraph) (verdict : Verdict) (onlyDead : Bool) :
    (kept graph verdict onlyDead).Nodup := by
  rw [kept]
  split
  · exact nodup_eraseDups _
  · exact graph.catalog.keyed

/-- The edges between functions that are kept. -/
def keptEdges (graph : CallGraph) (verdict : Verdict) (onlyDead : Bool) : List (Key × Key) :=
  graph.sortedEdges.filter fun edge =>
    (kept graph verdict onlyDead).contains edge.1 && (kept graph verdict onlyDead).contains edge.2

theorem mem_keptEdges {graph : CallGraph} {verdict : Verdict} {onlyDead : Bool} {edge : Key × Key} :
    edge ∈ keptEdges graph verdict onlyDead ↔
      edge ∈ graph.edges ∧ edge.1 ∈ kept graph verdict onlyDead ∧ edge.2 ∈ kept graph verdict onlyDead := by
  rw [keptEdges, List.mem_filter, CallGraph.mem_sortedEdges, Bool.and_eq_true, List.contains_iff_mem,
    List.contains_iff_mem]

/-- The statements of a drawing are those of the functions that are kept and of the edges between them. -/
theorem exists_statements {graph : CallGraph} {verdict : Verdict} {onlyDead : Bool}
    (hsub : kept graph verdict onlyDead ⊆ graph.catalog.keys) :
    ∃ nodes : List Symbol, (nodes.map (·.key)).Perm (kept graph verdict onlyDead) ∧
      statements graph verdict onlyDead = .ok (nodes.map (nodeStatement verdict) ++
        (keptEdges graph verdict onlyDead).map (edgeStatement verdict)) := by
  have hsorted : (Key.sort (kept graph verdict onlyDead)).Perm (kept graph verdict onlyDead) :=
    List.mergeSort_perm _ _
  have hfound : ∃ nodes : List Symbol, nodes.map (·.key) = Key.sort (kept graph verdict onlyDead) ∧
      statements graph verdict onlyDead = .ok (nodes.map (nodeStatement verdict) ++
        (keptEdges graph verdict onlyDead).map (edgeStatement verdict)) := by
    unfold statements
    refine exists_mapM_keys (fun s hs => ?_) (List.Subset.trans hsorted.subset hsub) _
    rw [Catalog.symbol?_of_mem hs]
  obtain ⟨nodes, hkeys, hstatements⟩ := hfound
  exact ⟨nodes, hkeys ▸ hsorted, hstatements⟩

theorem ofOutcome_of_statements {outcome : Outcome} {graph : CallGraph} {onlyDead : Bool} {body : List Statement}
    (hgraph : outcome.graph = some graph) (h : statements graph outcome.verdict onlyDead = .ok body) :
    ofOutcome outcome onlyDead = .ok (render "deadfn" (defaults ++ body)) := by
  rw [ofOutcome, hgraph]
  exact congrArg (· >>= fun body => .ok (render "deadfn" (defaults ++ body))) h

theorem mem_render_of_mem {name : String} {statements : List Statement} {statement : Statement}
    (h : statement ∈ statements) : statement.line ∈ render name statements :=
  List.mem_append_left _ (List.mem_cons_of_mem _ (List.mem_map_of_mem h))

/-- The first line, the last one and the defaults say nothing about nodes and edges. -/
theorem exists_statement_of_read {body : List Statement} {line : String} {reading : Reading}
    (hline : line ∈ render "deadfn" (defaults ++ body)) (hread : readStatement? line = some reading) :
    ∃ statement ∈ body, statement.line = line := by
  have hframe : ∀ line ∈ render "deadfn" defaults, readStatement? line = none := by decide +kernel
  have hnone : line ∉ render "deadfn" defaults := by
    intro hmem
    rw [hframe line hmem] at hread
    exact absurd hread (by simp)
  simp only [render, List.map_append, List.mem_append, List.mem_cons, not_or] at hline hnone
  rcases hline with (hfirst | hdefault | hbody) | hlast
  · exact absurd hfirst hnone.1.1
  · exact absurd hdefault hnone.1.2
  · exact List.mem_map.mp hbody
  · exact absurd hlast (by simpa using hnone.2)

variable {symbols : List Symbol} {calls : List CallSite} {imports : Imports} {graph : CallGraph}

/-- **What a drawing shows.**  It has one statement for each function that is kept and one for each edge of the graph
between two of these, and no other line of it is read as a statement.  If the names of the functions are legible, each
of the former is read as a node of that name; each of the latter is read as an edge between the nodes of its two
functions exactly if their names have no colon. -/
theorem drawing_joins_iff_colonFree (hbuild : CallGraph.build symbols calls imports = .ok graph) (policy : Policy)
    (onlyDead : Bool) {outcome : Outcome} (hgraph : outcome.graph = some graph)
    (hverdict : outcome.verdict = graph.verdict policy) :
    ∃ (nodes : List Symbol) (edges : List (Key × Key)) (lines : List String),
      ofOutcome outcome onlyDead = .ok lines ∧
      lines = render "deadfn" (defaults ++
        (nodes.map (nodeStatement outcome.verdict) ++ edges.map (edgeStatement outcome.verdict))) ∧
      (∀ line ∈ lines, ∀ reading, readStatement? line = some reading →
        (∃ s ∈ nodes, (nodeStatement outcome.verdict s).line = line) ∨
          ∃ edge ∈ edges, (edgeStatement outcome.verdict edge).line = line) ∧
      (nodes.map (·.key)).Nodup ∧
      (∀ key, key ∈ nodes.map (·.key) ↔ key ∈ kept graph outcome.verdict onlyDead) ∧
      edges.Nodup ∧
      (∀ edge, edge ∈ edges ↔
        edge ∈ graph.edges ∧ edge.1 ∈ nodes.map (·.key) ∧ edge.2 ∈ nodes.map (·.key)) ∧
      ((∀ s ∈ nodes, Legible (nodeName s.key)) →
        (∀ s ∈ nodes, readStatement? (nodeStatement outcome.verdict s).line =
          some (.node ⟨nodeName s.key, none, none⟩)) ∧
        ∀ edge ∈ edges,
          (∃ tail head, readStatement? (edgeStatement outcome.verdict edge).line = some (.edge tail head) ∧
            tail.node = nodeName edge.1 ∧ head.node = nodeName edge.2) ↔
          ':' ∉ (nodeName edge.1).toList ∧ ':' ∉ (nodeName edge.2).toList) := by
  obtain ⟨nodes, hkeys, hstatements⟩ := exists_statements (CallGraph.kept_subset hbuild policy onlyDead)
  rw [← hverdict] at hkeys hstatements
  refine ⟨nodes, keptEdges graph outcome.verdict onlyDead, _, ofOutcome_of_statements hgraph hstatements, rfl,
    fun line hline reading hread => ?_, ?_, fun key => hkeys.mem_iff, ?_, fun edge => ?_,
    fun hlegible => ⟨fun s hs => ?_, fun edge hedge => ?_⟩⟩
  · obtain ⟨statement, hstatement, rfl⟩ := exists_statement_of_read hline hread
    rcases List.mem_append.mp hstatement with hnode | hjoin
    · obtain ⟨s, hs, rfl⟩ := List.mem_map.mp hnode
      exact Or.inl ⟨s, hs, rfl⟩
    · obtain ⟨edge, hedge, rfl⟩ := List.mem_map.mp hjoin
      exact Or.inr ⟨edge, hedge, rfl⟩
  · exact hkeys.nodup_iff.mpr (nodup_kept _ _ _)
  · exact (CallGraph.nodup_sortedEdges (CallGraph.records_build hbuild).nodup_edges).filter _
  · rw [mem_keptEdges, hkeys.mem_iff, hkeys.mem_iff]
  · exact readStatement?_node (hlegible s hs) (hash_mem_nodeName s.key)
  · have hends : ∀ key ∈ kept graph outcome.verdict onlyDead, Legible (nodeName key) := by
      intro key hkey
      obtain ⟨s, hs, rfl⟩ := List.mem_map.mp (hkeys.mem_iff.mpr hkey)
      exact hlegible s hs
    obtain ⟨-, hsource, htarget⟩ := mem_keptEdges.mp hedge
    exact readStatement?_edge_iff (hends _ hsource) (hash_mem_nodeName edge.1) (hends _ htarget)
      (hash_mem_nodeName edge.2)

/-! ### A drawing -/

def drawnStep : Symbol :=
  { name := "step", fullPath := "step", visibility := .inModule, file := "src/main.rs", span := CallGraph.sampleSpan }

def drawnDeep : Symbol :=
  { name := "deep", fullPath := "m::deep", visibility := .inModule, file := "src/main.rs",
    span := CallGraph.sampleSpan, order := 1 }

def drawnStepCall : CallSite :=
  { callee := "step", file := "src/main.rs", span := CallGraph.sampleSpan, enclosing := "main",
    resolved := some "step" }

def drawnDeepCall : CallSite :=
  { callee := "deep", file := "src/main.rs", span := CallGraph.sampleSpan, enclosing := "main",
    path := some "m::deep", resolved := some "m::deep" }

/-- The entry point calls the function beside it and the one in the module `m`. -/
def drawnGraph : CallGraph :=
  { catalog := .ofProject [CallGraph.sampleMain, drawnStep, drawnDeep] {}
    edges := [(CallGraph.sampleMain.key, drawnStep.key), (CallGraph.sampleMain.key, drawnDeep.key)]
    resolutions := [(drawnStepCall, [drawnStep.key]), (drawnDeepCall, [drawnDeep.key])] }

theorem build_drawnGraph :
    CallGraph.build [CallGraph.sampleMain, drawnStep, drawnDeep] [drawnStepCall, drawnDeepCall] {} = .ok drawnGraph :=
  rfl

def drawnOutcome : Outcome :=
  { verdict := drawnGraph.verdict {}, graph := some drawnGraph }

/-- The edge into the module is read, but its head is cut at the colon. -/
theorem readStatement?_drawnDeep (verdict : Verdict) :
    readStatement? (edgeStatement verdict (CallGraph.sampleMain.key, drawnDeep.key)).line =
      some (.edge ⟨"src/main.rs#main", none, none⟩ ⟨"src/main.rs#m", some "", some "deep"⟩) := by
  rw [edgeStatement]
  dsimp only
  split
  · decide +kernel
  · decide +kernel

theorem kept_drawn (verdict : Verdict) :
    kept drawnGraph verdict false = [CallGraph.sampleMain.key, drawnStep.key, drawnDeep.key] :=
  rfl

theorem legible_drawn {key : Key} (h : key ∈ [CallGraph.sampleMain.key, drawnStep.key, drawnDeep.key]) :
    Legible (nodeName key) := by
  have hall : ∀ key ∈ [CallGraph.sampleMain.key, drawnStep.key, drawnDeep.key],
      (nodeName key).toList.head? ≠ some '<' ∧ legible (nodeName key).toList = true := by decide +kernel
  exact ⟨(hall key h).1, (hall key h).2⟩

theorem drawing_joins_iff_colonFree_sample :
    CallGraph.build [CallGraph.sampleMain, drawnStep, drawnDeep] [drawnStepCall, drawnDeepCall] {} = .ok drawnGraph ∧
      (CallGraph.sampleMain.key, drawnStep.key) ∈ drawnGraph.edges ∧
      ∃ tail head, readStatement? (edgeStatement drawnOutcome.verdict (CallGraph.sampleMain.key, drawnStep.key)).line =
        some (.edge tail head) ∧ tail.node = "src/main.rs#main" ∧ head.node = "src/main.rs#step" := by
  obtain ⟨nodes, edges, _, -, -, -, -, hnodes, -, hedges, hread⟩ :=
    drawing_joins_iff_colonFree build_drawnGraph {} false (rfl : drawnOutcome.graph = some drawnGraph) rfl
  have hlegible : ∀ s ∈ nodes, Legible (nodeName s.key) := by
    intro s hs
    refine legible_drawn ?_
    rw [← kept_drawn drawnOutcome.verdict, ← hnodes]
    exact List.mem_map_of_mem hs
  have hedge : (CallGraph.sampleMain.key, drawnStep.key) ∈ edges := by
    rw [hedges, hnodes, hnodes, kept_drawn]
    decide +kernel
  exact ⟨build_drawnGraph, List.mem_cons_self, ((hread hlegible).2 _ hedge).mpr (by decide +kernel)⟩

/-- A function in a module has a colon in its name.  The edge to it is read as an edge to the node of the part before
the colon, and no statement of the drawing declares that node. -/
theorem colon_cuts_node :
    CallGraph.build [CallGraph.sampleMain, drawnStep, drawnDeep] [drawnStepCall, drawnDeepCall] {} = .ok drawnGraph ∧
      ∃ lines, ofOutcome drawnOutcome false = .ok lines ∧
        (∃ line ∈ lines, readStatement? line =
          some (.edge ⟨"src/main.rs#main", none, none⟩ ⟨"src/main.rs#m", some "", some "deep"⟩)) ∧
        ∀ line ∈ lines, ∀ declared, readStatement? line = some (.node declared) →
          declared.node ≠ "src/main.rs#m" := by
  obtain ⟨nodes, hkeys, hstatements⟩ := exists_statements
    (CallGraph.kept_subset build_drawnGraph {} false)
  refine ⟨build_drawnGraph, _, ofOutcome_of_statements rfl hstatements, ?_, fun line hline declared hread => ?_⟩
  · have hedge : (CallGraph.sampleMain.key, drawnDeep.key) ∈ keptEdges drawnGraph (drawnGraph.verdict {}) false := by
      rw [mem_keptEdges, kept_drawn]
      decide +kernel
    refine ⟨_, mem_render_of_mem ?_, readStatement?_drawnDeep (drawnGraph.verdict {})⟩
    exact List.mem_append_right _ (List.mem_append_right _ (List.mem_map_of_mem hedge))
  · obtain ⟨statement, hstatement, rfl⟩ := exists_statement_of_read hline hread
    rcases List.mem_append.mp hstatement with hnode | hjoin
    · obtain ⟨s, hs, rfl⟩ := List.mem_map.mp hnode
      have hkey : s.key ∈ [CallGraph.sampleMain.key, drawnStep.key, drawnDeep.key] := by
        rw [← kept_drawn (drawnGraph.verdict {}), ← hkeys.mem_iff]
        exact List.mem_map_of_mem hs
      have hnode := hread.symm.trans (readStatement?_node (legible_drawn hkey) (hash_mem_nodeName s.key))
      obtain rfl := Reading.node.inj (Option.some.inj hnode)
      revert hkey
      generalize s.key = key
      revert key
      decide +kernel
    · obtain ⟨edge, hedge, rfl⟩ := List.mem_map.mp hjoin
      -- Both edges are read as edges, the one into the module with a head that was cut.
      have hpair : edge ∈ drawnGraph.edges := (mem_keptEdges.mp hedge).1
      rcases List.mem_pair.mp hpair with rfl | rfl
      · have hmain : Legible (nodeName CallGraph.sampleMain.key) := legible_drawn (by decide)
        have hstep : Legible (nodeName drawnStep.key) := legible_drawn (by decide)
        have hcolon : ':' ∉ (nodeName CallGraph.sampleMain.key).toList ∧ ':' ∉ (nodeName drawnStep.key).toList := by
          decide +kernel
        obtain ⟨tail, head, hjoins, -, -⟩ :=
          (readStatement?_edge_iff hmain (hash_mem_nodeName _) hstep (hash_mem_nodeName _)).mpr hcolon
        exact absurd (hread.symm.trans hjoins) (by simp)
      · exact absurd (hread.symm.trans (readStatement?_drawnDeep _)) (by simp)

end Deadwood.Dot
