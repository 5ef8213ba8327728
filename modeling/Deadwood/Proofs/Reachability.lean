/-
What can be reached in a directed graph, whatever the order of the walk.

`Digraph.reachable` looks at the neighbours of the last node that it met first.  A walk in
general keeps the nodes that it has visited and a frontier, and may go on with any node of
the frontier (`Advance`).  A node can stand on the frontier many times before it is visited.
The main statements are

* **`mem_reachable_iff`** — what is collected are the ends of the paths that begin at a root
  in the graph;
* **`Advance.budget_lt`**, **`budget_of_steps`** — each step of a walk uses up a part of a
  budget, so every walk ends;
* **`Exploring.advance`**, **`perm_of_steps`** — and where it ends, it has visited exactly
  what is collected;
* **`reachable_is_least_closure`** — hence the result is the least set that holds the roots
  in the graph and is closed under edges, for every order of roots and neighbours.

The budget is the length of the frontier and, for each node that is not visited yet, the
number of its neighbours: a visit pays for what it puts on the frontier.
-/
import Deadwood.Proofs.Closure

namespace Deadwood

/-- A number of steps of a relation. -/
inductive Steps {β : Type} (step : β → β → Prop) : Nat → β → β → Prop where
  | zero (a : β) : Steps step 0 a a
  | succ {n : Nat} {a b c : β} (front : Steps step n a b) (last : step b c) : Steps step (n + 1) a c

namespace Digraph

open Relation (ReflTransGen)

variable {α : Type} {graph : Digraph α} {next : α → List α} {roots : List α}

def Edge (graph : Digraph α) (a b : α) : Prop :=
  (a, b) ∈ graph.edges

/-- The neighbours of each node are listed, in any order. -/
def Enumerates (graph : Digraph α) (next : α → List α) : Prop :=
  ∀ a b, b ∈ next a ↔ graph.Edge a b

theorem Enumerates.edge_eq (h : graph.Enumerates next) : (fun a b => b ∈ next a) = graph.Edge := by
  funext a b
  exact propext (h a b)

/-- A path leads to a node from a root in the graph. -/
def Reaches (graph : Digraph α) (roots : List α) (x : α) : Prop :=
  ∃ root ∈ roots, root ∈ graph.nodes ∧ ReflTransGen graph.Edge root x

/-! ### What is collected -/

theorem Reaches.edge {a b : α} (h : graph.Reaches roots a) (hab : graph.Edge a b) : graph.Reaches roots b := by
  obtain ⟨root, hmem, hnode, hpath⟩ := h
  exact ⟨root, hmem, hnode, hpath.tail hab⟩

/-- What holds of the roots in the graph and is kept by every edge holds of all that is reached. -/
theorem Reaches.induct {held : α → Prop} (hroots : ∀ root ∈ roots, root ∈ graph.nodes → held root)
    (hedges : ∀ a b, graph.Edge a b → held a → held b) {x : α} (h : graph.Reaches roots x) : held x := by
  obtain ⟨root, hmem, hnode, hpath⟩ := h
  induction hpath with
  | refl => exact hroots root hmem hnode
  | tail _ hab ih => exact hedges _ _ hab ih

variable [DecidableEq α]

theorem enumerates_neighbors (graph : Digraph α) : graph.Enumerates graph.neighbors :=
  fun _ _ => mem_neighbors

theorem Enumerates.mem_domain (h : graph.Enumerates next) {a b : α} (hb : b ∈ next a) : b ∈ graph.domain :=
  Digraph.mem_domain.mpr (Or.inr ⟨(a, b), (h a b).mp hb, Or.inr rfl⟩)

theorem mem_domain_of_mem_nodes {x : α} (h : x ∈ graph.nodes) : x ∈ graph.domain :=
  Digraph.mem_domain.mpr (Or.inl h)

theorem mem_contained {x : α} : x ∈ roots.filter graph.nodes.contains ↔ x ∈ roots ∧ x ∈ graph.nodes := by
  rw [List.mem_filter, List.contains_iff_mem]

theorem mem_reachable_iff (h : graph.Enumerates next) {x : α} :
    x ∈ graph.reachable next roots ↔ graph.Reaches roots x := by
  rw [reachable, Graph.mem_closure_iff_of_closed fun a b hb => h.mem_domain hb, h.edge_eq]
  constructor
  · rintro ⟨root, hroot, -, hpath⟩
    obtain ⟨hmem, hnode⟩ := mem_contained.mp hroot
    exact ⟨root, hmem, hnode, hpath⟩
  · rintro ⟨root, hmem, hnode, hpath⟩
    exact ⟨root, mem_contained.mpr ⟨hmem, hnode⟩, mem_domain_of_mem_nodes hnode, hpath⟩

theorem nodup_reachable (graph : Digraph α) (next : α → List α) (roots : List α) :
    (graph.reachable next roots).Nodup :=
  Graph.nodup_closure (nodup_eraseDups _) _

/-! ### Walks in any order -/

/-- How far a walk has come. -/
structure Progress (α : Type) where
  visited : List α
  frontier : List α

def Progress.start (graph : Digraph α) (roots : List α) : Progress α :=
  ⟨[], roots.filter graph.nodes.contains⟩

/-- One step: some node is taken from the frontier.  If it is new, it is visited, and those of its neighbours that have
not been visited go to the frontier. -/
inductive Advance (next : α → List α) : Progress α → Progress α → Prop where
  | skip {visited before after : List α} {node : α} (seen : node ∈ visited) :
      Advance next ⟨visited, before ++ node :: after⟩ ⟨visited, before ++ after⟩
  | visit {visited before after : List α} {node : α} (new : node ∉ visited) :
      Advance next ⟨visited, before ++ node :: after⟩
        ⟨node :: visited, before ++ after ++ (next node).filter (· ∉ node :: visited)⟩

theorem exists_advance (next : α → List α) {s : Progress α} (h : s.frontier ≠ []) : ∃ t, Advance next s t := by
  obtain ⟨visited, frontier⟩ := s
  cases frontier with
  | nil => exact absurd rfl h
  | cons node rest =>
    by_cases hseen : node ∈ visited
    · exact ⟨_, @Advance.skip _ _ next visited [] rest node hseen⟩
    · exact ⟨_, @Advance.visit _ _ next visited [] rest node hseen⟩

/-! ### Every walk ends -/

/-- How many neighbours the nodes that are not visited have, counted once for each of the given nodes. -/
def owed (next : α → List α) (visited : List α) : List α → Nat
  | [] => 0
  | node :: rest => (if node ∈ visited then 0 else (next node).length) + owed next visited rest

theorem owed_cons_le (next : α → List α) (visited nodes : List α) (node : α) :
    owed next (node :: visited) nodes ≤ owed next visited nodes := by
  induction nodes with
  | nil => exact Nat.le_refl _
  | cons x rest ih =>
    simp only [owed, List.mem_cons]
    by_cases hseen : x ∈ visited
    · simp only [hseen, or_true, if_true]
      omega
    · simp only [hseen, or_false, if_false]
      split <;> omega

/-- A visit frees what was counted for the node. -/
theorem owed_visit (next : α → List α) {visited nodes : List α} {node : α} (hnode : node ∈ nodes)
    (hnew : node ∉ visited) :
    owed next (node :: visited) nodes + (next node).length ≤ owed next visited nodes := by
  induction nodes with
  | nil => exact absurd hnode List.not_mem_nil
  | cons x rest ih =>
    by_cases heq : x = node
    · subst heq
      have hle := owed_cons_le next visited rest x
      simp only [owed, List.mem_cons_self, hnew, if_true, if_false]
      omega
    · have hrest : node ∈ rest := (List.mem_cons.mp hnode).resolve_left (Ne.symm heq)
      have hih := ih hrest
      simp only [owed, List.mem_cons, heq, false_or]
      omega

theorem owed_nil (next : α → List α) (nodes : List α) : owed next [] nodes = (nodes.flatMap next).length := by
  induction nodes with
  | nil => rfl
  | cons node rest ih =>
    rw [owed, if_neg List.not_mem_nil, ih, List.flatMap_cons, List.length_append]

/-- What a walk among the given nodes can still cost. -/
def budget (next : α → List α) (nodes : List α) (s : Progress α) : Nat :=
  s.frontier.length + owed next s.visited nodes

theorem Advance.budget_lt {nodes : List α} {s t : Progress α} (h : Advance next s t) (hsub : s.frontier ⊆ nodes) :
    budget next nodes t < budget next nodes s := by
  cases h with
  | skip seen =>
    simp only [budget, List.length_append, List.length_cons]
    omega
  | @visit visited before after node new =>
    have hnode : node ∈ nodes := hsub (List.mem_append_right _ List.mem_cons_self)
    have hfreed := owed_visit next hnode new
    have hput := List.length_filter_le (fun x => decide (x ∉ node :: visited)) (next node)
    simp only [budget, List.length_append, List.length_cons]
    omega

/-! ### What a walk has visited -/

/-- What is true at every moment of a walk.  Nothing is visited or on the frontier that cannot be reached, and whatever
is due has been visited or is on the frontier. -/
structure Exploring (graph : Digraph α) (next : α → List α) (roots : List α) (s : Progress α) : Prop where
  distinct : s.visited.Nodup
  sound : ∀ x ∈ s.visited ++ s.frontier, graph.Reaches roots x
  roots_met : ∀ root ∈ roots, root ∈ graph.nodes → root ∈ s.visited ++ s.frontier
  edges_met : ∀ a ∈ s.visited, ∀ b ∈ next a, b ∈ s.visited ++ s.frontier

theorem exploring_start (graph : Digraph α) (next : α → List α) (roots : List α) :
    Exploring graph next roots (.start graph roots) where
  distinct := List.nodup_nil
  sound := by
    intro x hx
    obtain ⟨hmem, hnode⟩ := mem_contained.mp hx
    exact ⟨x, hmem, hnode, .refl⟩
  roots_met := fun root hmem hnode => mem_contained.mpr ⟨hmem, hnode⟩
  edges_met := fun a ha => absurd ha List.not_mem_nil

/-- A step forgets nothing: what has been visited or is on the frontier stays so. -/
theorem Advance.met_mono {s t : Progress α} (h : Advance next s t) {x : α} (hx : x ∈ s.visited ++ s.frontier) :
    x ∈ t.visited ++ t.frontier := by
  cases h with
  | skip seen =>
    simp only [List.mem_append, List.mem_cons] at hx ⊢
    rcases hx with hx | hx | rfl | hx
    · exact Or.inl hx
    · exact Or.inr (Or.inl hx)
    · exact Or.inl seen
    · exact Or.inr (Or.inr hx)
  | visit new =>
    simp only [List.mem_append, List.mem_cons] at hx ⊢
    rcases hx with hx | hx | rfl | hx
    · exact Or.inl (Or.inr hx)
    · exact Or.inr (Or.inl (Or.inl hx))
    · exact Or.inl (Or.inl rfl)
    · exact Or.inr (Or.inl (Or.inr hx))

theorem Exploring.advance {s t : Progress α} (hnext : graph.Enumerates next) (h : Exploring graph next roots s)
    (hstep : Advance next s t) : Exploring graph next roots t := by
  have hroots : ∀ root ∈ roots, root ∈ graph.nodes → root ∈ t.visited ++ t.frontier :=
    fun root hmem hnode => hstep.met_mono (h.roots_met root hmem hnode)
  have hedges : ∀ a ∈ s.visited, ∀ b ∈ next a, b ∈ t.visited ++ t.frontier :=
    fun a ha b hb => hstep.met_mono (h.edges_met a ha b hb)
  cases hstep with
  | @skip visited before after node seen =>
    refine ⟨h.distinct, fun x hx => h.sound x ?_, hroots, hedges⟩
    have hsub : before ++ after ⊆ before ++ node :: after :=
      ((List.sublist_cons_self node after).append_left before).subset
    exact (List.mem_append.mp hx).elim (List.mem_append_left _) fun hx => List.mem_append_right _ (hsub hx)
  | @visit visited before after node new =>
    have hnode : graph.Reaches roots node := h.sound node (by simp)
    refine ⟨List.nodup_cons.mpr ⟨new, h.distinct⟩, fun x hx => ?_, hroots, fun a ha b hb => ?_⟩
    · simp only [List.mem_append, List.mem_cons, List.mem_filter] at hx
      rcases hx with (rfl | hx) | (hx | hx) | ⟨hx, -⟩
      · exact hnode
      · exact h.sound x (List.mem_append_left _ hx)
      · exact h.sound x (by simp [hx])
      · exact h.sound x (by simp [hx])
      · exact hnode.edge ((hnext node x).mp hx)
    · rcases List.mem_cons.mp ha with rfl | ha
      · -- The neighbours of the node itself: those that were not visited have just been put on the frontier.
        by_cases hseen : b ∈ a :: visited
        · exact List.mem_append_left _ hseen
        · refine List.mem_append_right _ (List.mem_append_right _ (List.mem_filter.mpr ⟨hb, ?_⟩))
          exact decide_eq_true hseen
      · exact hedges a ha b hb

theorem Exploring.of_steps (hnext : graph.Enumerates next) {n : Nat} {s : Progress α}
    (h : Steps (Advance next) n (.start graph roots) s) : Exploring graph next roots s := by
  generalize hstart : Progress.start graph roots = start at h
  induction h with
  | zero =>
    subst hstart
    exact exploring_start graph next roots
  | succ _ last ih => exact (ih hstart).advance hnext last

theorem Exploring.frontier_subset {s : Progress α} (h : Exploring graph next roots s) : s.frontier ⊆ graph.domain := by
  intro x hx
  obtain ⟨root, -, hnode, hpath⟩ := h.sound x (List.mem_append_right _ hx)
  rcases hpath.cases_tail with rfl | ⟨y, -, hyx⟩
  · exact mem_domain_of_mem_nodes hnode
  · exact Digraph.mem_domain.mpr (Or.inr ⟨(y, x), hyx, Or.inr rfl⟩)

/-- A walk takes no more steps than its budget allows. -/
theorem budget_of_steps (hnext : graph.Enumerates next) {n : Nat} {s : Progress α}
    (h : Steps (Advance next) n (.start graph roots) s) :
    n + budget next graph.domain s ≤ budget next graph.domain (.start graph roots) := by
  generalize hstart : Progress.start graph roots = start at h
  induction h with
  | zero => omega
  | succ front last ih =>
    have hsub := (Exploring.of_steps hnext (hstart ▸ front)).frontier_subset
    have hlt := last.budget_lt hsub
    have hfront := ih hstart
    omega

/-- A walk with nothing left on its frontier has visited exactly what can be reached. -/
theorem perm_of_steps (hnext : graph.Enumerates next) {n : Nat} {s : Progress α}
    (h : Steps (Advance next) n (.start graph roots) s) (hends : s.frontier = []) :
    s.visited.Perm (graph.reachable next roots) := by
  have hexploring := Exploring.of_steps hnext h
  have hmet : s.visited ++ s.frontier = s.visited := by rw [hends, List.append_nil]
  refine (List.perm_ext_iff_of_nodup hexploring.distinct (nodup_reachable _ _ _)).mpr fun x => ?_
  rw [mem_reachable_iff hnext]
  constructor
  · exact fun hx => hexploring.sound x (List.mem_append_left _ hx)
  · refine Reaches.induct (fun root hmem hnode => ?_) (fun a b hab ha => ?_)
    · exact hmet ▸ hexploring.roots_met root hmem hnode
    · exact hmet ▸ hexploring.edges_met a ha b ((hnext a b).mpr hab)

/-! ### Graphs that are put together edge by edge -/

/-- A graph to which nodes and edges were added one after the other. -/
inductive Assembled : Digraph α → Prop where
  | empty : Assembled {}
  | addNode {graph : Digraph α} (node : α) (rest : Assembled graph) : Assembled (graph.addNode node)
  | addEdge {graph : Digraph α} (source target : α) (rest : Assembled graph) : Assembled (graph.addEdge source target)

theorem mem_nodes_addEdge {source target x : α} :
    x ∈ (graph.addEdge source target).nodes ↔ (x ∈ graph.nodes ∨ x = source) ∨ x = target := by
  simp only [addEdge, connect, addNode, mem_adjoin]

/-- Both ends of an edge are nodes. -/
theorem Assembled.ends (h : Assembled graph) {a b : α} (hab : graph.Edge a b) :
    a ∈ graph.nodes ∧ b ∈ graph.nodes := by
  induction h with
  | empty => exact absurd hab List.not_mem_nil
  | addNode node _ ih =>
    obtain ⟨ha, hb⟩ := ih hab
    exact ⟨mem_adjoin.mpr (Or.inl ha), mem_adjoin.mpr (Or.inl hb)⟩
  | addEdge source target _ ih =>
    rcases mem_adjoin.mp hab with hold | hnew
    · obtain ⟨ha, hb⟩ := ih hold
      exact ⟨mem_nodes_addEdge.mpr (Or.inl (Or.inl ha)), mem_nodes_addEdge.mpr (Or.inl (Or.inl hb))⟩
    · obtain ⟨rfl, rfl⟩ := Prod.mk.inj hnew
      exact ⟨mem_nodes_addEdge.mpr (Or.inl (Or.inr rfl)), mem_nodes_addEdge.mpr (Or.inr rfl)⟩

theorem Assembled.mem_nodes (h : Assembled graph) {x : α} (hx : graph.Reaches roots x) : x ∈ graph.nodes :=
  hx.induct (fun _ _ hnode => hnode) fun _ _ hab _ => (h.ends hab).2

/-- If only nodes are reached, then nothing more is reached from what is reached. -/
theorem Assembled.reaches_reachable_iff (h : Assembled graph) (hnext : graph.Enumerates next) {x : α} :
    graph.Reaches (graph.reachable next roots) x ↔ graph.Reaches roots x := by
  constructor
  · refine Reaches.induct (fun a ha _ => (mem_reachable_iff hnext).mp ha) fun a b hab ha => ha.edge hab
  · intro hx
    exact ⟨x, (mem_reachable_iff hnext).mpr hx, h.mem_nodes hx, .refl⟩

/-! ### The least closure -/

theorem reachable_perm {roots' : List α} {next' : α → List α} {graph' : Digraph α} (hnext : graph.Enumerates next)
    (hnext' : graph'.Enumerates next') (hsame : ∀ x, graph'.Reaches roots' x ↔ graph.Reaches roots x) :
    (graph'.reachable next' roots').Perm (graph.reachable next roots) := by
  refine (List.perm_ext_iff_of_nodup (nodup_reachable _ _ _) (nodup_reachable _ _ _)).mpr fun x => ?_
  rw [mem_reachable_iff hnext, mem_reachable_iff hnext', hsame]

/-- **What is reached is the least closure, whatever the order.**  In every directed graph, for every list of roots and
every order in which the neighbours of the nodes are listed: the nodes that are reached are the ends of the paths that
begin at a root in the graph, each listed once.  They are closed under edges, and any property that the roots in the
graph have and edges keep is true of all of them.  Another order of roots and neighbours gives the same nodes.  A walk
that takes the nodes of its frontier in any order can go on until the frontier is empty, which it is after as many steps
as there are roots in the graph and neighbours at the latest, and then it has visited the same nodes.  In a graph that
is put together edge by edge, nothing more is reached from what is reached. -/
theorem reachable_is_least_closure (graph : Digraph α) (next : α → List α) (hnext : graph.Enumerates next)
    (roots : List α) :
    (∀ x, x ∈ graph.reachable next roots ↔
      ∃ root ∈ roots, root ∈ graph.nodes ∧ ReflTransGen graph.Edge root x) ∧
    (graph.reachable next roots).Nodup ∧
    (∀ a ∈ graph.reachable next roots, ∀ b, graph.Edge a b → b ∈ graph.reachable next roots) ∧
    (∀ held : α → Prop, (∀ root ∈ roots, root ∈ graph.nodes → held root) →
      (∀ a b, graph.Edge a b → held a → held b) → ∀ x ∈ graph.reachable next roots, held x) ∧
    (∀ next' roots', graph.Enumerates next' → (∀ x, x ∈ roots' ↔ x ∈ roots) →
      (graph.reachable next' roots').Perm (graph.reachable next roots)) ∧
    (∀ n s, Steps (Advance next) n (.start graph roots) s →
      n ≤ (roots.filter graph.nodes.contains).length + (graph.domain.flatMap next).length ∧
      (s.frontier ≠ [] → ∃ t, Advance next s t) ∧
      (s.frontier = [] → s.visited.Perm (graph.reachable next roots))) ∧
    (Assembled graph →
      (graph.reachable next (graph.reachable next roots)).Perm (graph.reachable next roots)) := by
  refine ⟨fun x => mem_reachable_iff hnext, nodup_reachable _ _ _, fun a ha b hab => ?_,
    fun held hroots hedges x hx => ?_, fun next' roots' hnext' hsame => ?_,
    fun n s hsteps => ⟨?_, exists_advance next, perm_of_steps hnext hsteps⟩, fun h => ?_⟩
  · exact (mem_reachable_iff hnext).mpr (((mem_reachable_iff hnext).mp ha).edge hab)
  · exact ((mem_reachable_iff hnext).mp hx).induct hroots hedges
  · refine reachable_perm hnext hnext' fun x => ?_
    simp only [Reaches, hsame]
  · have hbudget := budget_of_steps hnext hsteps
    have hstart : budget next graph.domain (.start graph roots) =
        (roots.filter graph.nodes.contains).length + owed next [] graph.domain := rfl
    rw [hstart, owed_nil] at hbudget
    omega
  · exact reachable_perm hnext hnext fun x => h.reaches_reachable_iff hnext

/-- Two nodes in a ring, with an edge that is added twice, and a third with a loop. -/
def ring : Digraph Nat :=
  (((({} : Digraph Nat).addEdge 1 2).addEdge 2 1).addEdge 1 2).addEdge 3 3

theorem reachable_is_least_closure_ring :
    ring.Enumerates ring.neighbors ∧ Assembled ring ∧ 1 ∈ ring.reachable ring.neighbors [2, 9, 2] ∧
      3 ∉ ring.reachable ring.neighbors [2, 9, 2] ∧ 9 ∉ ring.reachable ring.neighbors [2, 9, 2] ∧
      (ring.reachable ring.neighbors (ring.reachable ring.neighbors [2, 9, 2])).Perm
        (ring.reachable ring.neighbors [2, 9, 2]) := by
  have hlisted : ring.Enumerates ring.neighbors := enumerates_neighbors ring
  have hassembled : Assembled ring :=
    .addEdge 3 3 (.addEdge 1 2 (.addEdge 2 1 (.addEdge 1 2 .empty)))
  have hedges : ring.edges = [(1, 2), (2, 1), (3, 3)] := rfl
  obtain ⟨hpaths, -, -, hleast, -, -, hagain⟩ := reachable_is_least_closure ring ring.neighbors hlisted [2, 9, 2]
  have hring : ∀ x ∈ ring.reachable ring.neighbors [2, 9, 2], x ≤ 2 := by
    refine hleast (· ≤ 2) (fun root hmem hnode => ?_) (fun a b hab ha => ?_)
    · have hfar : 9 ∉ ring.nodes := by decide
      rcases List.mem_cons.mp hmem with rfl | hmem
      · exact Nat.le_refl 2
      · rcases List.mem_pair.mp hmem with rfl | rfl
        · exact absurd hnode hfar
        · exact Nat.le_refl 2
    · simp only [Edge, hedges, List.mem_cons, Prod.mk.injEq, List.not_mem_nil, or_false] at hab
      omega
  refine ⟨hlisted, hassembled, ?_, fun h => ?_, fun h => ?_, hagain hassembled⟩
  · exact (hpaths 1).mpr ⟨2, by decide, by decide, .single (show (2, 1) ∈ ring.edges by decide)⟩
  · exact absurd (hring 3 h) (by decide)
  · exact absurd (hring 9 h) (by decide)

end Digraph

end Deadwood
