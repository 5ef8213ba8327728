/-
Directed graphs given by their nodes and edges.
-/
import Deadwood.Graph.Traversal

namespace Deadwood

/-- A directed graph; nodes and edges are listed once each, in the order of insertion. -/
structure Digraph (α : Type) where
  nodes : List α := []
  edges : List (α × α) := []
  deriving Repr

namespace Digraph

variable {α : Type} [DecidableEq α]

/-- A list with one more member, unless it is there. -/
def adjoin (item : β) [DecidableEq β] (items : List β) : List β :=
  if item ∈ items then items else items ++ [item]

/-- Adds a node. -/
def addNode (graph : Digraph α) (node : α) : Digraph α :=
  { graph with nodes := adjoin node graph.nodes }

/-- Adds an edge without adding its ends. -/
def connect (graph : Digraph α) (source target : α) : Digraph α :=
  { graph with edges := adjoin (source, target) graph.edges }

/-- Adds an edge and its ends. -/
def addEdge (graph : Digraph α) (source target : α) : Digraph α :=
  ((graph.addNode source).addNode target).connect source target

/-- The nodes that an edge leads to from a node, in the order of insertion. -/
def neighbors (graph : Digraph α) (node : α) : List α :=
  (graph.edges.filter (·.1 == node)).map (·.2)

/-- All nodes and all ends of edges. -/
def domain (graph : Digraph α) : List α :=
  (graph.nodes ++ graph.edges.flatMap fun edge => [edge.1, edge.2]).eraseDups

/-- Everything that can be reached from those roots that are nodes, themselves included. -/
def reachable (graph : Digraph α) (next : α → List α) (roots : List α) : List α :=
  Graph.closure next graph.domain (roots.filter graph.nodes.contains)

/-- How nodes look as values: whether two of them pass for equal, and whether one passes for no node at all. -/
structure NodeView (α : Type) where
  equal : α → α → Bool
  isNone : α → Bool

/-- A node passes for itself only. -/
def NodeView.plain : NodeView α where
  equal node other := node == other
  isNone _ := false

/-- A chain of nodes that leads from one of those roots that are nodes to a target that is a node. -/
def explain? (graph : Digraph α) (view : NodeView α) (next : α → List α) (roots : List α) (target : α) :
    Option (List α) :=
  if target ∈ graph.nodes then
    Graph.trace? graph.domain next (view.equal · target) view.isNone (roots.filter graph.nodes.contains)
  else none

/-- The distance of each node that can be reached from the nearest root; roots need not be nodes. -/
def distances (graph : Digraph α) (next : α → List α) (roots : List α) : OrderedMap α Nat :=
  (Graph.explore graph.domain next (fun table node => (table.get? node).getD 0 + 1) (fun _ => false)
    (.ofList (roots.map (·, 0))) roots).1

/-- The greatest distance. -/
def depth (graph : Digraph α) (next : α → List α) (roots : List α) : Nat :=
  ((graph.distances next roots).entries.map (·.2)).max?.getD 0

end Digraph

end Deadwood
