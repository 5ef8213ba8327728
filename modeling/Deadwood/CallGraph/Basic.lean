/-
The call graph of a project.

Every call is resolved once. Its targets become edges from the calling function,
or entry points if the call stands in the body of a module. A call in a function
that is not in the catalog is resolved but makes no edge.
-/
import Deadwood.CallGraph.Resolution
import Deadwood.Graph.Digraph

namespace Deadwood

/-- Functions, and where the calls between them lead. `moduleRoots` are the functions called from the body of a
module. -/
structure CallGraph where
  catalog : Catalog := {}
  edges : List (Key × Key) := []
  resolutions : List (CallSite × List Key) := []
  unresolved : List CallSite := []
  external : List CallSite := []
  moduleRoots : List Key := []
  deriving Repr

namespace CallGraph

/-- Adds an edge, whatever its ends are. -/
def addEdge (graph : CallGraph) (source target : Key) : CallGraph :=
  { graph with edges := Digraph.adjoin (source, target) graph.edges }

/-- The function that a call stands in. -/
def callerKey (call : CallSite) : Key :=
  ⟨call.file, call.enclosing⟩

/-- Enters the targets of a resolved call. -/
def addTargets (graph : CallGraph) (call : CallSite) (targets : List Key) : CallGraph :=
  let graph := { graph with resolutions := graph.resolutions ++ [(call, targets)] }
  if ModulePath.isModuleBody call.enclosing then
    { graph with moduleRoots := targets.foldl (fun roots key => Digraph.adjoin key roots) graph.moduleRoots }
  else if graph.catalog.contains (callerKey call) then
    targets.foldl (fun graph target => graph.addEdge (callerKey call) target) graph
  else graph

/-- Enters a call. -/
def link (graph : CallGraph) (call : CallSite) : Except ResolutionError CallGraph :=
  return match ← graph.catalog.resolve call with
    | .external => { graph with external := graph.external ++ [call] }
    | .unresolved => { graph with unresolved := graph.unresolved ++ [call] }
    | .linked _ targets => graph.addTargets call targets

/-- The call graph of the given functions, calls and imports. -/
def build (symbols : List Symbol) (calls : List CallSite) (imports : Imports) :
    Except ResolutionError CallGraph :=
  calls.foldlM link { catalog := Catalog.ofProject symbols imports }

/-- The functions and edges as a directed graph. -/
def digraph (graph : CallGraph) : Digraph Key :=
  ⟨graph.catalog.keys, graph.edges⟩

/-- The functions that a function calls, in their order. -/
def callees (graph : CallGraph) (key : Key) : List Key :=
  Key.sort (graph.digraph.neighbors key)

/-- The functions that call a function, in their order. -/
def callers (graph : CallGraph) (key : Key) : List Key :=
  Key.sort (((graph.edges.filter (·.2 == key)).map (·.1)).eraseDups)

/-- All edges in their order. -/
def sortedEdges (graph : CallGraph) : List (Key × Key) :=
  (Key.sort (graph.edges.map (·.1)).eraseDups).flatMap fun key => (graph.callees key).map (key, ·)

/-- Everything that can be reached from some functions. -/
def reachable (graph : CallGraph) (roots : List Key) : List Key :=
  graph.digraph.reachable graph.callees roots

/-- A shortest chain of calls from some functions to a target. -/
def explainKey? (graph : CallGraph) (roots : List Key) (target : Key) : Option (List Key) :=
  graph.digraph.explain? .plain graph.callees roots target

/-- The length of the longest of the shortest chains of calls from some functions. -/
def depthFrom (graph : CallGraph) (roots : List Key) : Nat :=
  graph.digraph.depth graph.callees roots

end CallGraph

end Deadwood
