/-
Which functions are alive and which are dead.

The roots are the entry points of a policy and the functions called from the body
of a module. What can be reached from them is alive. The rest is dead, apart from
what the policy ignores.
-/
import Deadwood.CallGraph.Basic
import Deadwood.CallGraph.Census

namespace Deadwood

/-- The numbers of a verdict. -/
structure Statistics where
  total : Nat := 0
  reachable : Nat := 0
  dead : Nat := 0
  ignored : Nat := 0
  publicDead : Nat := 0
  privateDead : Nat := 0
  tallies : List Tally := Visibility.all.map fun v => { visibility := v }
  edges : Nat := 0
  unresolved : Nat := 0
  deriving DecidableEq, Repr

/-- What is alive and what is dead. -/
structure Verdict where
  dead : List Symbol := []
  reachable : List Key := []
  roots : List Key := []
  statistics : Statistics := {}
  deriving Repr

namespace CallGraph

/-- The keys from which everything alive is reached. -/
def roots (graph : CallGraph) (policy : Policy) : List Key :=
  let entryPoints := (graph.catalog.symbols.filter policy.isRoot).map (·.key)
  (graph.moduleRoots.filter graph.catalog.contains).foldl (fun roots key => Digraph.adjoin key roots) entryPoints

/-- The verdict on a call graph. There is none if a look-up fails: of the row of a visibility, of a dead function by its
key, or of the rank of its file. -/
def analyze? (graph : CallGraph) (policy : Policy) : Option Verdict := do
  let roots := graph.roots policy
  let reachable := graph.reachable roots
  let census ← Census.take? policy reachable graph.catalog.symbols
  let dead ← graph.catalog.ordered? census.dead
  return {
    dead
    reachable
    roots
    statistics :=
      { total := graph.catalog.symbols.length
        reachable := reachable.length
        dead := census.dead.length
        ignored := census.ignored
        publicDead := census.publicDead
        privateDead := census.privateDead
        tallies := census.tallies
        edges := graph.edges.length
        unresolved := graph.unresolved.length } }

/-- No look-up fails. -/
theorem isSome_analyze? (graph : CallGraph) (policy : Policy) : (graph.analyze? policy).isSome = true := by
  have hdead : (Census.counts policy (graph.reachable (graph.roots policy)) graph.catalog.symbols).dead ⊆
      graph.catalog.keys := ((Census.condemned_sublist policy _ _).map _).subset
  obtain ⟨dead, hordered⟩ := Option.isSome_iff_exists.mp (Catalog.isSome_ordered? hdead)
  rw [analyze?, Census.take?_eq]
  show (Option.bind (graph.catalog.ordered? _) _).isSome = true
  rw [hordered]
  rfl

/-- The verdict on a call graph. -/
def verdict (graph : CallGraph) (policy : Policy) : Verdict :=
  (graph.analyze? policy).get (graph.isSome_analyze? policy)

/-- A chain of full paths from a root to the first function under a target that is alive. -/
def explain? (graph : CallGraph) (target : String) (policy : Policy) : Option (List String) :=
  let roots := Key.sort (graph.roots policy)
  ((graph.catalog.find target).findSome? (graph.explainKey? roots)).map fun chain => chain.map (·.path)

/-- The greatest distance of a living function from the nearest root. -/
def depth (graph : CallGraph) (policy : Policy) : Nat :=
  graph.depthFrom (graph.roots policy)

end CallGraph

end Deadwood
