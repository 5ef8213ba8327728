/-
The outcome of an analysis: the verdict, what could not be read, and the graph.
-/
import Deadwood.CallGraph.Verdict
import Deadwood.Diagnostic

namespace Deadwood

/-- What an analysis found. -/
structure Outcome where
  verdict : Verdict := {}
  diagnostics : List Diagnostic := []
  failedFiles : List String := []
  graph : Option CallGraph := none
  deriving Repr

end Deadwood
