/-
Reports as JSON documents: the dead functions, and the whole call graph.
-/
import Deadwood.Json.Basic
import Deadwood.Report.Outcome

namespace Deadwood

/-- The members of a document of statistics. -/
def Statistics.members (s : Statistics) : List (String × Json) :=
  [("total_symbols", .int s.total), ("reachable_count", .int s.reachable), ("dead_count", .int s.dead),
    ("ignored_count", .int s.ignored), ("public_dead", .int s.publicDead), ("private_dead", .int s.privateDead),
    ("by_visibility", .object (s.tallies.map fun tally =>
      (tally.visibility.name, .object [("total", .int tally.total), ("dead", .int tally.dead)]))),
    ("edge_count", .int s.edges), ("unresolved_calls", .int s.unresolved)]

/-- The document of statistics. -/
def Statistics.document (s : Statistics) : Json :=
  .object s.members

/-- The entry of a dead function in a report. -/
def Symbol.reportEntry (symbol : Symbol) : Json :=
  .object [("name", .text symbol.name), ("full_path", .text symbol.fullPath),
    ("visibility", .text symbol.visibility.name), ("file", .text symbol.file),
    ("line", .int symbol.span.startLine), ("is_method", .bool symbol.isMethod)]

/-- The report document. -/
def Outcome.document (outcome : Outcome) : Json :=
  let s := outcome.verdict.statistics
  .object [("total_functions", .int s.total), ("reachable_functions", .int s.reachable),
    ("dead_functions", .int s.dead), ("public_dead", .int s.publicDead), ("private_dead", .int s.privateDead),
    ("stats", s.document), ("dead", .list (outcome.verdict.dead.map (·.reportEntry))),
    ("diagnostics", Json.texts (outcome.diagnostics.map (·.text))),
    ("failed_files", Json.texts outcome.failedFiles)]

namespace CallGraph

/-- The name of a function in a graph document. -/
def nodeId (key : Key) : String :=
  s!"{key.file}::{key.path}"

/-- The entry of a function in a graph document. -/
def nodeEntry (verdict : Verdict) (symbol : Symbol) : Json :=
  .object [("id", .text (nodeId symbol.key)), ("name", .text symbol.name), ("full_path", .text symbol.fullPath),
    ("file", .text symbol.file), ("line", .int symbol.span.startLine),
    ("visibility", .text symbol.visibility.name), ("is_method", .bool symbol.isMethod),
    ("is_root", .bool (verdict.roots.contains symbol.key)),
    ("is_dead", .bool (verdict.dead.any (·.key == symbol.key)))]

/-- The graph document, with liveness from a verdict. There is none if a function is not found by its key, or its file
has no rank. -/
def document? (graph : CallGraph) (verdict : Verdict) : Option Json := do
  let nodes := (← graph.catalog.ordered? graph.catalog.keys).map (nodeEntry verdict)
  let edges := graph.sortedEdges.map fun edge =>
    Json.object [("from", .text (nodeId edge.1)), ("to", .text (nodeId edge.2))]
  let depth := graph.depthFrom verdict.roots
  return .object [("nodes", .list nodes), ("edges", .list edges),
    ("stats", .object (verdict.statistics.members ++ [("max_call_depth", .int depth)]))]

/-- No look-up fails. -/
theorem isSome_document? (graph : CallGraph) (verdict : Verdict) : (graph.document? verdict).isSome = true := by
  obtain ⟨symbols, hordered⟩ :=
    Option.isSome_iff_exists.mp (Catalog.isSome_ordered? (List.Subset.refl graph.catalog.keys))
  rw [document?, hordered]
  rfl

/-- The graph document, with liveness from a verdict. -/
def document (graph : CallGraph) (verdict : Verdict) : Json :=
  (graph.document? verdict).get (graph.isSome_document? verdict)

end CallGraph

end Deadwood
