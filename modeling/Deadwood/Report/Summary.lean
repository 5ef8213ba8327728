/-
The report as text.
-/
import Deadwood.Report.Outcome

namespace Deadwood

/-- The line of a dead function. -/
def Symbol.summaryLine (symbol : Symbol) : String :=
  let mark := if symbol.visibility.isPublic then "[pub]" else "[priv]"
  s!"  {mark} {symbol.fullPath} ({symbol.file})"

/-- The lines of the report. -/
def Outcome.summaryLines (outcome : Outcome) : List String :=
  let s := outcome.verdict.statistics
  ["=== Dead Function Analysis ===", "", s!"Total functions: {s.total}", s!"Reachable:       {s.reachable}",
    s!"Dead:            {s.dead}", s!"  - Public:      {s.publicDead}", s!"  - Private:     {s.privateDead}"] ++
  (if s.ignored = 0 then [] else [s!"Ignored:         {s.ignored}"]) ++ [""] ++
  (if outcome.verdict.dead.isEmpty then ["No dead functions found."]
    else "DEAD FUNCTIONS:" :: outcome.verdict.dead.map (·.summaryLine)) ++
  (if outcome.failedFiles.isEmpty then []
    else ["", s!"FAILED FILES ({outcome.failedFiles.length}):"] ++
      outcome.failedFiles.map fun file => s!"  {file}")

/-- The report as text. -/
def Outcome.summary (outcome : Outcome) : String :=
  "\n".intercalate outcome.summaryLines

end Deadwood
