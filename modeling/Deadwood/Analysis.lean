/-
Analysing a set of sources.

Every file is read on its own; what the files declare, call and import is put
together in the order of the files, and the call graph is built and judged.
-/
import Deadwood.CallSite.Extract
import Deadwood.Report.Outcome
import Deadwood.Rust.Parse

namespace Deadwood

open Syntax (Node Source)

/-- Why an analysis gave no outcome. -/
inductive AnalysisError where
  | tooFewWorkers (workers : Int)
  | malformed (error : SyntaxError)
  | resolution (error : ResolutionError)
  deriving Repr

/-- What one file declares, calls and imports. `declared` holds what became of each declaration. -/
structure FileFacts where
  file : String
  declared : List Declaration.Outcome
  symbols : FileSymbols
  calls : FileCalls

namespace FileFacts

/-- The facts of a file whose syntax tree is given. -/
def ofTree (file : String) (source : Source) (root : Node) : FileFacts :=
  { file
    declared := (declarations file source root).map (·.outcome file source)
    symbols := FileSymbols.extract file source root
    calls := FileCalls.extract file source root }

/-- The facts of a file. A strict reading refuses syntax errors. -/
def read (parse : Source → Node) (strict : Bool) (file : String) (source : Source) :
    Except SyntaxError FileFacts :=
  let root := parse source
  match if strict then SyntaxError.first? file source root else none with
  | some error => .error error
  | none => .ok (ofTree file source root)

/-- What was wrong in a file; each finding is named once. -/
def diagnostics (facts : List FileFacts) : List Diagnostic :=
  (facts.flatMap fun file => file.symbols.diagnostics ++ file.calls.diagnostics).eraseDups

/-- The call graph of several files. -/
def graph (facts : List FileFacts) : Except ResolutionError CallGraph :=
  CallGraph.build (facts.flatMap fun file => file.symbols.symbols) (facts.flatMap fun file => file.calls.calls)
    (facts.foldl (fun imports file => imports.merge file.calls.imports) {})

end FileFacts

/-- The facts of files, up to the first that is refused. -/
def readEach (parse : Source → Node) (strict : Bool) :
    List (String × Source) → List FileFacts × Option SyntaxError
  | [] => ([], none)
  | (file, source) :: rest => match FileFacts.read parse strict file source with
    | .error error => ([], some error)
    | .ok facts =>
      let (more, error?) := readEach parse strict rest
      (facts :: more, error?)

/-- The facts of files that are read in turn; the first that is refused ends the reading. -/
def readInTurn (parse : Source → Node) (strict : Bool) (entries : List (String × Source)) :
    Except SyntaxError (List FileFacts) :=
  match readEach parse strict entries with
  | (facts, none) => .ok facts
  | (_, some error) => .error error

/-- The facts of files that are read at the same time. Each is read, and the results are taken in the order of the
files. -/
def readTogether (parse : Source → Node) (strict : Bool) (entries : List (String × Source)) :
    Except SyntaxError (List FileFacts) :=
  let results := entries.map fun (file, source) => FileFacts.read parse strict file source
  results.mapM id

/-- From this many files on, they are read at the same time. -/
def togetherThreshold : Nat := 8

/-- The facts of all files. -/
def readAll (parse : Source → Node) (strict : Bool) (workers : Option Int) (sources : OrderedMap String Source) :
    Except SyntaxError (List FileFacts) :=
  if sources.entries.length < togetherThreshold ∨ workers = some 1 then readInTurn parse strict sources.entries
  else readTogether parse strict sources.entries

/-- The outcome of an analysis from the facts of the files. -/
def Outcome.ofFacts (facts : List FileFacts) (policy : Policy) : Except ResolutionError Outcome := do
  let graph ← FileFacts.graph facts
  return { verdict := graph.verdict policy, diagnostics := FileFacts.diagnostics facts, graph := some graph }

/-- Checks the number of files to read at a time, which must be positive if it is given. -/
def checkWorkers : Option Int → Except AnalysisError Unit
  | none => .ok ()
  | some workers => if workers < 1 then .error (.tooFewWorkers workers) else .ok ()

/-- Analyses sources with a given parser. -/
def analyzeWith (parse : Source → Node) (sources : OrderedMap String Source) (policy : Policy) (strict : Bool)
    (workers : Option Int) : Except AnalysisError Outcome := do
  checkWorkers workers
  let facts ← (readAll parse strict workers sources).mapError .malformed
  (Outcome.ofFacts facts policy).mapError .resolution

/-- Analyses sources. -/
def analyze : OrderedMap String Source → Policy → Bool → Option Int → Except AnalysisError Outcome :=
  analyzeWith Rust.parse

end Deadwood
