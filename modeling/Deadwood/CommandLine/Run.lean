/-
The command line program.

A run starts from a working directory and a list of arguments. It answers with
the working directory that it leaves behind, what it printed, and either its exit
status or the failure that ended it.
-/
import Deadwood.CommandLine.Options
import Deadwood.Config.Example
import Deadwood.Config.Load
import Deadwood.Project
import Deadwood.Report.Document
import Deadwood.Report.Dot
import Deadwood.Report.Listing
import Deadwood.Report.Summary

namespace Deadwood.CommandLine

/-- The exit status of a run without dead functions. -/
def exitClean : Nat := 0

/-- The exit status of a run with dead functions. -/
def exitDead : Nat := 1

/-- The exit status of a run that was refused. -/
def exitError : Nat := 2

/-- The name of the program. -/
def programName : String := "deadfn"

/-- The name of the file that holds a saved report. -/
def reportName : String := "dead_functions.json"

/-- What a run changes. -/
structure World where
  tree : Tree
  stdout : String := ""
  stderr : String := ""
  verbose : Bool := false

/-- What ends a run. -/
inductive Failure where
  | load (error : LoadError)
  | project (error : ProjectError)
  | write (error : WriteError)
  | unknownFunction (key : Key)
  | noGraph
  /-- An option was given without a value, and its value was asked for. -/
  | valueless (setting : Setting)
  /-- A text that was to be written holds half of a character. -/
  | halfCharacter
  deriving Repr

/-- The words for an outcome whose graph is to be saved and is not there. -/
def noGraphMessage : String := "analysis result carries no call graph"

/-- A part of a run. -/
abbrev Command := ExceptT Failure (StateM World)

/-- Prints a line. -/
def printLine (text : String) : Command Unit :=
  modify fun world => { world with stdout := world.stdout ++ text ++ "\n" }

/-- Prints a line on the error output. -/
def printError (text : String) : Command Unit :=
  modify fun world => { world with stderr := world.stderr ++ text ++ "\n" }

/-- Whether an event is shown. -/
def isShown (verbose : Bool) (event : LogEvent) : Bool :=
  verbose || event.level == .warning

/-- Shows events. -/
def log (events : List LogEvent) : Command Unit :=
  modify fun world =>
    { world with stderr := world.stderr ++ String.join ((events.filter (isShown world.verbose)).map LogEvent.line) }

/-- Changes the tree. -/
def change (operation : Tree → Except WriteError Tree) : Command Unit := do
  match operation (← get).tree with
  | .ok tree => modify fun world => { world with tree }
  | .error error => throw (.write error)

/-- Writes lines to a file. A line that holds half of a character ends the run, and the file keeps those before it. -/
def writeLines (path : Path) (lines : List String) : Command Unit := do
  let written := lines.takeWhile fun line => !Text.hasHalf line
  change fun tree => tree.write path (written.flatMap Utf8.encode)
  if lines.any Text.hasHalf then throw .halfCharacter

/-- Writes a text to a file. -/
def writeText (path : Path) (text : String) : Command Unit :=
  writeLines path [text]

/-- Makes a folder and the folders that lead to it. Those that were made stay even if a later one cannot be. -/
def makeFolders (path : Path) : Command Unit := do
  if let some error := (← get).tree.obstacle? path then throw (.write (.path error))
  path.lineage.forM fun folder => change fun tree => tree.makeFolder folder

/-- Writes lines to a file and makes the folders that lead to it. -/
def saveLines (path : Path) (lines : List String) : Command Unit := do
  makeFolders path.parent
  writeLines path lines

/-- Writes the example configuration. -/
def writeExample (force : Bool) : Command Nat := do
  let path := Config.examplePath
  if ((← get).tree.get? path).isSome && !force then
    printError s!"{path.text} already exists (use --force to overwrite)"
    return exitError
  writeText path Config.exampleText
  printLine s!"Wrote {path.text}"
  return exitClean

/-- The option with a value that is not empty. -/
def given (value : Option String) : Option String :=
  value.filter (· != "")

/-- The configuration file in use, or the default configuration. -/
def loadConfig (options : Options) : Command Config := do
  let tree := (← get).tree
  match given options.config with
  | some path => (Config.read .standard tree (.ofText path)).mapError Failure.load
  | none =>
    match ← (Config.find .standard tree (.ofText (options.paths.headD "."))).mapError Failure.load with
    | none => return {}
    | some path =>
      log [.configFound path]
      (Config.read .standard tree path).mapError Failure.load

/-- The entries before the first one without a value. -/
def leadingValues : List (Option String) → List String
  | some value :: rest => value :: leadingValues rest
  | _ => []

/-- A configuration with the options of the command line, which have precedence. -/
def Options.override (options : Options) (config : Config) : Config :=
  { config with
    paths := if options.paths.isEmpty then config.paths else options.paths
    format := if options.json then .json else options.format.getD config.format
    strict := options.strict || config.strict
    keepAlive := config.keepAlive ++ leadingValues options.keepAlive
    ignored := config.ignored ++ leadingValues options.ignored
    output := (given options.output).or config.output
    workers := options.workers.join.or config.workers }

/-- Runs a part of an analysis and shows what it notes. -/
def runLogged {α : Type} (action : Logged α) : Command α := do
  let (result, events) := action.run.run []
  log events
  result.mapError Failure.project

/-- Checks that no entry without a value is asked for. It is asked for if the entries before it, which the policy
holds, do not settle the matter. -/
def checkEntries (options : Options) (policy : Policy) (outcome : Outcome) : Command Unit := do
  let symbols := outcome.graph.elim [] (·.catalog.symbols)
  if options.keepAlive.contains none && symbols.any (!policy.isRoot ·) then throw (.valueless .keepAlive)
  if options.ignored.contains none && !outcome.verdict.dead.isEmpty then throw (.valueless .ignore)

/-- Analyses the configured paths. -/
def analyze (options : Options) (config : Config) : Command Outcome := do
  let input ← runLogged (Project.prepare (← get).tree (config.paths.map .ofText) config)
  if options.workers == some none then throw (.valueless .workers)
  let outcome ← runLogged (Project.complete config input)
  checkEntries options input.policy outcome
  return outcome

/-- Explains why a function is alive. -/
def explain (config : Config) (outcome : Outcome) (target : String) : Command Nat := do
  let policy ← (config.policy).mapError fun error => Failure.project (.config error)
  match outcome.graph.bind fun graph => graph.explain? target policy with
  | none =>
    printLine s!"{target}: not reachable from any root"
    return exitDead
  | some chain =>
    printLine (" -> ".intercalate chain)
    return exitClean

/-- The dead functions in a format. -/
def render (format : Format) (outcome : Outcome) : String :=
  let items := pathItems (outcome.verdict.dead.map (·.fullPath))
  match format with
  | .json => jsonListing items
  | .plain => plainListing items
  | .report => outcome.summary

/-- Saves the report in a folder. -/
def saveReport (outcome : Outcome) (folder : String) : Command Unit := do
  let folder := Path.ofText folder
  let path := folder.below [reportName]
  makeFolders folder
  writeText path outcome.document.pretty
  printError s!"Report saved: {path.text}"

/-- Saves the call graph as a document. -/
def saveGraph (outcome : Outcome) (file : String) : Command Unit := do
  match outcome.graph with
  | none => throw .noGraph
  | some graph =>
    let path := Path.ofText file
    saveLines path [(graph.document outcome.verdict).pretty]
    printError s!"Call graph JSON: {path.text}"

/-- Saves the drawing of the call graph, under the given name with and without a suffix. -/
def saveDrawing (outcome : Outcome) (name : String) : Command Unit := do
  match Dot.ofOutcome outcome false with
  | .error key => throw (.unknownFunction key)
  | .ok lines =>
    let withSuffix := name ++ ".dot"
    saveLines (.ofText withSuffix) lines
    if outcome.graph.isSome then saveLines (.ofText name) lines
    printError s!"Call graph: {withSuffix}"
    printError "Graphviz 'dot' not found; only the .dot file was written"

/-- The program after its options are read. -/
def runAnalysis (options : Options) : Command Nat := do
  let config := options.override (← loadConfig options)
  let outcome ← analyze options config
  log (outcome.diagnostics.map .finding)
  match given options.explain with
  | some target => explain config outcome target
  | none =>
    printLine (render config.format outcome)
    if let some folder := given config.output then saveReport outcome folder
    if let some file := given options.graphFile then saveGraph outcome file
    if let some name := given options.dot then saveDrawing outcome name
    return if outcome.verdict.dead.isEmpty then exitClean else exitDead

/-- The words for a failure that is the user's to mend. -/
def Failure.refusal? : Failure → Option String
  | .load (.refused error) | .project (.config error) => some error.text
  | .project (.analysis (.malformed error)) => some error.text
  | _ => none

/-- Turns a failure that is the user's to mend into a message and an exit status. -/
def reportRefusal (failure : Failure) : Command Nat := do
  match failure.refusal? with
  | some text =>
    printError s!"{programName}: {text}"
    return exitError
  | none => throw failure

/-- The program for given options. -/
def runOptions (options : Options) : Command Nat := do
  modify fun world => { world with verbose := options.verbose }
  if options.init then writeExample options.force
  else tryCatch (runAnalysis options) reportRefusal

/-- The names of the options in one text. -/
def helpText : String :=
  let line := fun (entry : String × Choice) => match entry.2 with
    | .switch _ => s!"  {entry.1}"
    | .setting _ => s!"  {entry.1} VALUE"
  s!"usage: {programName} [options] [paths ...]\n\nFind unreachable functions in a Rust source tree\n\n" ++
    "\n".intercalate (names.map line)

/-- The program. -/
def command (arguments : List String) : Command Nat := do
  match parse arguments with
  | .ok options => runOptions options
  | .error .help =>
    printLine helpText
    return exitClean
  | .error (.wrong error) =>
    printError (Text.lastLine s!"{programName}: error: {error.message}\n")
    return exitError

/-- What a run leaves behind. -/
structure Result where
  tree : Tree
  stdout : String
  stderr : String
  status : Except Failure Nat

/-- Runs the program in a working directory. -/
def run (tree : Tree) (arguments : List String) : Result :=
  let (status, world) := (command arguments).run.run { tree }
  { tree := world.tree, stdout := world.stdout, stderr := world.stderr, status }

end Deadwood.CommandLine
