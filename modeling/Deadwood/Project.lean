/-
Analysing the files below some roots.
-/
import Deadwood.Config.Basic
import Deadwood.Files.Scan
import Deadwood.Log

namespace Deadwood

/-- Why a project has no outcome. -/
inductive ProjectError where
  | path (error : PathError)
  | config (error : ConfigError)
  | analysis (error : AnalysisError)
  deriving Repr

/-- A computation that notes events and may fail. What was noted before a failure is kept. -/
abbrev Logged := ExceptT ProjectError (StateM (List LogEvent))

namespace Project

/-- Notes events. -/
def note (events : List LogEvent) : Logged Unit :=
  modify (· ++ events)

/-- What file names are relative to: the only root, if it is a folder. -/
def base? (tree : Tree) : List Path → Option Path
  | [root] => if tree.hasFolder root then some root else none
  | _ => none

/-- The sources below some roots. -/
def load (tree : Tree) (roots : List Path) (config : Config) : Except PathError LoadedSources := do
  tree.load (← tree.scan roots config.excluded) (base? tree roots)

/-- The outcome with the files that could not be read. -/
def withUnread (outcome : Outcome) (unread : List UnreadFile) : Outcome :=
  { outcome with
    failedFiles := unread.map (·.id)
    diagnostics := outcome.diagnostics ++ unread.map fun file => .unreadable file.id }

/-- What an analysis starts from: the sources and the policy. -/
structure Input where
  loaded : LoadedSources
  policy : Policy

/-- Reads the files below some roots, and notes those that could not be read. -/
def prepare (tree : Tree) (roots : List Path) (config : Config) : Logged Input := do
  let loaded ← (load tree roots config).mapError ProjectError.path
  note (loaded.unread.map .unreadable)
  return { loaded, policy := ← (config.policy).mapError ProjectError.config }

/-- Analyses what was read, and notes what happens. -/
def complete (config : Config) (input : Input) : Logged Outcome := do
  let loaded := input.loaded
  (checkWorkers config.workers).mapError ProjectError.analysis
  let (facts, refused) := readEach Rust.parse config.strict loaded.sources.entries
  note (facts.flatMap LogEvent.ofFile)
  if let some error := refused then throw (.analysis (.malformed error))
  let outcome ← (Outcome.ofFacts facts input.policy).mapError fun error => ProjectError.analysis (.resolution error)
  note (outcome.graph.elim [] (LogEvent.ofGraph facts))
  let statistics := outcome.verdict.statistics
  note [.analyzed loaded.sources.entries.length statistics.total statistics.dead]
  return withUnread outcome loaded.unread

/-- Analyses the files below some roots. -/
def analyze (tree : Tree) (roots : List Path) (config : Config) : Except ProjectError Outcome :=
  ((prepare tree roots config >>= complete config).run.run []).1

end Project

end Deadwood
