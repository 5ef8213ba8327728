/-
What a run has to say while it goes on.

An event is a value; its level, the part of the program that it comes from and
its words are functions of it. The events of a file and of a call are derived
from what was found there.
-/
import Deadwood.Analysis
import Deadwood.Files.Load

namespace Deadwood

/-- How important an event is. -/
inductive LogLevel where
  | debug | info | warning
  deriving DecidableEq, Repr

/-- The name of a level. -/
def LogLevel.name : LogLevel → String
  | debug => "DEBUG"
  | info => "INFO"
  | warning => "WARNING"

/-- Something that happened in a run. -/
inductive LogEvent where
  | configFound (path : Path)
  | unreadable (file : UnreadFile)
  | skippedDeclaration (diagnostic : Diagnostic)
  | repeatedDeclaration (file path : String)
  | callsFound (file : String) (count : Nat)
  | ambiguousCall (call : CallSite) (candidates : Nat)
  | unresolvedCall (call : CallSite)
  | droppedCall (call : CallSite)
  | graphBuilt (functions edges unresolved : Nat)
  | analyzed (files functions dead : Nat)
  | finding (diagnostic : Diagnostic)
  deriving Repr

namespace LogEvent

/-- The importance of an event. -/
def level : LogEvent → LogLevel
  | configFound _ | analyzed .. => .info
  | unreadable _ | finding _ => .warning
  | _ => .debug

/-- The part of the program that an event comes from. -/
def origin : LogEvent → String
  | configFound _ => "deadfn.config_loader"
  | unreadable _ | analyzed .. => "deadfn.analysis"
  | skippedDeclaration _ | repeatedDeclaration .. => "deadfn.symbols"
  | callsFound .. => "deadfn.calls"
  | ambiguousCall .. | unresolvedCall _ | droppedCall _ | graphBuilt .. => "deadfn.func_graph"
  | finding _ => "deadfn.cli"

/-- Why a file could not be read. -/
def unreadableReason : String := "not a text in UTF-8"

/-- What a call is known by: its written path if there is one, or else the name of the callee. -/
def callLabel (call : CallSite) : String :=
  (call.path.filter (· != "")).getD call.callee

/-- The words of an event. -/
def message : LogEvent → String
  | configFound path => s!"using config file {path.text}"
  | unreadable file => s!"cannot read {file.path.text}: {unreadableReason}"
  | skippedDeclaration diagnostic | finding diagnostic => diagnostic.text
  | repeatedDeclaration file path => s!"{file}: duplicate declaration {path} kept once"
  | callsFound file count => s!"{file}: {count} call sites"
  | ambiguousCall call candidates => s!"{call.file}: {call.callee} fans out to {candidates} candidates"
  | unresolvedCall call => s!"unresolved call {callLabel call} at {call.file}:{call.span.text}"
  | droppedCall call => s!"call from unknown function {call.enclosing} in {call.file} dropped"
  | graphBuilt functions edges unresolved =>
    s!"call graph: {functions} functions, {edges} edges, {unresolved} unresolved calls"
  | analyzed files functions dead => s!"analyzed {files} files: {functions} functions, {dead} dead"

/-- The line of an event. -/
def line (event : LogEvent) : String :=
  s!"{event.level.name} {event.origin}: {event.message}\n"

/-- The events of declarations, of which those with a given full path were seen before. -/
def ofDeclarations (file : String) (seen : List String) : List Declaration.Outcome → List LogEvent
  | [] => []
  | .broken diagnostic :: rest => skippedDeclaration diagnostic :: ofDeclarations file seen rest
  | .sound symbol :: rest =>
    if seen.contains symbol.fullPath then
      repeatedDeclaration file symbol.fullPath :: ofDeclarations file seen rest
    else ofDeclarations file (symbol.fullPath :: seen) rest

/-- The events of a file. -/
def ofFile (facts : FileFacts) : List LogEvent :=
  ofDeclarations facts.file [] facts.declared ++ [callsFound facts.file facts.calls.calls.length]

/-- The events of a call. -/
def ofCall (catalog : Catalog) (call : CallSite) : List LogEvent :=
  match catalog.resolve call with
  | .ok .unresolved => [unresolvedCall call]
  | .ok (.linked rule targets) =>
    let isDropped := !ModulePath.isModuleBody call.enclosing && !catalog.contains (CallGraph.callerKey call)
    (if rule == .byName && 1 < targets.length then [ambiguousCall call targets.length] else []) ++
      (if isDropped then [droppedCall call] else [])
  | _ => []

/-- The events of building a call graph. -/
def ofGraph (facts : List FileFacts) (graph : CallGraph) : List LogEvent :=
  (facts.flatMap fun file => file.calls.calls).flatMap (ofCall graph.catalog) ++
    [graphBuilt graph.catalog.symbols.length graph.edges.length graph.unresolved.length]

end LogEvent

end Deadwood
