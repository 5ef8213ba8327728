/-
Scripts that drive a tracker.

A script is a list of steps: single actions and questions, contexts that open a
frame (or a whole walk) around a body and close it afterwards, and interruptions.
A refused action is noted and the script goes on. An interruption leaves every
context around it, closing what the context opened.
-/
import Deadwood.Scope.Tracker

namespace Deadwood.Scope

/-- What can be asked about a scope. -/
inductive Question where
  | moduleSegments | modulePath | currentOwner | inFunction | enclosing | ownerSegments | active
  | fullPath (name : String)
  | normalize (segments : List String)

/-- What a question or an action answers. -/
inductive Answer where
  | nothing
  | flag (value : Bool)
  | text (value : String)
  | segments (value : List String)

/-- Answers a question. -/
def Tracker.answer : Question → Tracking Answer
  | .moduleSegments => asking fun scope => .segments scope.moduleSegments
  | .modulePath => asking fun scope => .text scope.modulePath
  | .currentOwner => asking fun scope => (scope.currentOwner?.map Answer.text).getD .nothing
  | .inFunction => asking fun scope => .flag scope.inFunction
  | .enclosing => asking fun scope => .text scope.enclosing
  | .ownerSegments => asking fun scope => (scope.ownerSegments?.map Answer.segments).getD .nothing
  | .active => return .flag (← get).active
  | .fullPath name => asking fun scope => .text (scope.fullPath name)
  | .normalize segments => return ((← normalize segments).map Answer.segments).getD .nothing

/-- A single action. -/
inductive Action where
  | start
  | finish
  | enter (kind : FrameKind) (name : String)
  | leave (kind : FrameKind)
  | ask (question : Question)

/-- Does an action. -/
def Tracker.act : Action → Tracking Answer
  | .start => do
    modify Tracker.start
    return .nothing
  | .finish => do
    finish
    return .nothing
  | .enter kind name => do
    enter kind name
    return .nothing
  | .leave kind => do
    leave kind
    return .nothing
  | .ask question => answer question

/-- A step of a script. -/
inductive Step where
  | action (action : Action)
  | walk (body : List Step)
  | within (kind : FrameKind) (name : String) (body : List Step)
  | interrupt
  deriving Inhabited

/-- Why a step failed. -/
inductive Failure where
  | refused (refusal : Refusal)
  | interrupted

/-- What is noted after a step: the frames, whether a walk is going on, and the outcome. -/
inductive Entry where
  | answered (frames : List Frame) (active : Bool) (answer : Answer)
  | refused (frames : List Frame) (active : Bool) (refusal : Refusal)
  | context (frames : List Frame) (active : Bool) (failure : Option Failure) (body : List Entry)
  | interrupted

/-- The state after a script: the tracker, the notes, and whether an interruption is under way. -/
structure Progress where
  tracker : Tracker
  entries : List Entry
  interrupted : Bool

/-- The note on a context, and whether the interruption of its body goes on. Closing that is refused takes the
place of an interruption. -/
def closeContext (kind : FrameKind) (progress : Progress) : Tracker × Option Failure × Bool :=
  match Tracker.leave kind progress.tracker with
  | .ok _ tracker =>
    (tracker, if progress.interrupted then some .interrupted else none, progress.interrupted)
  | .error refusal tracker => (tracker, some (.refused refusal), false)

mutual

/-- Runs the steps of a body until one is interrupted. -/
def runSteps (tracker : Tracker) : List Step → Progress
  | [] => ⟨tracker, [], false⟩
  | step :: rest =>
    let (tracker, entry, interrupted) := runStep tracker step
    if interrupted then ⟨tracker, entry.toList, true⟩
    else
      let progress := runSteps tracker rest
      { progress with entries := entry.toList ++ progress.entries }

/-- Runs one step of a body. -/
def runStep (tracker : Tracker) : Step → Tracker × Option Entry × Bool
  | .action action => match Tracker.act action tracker with
    | .ok answer tracker => (tracker, some (.answered tracker.frames tracker.active answer), false)
    | .error refusal tracker => (tracker, some (.refused tracker.frames tracker.active refusal), false)
  | .walk body =>
    let progress := runSteps tracker.start body
    let tracker := progress.tracker.rest
    let failure := if progress.interrupted then some Failure.interrupted else none
    (tracker, some (.context tracker.frames tracker.active failure progress.entries), progress.interrupted)
  | .within kind name body => match Tracker.enter kind name tracker with
    | .error refusal tracker =>
      (tracker, some (.context tracker.frames tracker.active (some (.refused refusal)) []), false)
    | .ok _ inner =>
      let progress := runSteps inner body
      let (tracker, failure, interrupted) := closeContext kind progress
      (tracker, some (.context tracker.frames tracker.active failure progress.entries), interrupted)
  | .interrupt => (tracker, none, true)

end

/-- Runs a script. An interruption ends with the outermost context; a bare one ends the script. -/
def runScript (tracker : Tracker) : List Step → List Entry
  | [] => []
  | .interrupt :: _ => [.interrupted]
  | step :: rest =>
    let (tracker, entry, _) := runStep tracker step
    entry.toList ++ runScript tracker rest

end Deadwood.Scope
