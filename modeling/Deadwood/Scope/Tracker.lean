/-
A scope that changes while a file is walked.

A `Tracker` is either resting or active; only an active one has open frames and
answers questions about them. Frames are entered and left in pairs: leaving one
that is not the innermost is refused, and so is ending a walk with frames open.

The operations are programs that change a tracker. Also one that is refused leaves
a tracker behind, and nothing but the order of its checks and changes keeps it as it
was.
-/
import Deadwood.Scope.Basic
import Deadwood.Text.Quoted

namespace Deadwood.Scope

/-- Why a tracker refuses. -/
inductive Refusal where
  | resting
  | notInnermost (kind : FrameKind) (frames : List Frame)
  | openFrames (frames : List Frame)
  deriving DecidableEq, Repr

/-- Frames as a list of pairs. -/
def framesText (frames : List Frame) : String :=
  Text.bracketed (frames.map fun frame => s!"({Text.quoted frame.kind.name}, {Text.quoted frame.name})")

/-- The words of a refusal. -/
def Refusal.message : Refusal → String
  | resting => "module path requested outside an active traversal"
  | notInnermost kind frames => s!"cannot leave {kind.name} scope: stack is {framesText frames}"
  | openFrames frames => s!"traversal ended with open scopes: {framesText frames}"

/-- A scope and whether a walk is going on. -/
structure Tracker where
  scope : Scope
  active : Bool := false
  deriving DecidableEq, Repr

namespace Tracker

/-- A resting tracker for a module. -/
def ofBase (base : List String) : Tracker :=
  ⟨⟨base, []⟩, false⟩

/-- A resting tracker for a file. -/
def ofFile (file : String) : Tracker :=
  ⟨Scope.ofFile file, false⟩

/-- The open frames. -/
def frames (tracker : Tracker) : List Frame :=
  tracker.scope.frames

/-- Replaces the open frames. -/
def withFrames (tracker : Tracker) (frames : List Frame) : Tracker :=
  { tracker with scope := { tracker.scope with frames := frames } }

/-- Starts a walk, whatever was open before. -/
def start (tracker : Tracker) : Tracker :=
  ⟨⟨tracker.scope.base, []⟩, true⟩

/-- Abandons a walk, whatever is open. -/
def rest (tracker : Tracker) : Tracker :=
  ⟨⟨tracker.scope.base, []⟩, false⟩

end Tracker

/-- A program that changes a tracker and may be refused. -/
abbrev Tracking := EStateM Refusal Tracker

namespace Tracker

/-- Refuses to go on without a walk. -/
def requireActive : Tracking Unit := do
  if !(← get).active then throw .resting

/-- Asks about the scope of an active tracker. -/
def asking (question : Scope → α) : Tracking α := do
  requireActive
  return question (← get).scope

/-- Ends a walk. -/
def finish : Tracking Unit := do
  requireActive
  let tracker ← get
  if !tracker.frames.isEmpty then throw (.openFrames tracker.frames)
  set { tracker with active := false }

/-- Opens a frame. -/
def enter (kind : FrameKind) (name : String) : Tracking Unit := do
  requireActive
  modify fun tracker => { tracker with scope := tracker.scope.enter kind name }

/-- Closes the innermost frame, which has to be of the given kind. -/
def leave (kind : FrameKind) : Tracking Unit := do
  requireActive
  let tracker ← get
  if !tracker.frames.getLast?.any (·.kind == kind) then throw (.notInnermost kind tracker.frames)
  set (tracker.withFrames tracker.frames.dropLast)

/-- The crate-relative form of a path. A path that needs no scope is answered also by a resting tracker. -/
def normalize (segments : List String) : Tracking (Option (List String)) :=
  match segments with
  | "self" :: _ | "super" :: _ | "Self" :: _ => asking (·.normalize? segments)
  | _ => return (← get).scope.normalize? segments

end Tracker

end Deadwood.Scope
