/-
Where in a file a declaration or a call stands.

A `Scope` is the module of the file together with the frames that are open at a
point of its syntax tree: inline modules, the types or traits that own methods,
and function bodies, from the outermost to the innermost.
-/
import Deadwood.ModulePath

namespace Deadwood

/-- What opened a frame. -/
inductive FrameKind where
  | module | owner | function
  deriving DecidableEq, Repr

/-- The word for a kind of frame. -/
def FrameKind.name : FrameKind → String
  | module => "module"
  | owner => "owner"
  | function => "function"

/-- An open module, owner or function. -/
structure Frame where
  kind : FrameKind
  name : String
  deriving DecidableEq, Repr

/-- A place in a file: the module of the file and the open frames, outermost first. -/
structure Scope where
  base : List String
  frames : List Frame := []
  deriving DecidableEq, Repr

namespace Scope

/-- The outermost scope of a file. -/
def ofFile (file : String) : Scope :=
  ⟨ModulePath.ofFile file, []⟩

/-- The scope inside one more frame. -/
def enter (scope : Scope) (kind : FrameKind) (name : String) : Scope :=
  { scope with frames := scope.frames ++ [⟨kind, name⟩] }

/-- The segments of all frames. -/
def segments (scope : Scope) : List String :=
  scope.base ++ scope.frames.map (·.name)

/-- The segments of the module: owners and functions do not count. -/
def moduleSegments (scope : Scope) : List String :=
  scope.base ++ (scope.frames.filter (·.kind == .module)).map (·.name)

/-- The path of the module. -/
def modulePath (scope : Scope) : String :=
  ModulePath.join scope.moduleSegments

/-- The path of a declaration. -/
def fullPath (scope : Scope) (name : String) : String :=
  ModulePath.join (scope.segments ++ [name])

/-- The frames down to the innermost one of a kind; none if there is no such frame. -/
def framesTo (scope : Scope) (kind : FrameKind) : List Frame :=
  (scope.frames.reverse.dropWhile (·.kind != kind)).reverse

/-- The innermost owner. -/
def currentOwner? (scope : Scope) : Option String :=
  (scope.framesTo .owner).getLast?.map (·.name)

/-- Whether a function body is open. -/
def inFunction (scope : Scope) : Bool :=
  scope.frames.any (·.kind == .function)

/-- The path of the innermost function, or of the body of the module outside of any. -/
def enclosing (scope : Scope) : String :=
  match scope.framesTo .function with
  | [] => ModulePath.join (scope.moduleSegments ++ [ModulePath.moduleBody])
  | frames => ModulePath.join (scope.base ++ frames.map (·.name))

/-- The segments of the innermost owner: what `Self` stands for. -/
def ownerSegments? (scope : Scope) : Option (List String) :=
  match scope.framesTo .owner with
  | [] => none
  | frames => some (scope.base ++ frames.map (·.name))

/-- Follows leading `super` segments out of a module; the root of the crate is its own parent. -/
def climb (module : List String) : List String → List String
  | "super" :: rest => climb module.dropLast rest
  | segments => module ++ segments

/-- The crate-relative form of a path that begins with `crate`, `self`, `super` or `Self`; `none` for other
paths, and for `Self` outside of any owner. -/
def normalize? (scope : Scope) : List String → Option (List String)
  | "crate" :: rest => some rest
  | "self" :: rest => some (scope.moduleSegments ++ rest)
  | "super" :: rest => some (climb scope.moduleSegments ("super" :: rest))
  | "Self" :: rest => scope.ownerSegments?.map (· ++ rest)
  | _ => none

end Scope

end Deadwood
