/-
Calls as they are written, and the imports that qualify them.
-/
import Deadwood.OrderedMap
import Deadwood.Scope.Basic
import Deadwood.Syntax.Source

namespace Deadwood

open Syntax

/-- One call in a source. `path` is the callee as written (or as imported) when it has more than a name,
`resolved` its crate-relative path, and `enclosing` the full path of the calling function or the body of a
module. -/
structure CallSite where
  callee : String
  file : String
  span : Span
  enclosing : String
  path : Option String := none
  resolved : Option String := none
  isMethodCall : Bool := false
  fromMacro : Bool := false
  deriving DecidableEq, Repr

/-- The imports of each module: the local name of each imported item and its crate-relative path. -/
abbrev Imports := OrderedMap String (OrderedMap String String)

namespace Imports

/-- The imports of one module. -/
def ofModule (imports : Imports) (module : String) : OrderedMap String String :=
  (imports.get? module).getD {}

/-- Adds the imports of another file. -/
def merge (imports other : Imports) : Imports :=
  other.entries.foldl (fun all entry => all.modify entry.1 {} (·.union entry.2)) imports

end Imports

/-- Segments at the head of a path that refer to a place in the project itself. -/
def relativeHeads : List String := ["crate", "self", "super", "Self"]

/-- The kinds of node that are a segment of a path by themselves. -/
def isPathAtom (kind : Kind) : Bool :=
  match kind with
  | .identifier | .typeIdentifier | .selfKeyword | .superKeyword | .crateKeyword | .metavariable
  | .primitiveType => true
  | _ => false

mutual

/-- The segments of a path, without type arguments. `<T as Trait>::m` goes through the trait and `<T>::m`
through the type. -/
def pathSegments (source : Source) : Node → List String
  | node@(.mk kind _ _ _ _ _ children) =>
    if isPathAtom kind then [source.text node]
    else match kind with
      | .scopedIdentifier | .scopedTypeIdentifier =>
        fieldSegments source "path" children ++ fieldSegments source "name" children
      | .genericType => fieldSegments source "type" children
      | .genericFunction => fieldSegments source "function" children
      | .bracketedType => bracketedSegments source children
      | _ => [Text.dropBlanks (source.text node)]

/-- The segments of the first of several nodes that fills a field. -/
def fieldSegments (source : Source) (field : String) : List Node → List String
  | [] => []
  | node :: rest =>
    if node.field == some field then pathSegments source node else fieldSegments source field rest

/-- The segments of the first named one of several nodes between angle brackets. -/
def bracketedSegments (source : Source) : List Node → List String
  | [] => []
  | node :: rest =>
    if !node.named then bracketedSegments source rest
    else if node.kind == .qualifiedType then traitSegments source node
    else pathSegments source node

/-- The segments of the trait in `T as Trait`. -/
def traitSegments (source : Source) : Node → List String
  | .mk _ _ _ _ _ _ children => fieldSegments source "alias" children

end

/-- The written path and the crate-relative path of a callee with the given segments. A lone name is looked up
among the imports of its module and belongs to that module otherwise. -/
def qualify (imports : Imports) (scope : Scope) (segments : List String) : Option String × Option String :=
  let module := scope.moduleSegments
  let table := imports.ofModule (ModulePath.join module)
  match segments with
  | [] => (none, none)
  | [name] => match table.get? name with
    | some target => (some target, some target)
    | none => (none, some (ModulePath.join (module ++ [name])))
  | head :: rest =>
    let written := ModulePath.join segments
    if relativeHeads.contains head then (some written, (scope.normalize? segments).map ModulePath.join)
    else match table.get? head with
      | some target => (some written, some (ModulePath.join (ModulePath.split target ++ rest)))
      | none => (some written, some (ModulePath.join (module ++ segments)))

end Deadwood
