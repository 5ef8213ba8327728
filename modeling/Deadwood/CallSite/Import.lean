/-
What a `use` declaration brings into its module.

A use tree is flattened into bindings: a path binds its last segment, `path as
name` binds the name (`_` binds nothing), `self` in a group binds the last
segment of the path in front of the group, and a wildcard binds nothing.
-/
import Deadwood.CallSite.Basic

namespace Deadwood

open Syntax

/-- A name and the segments it stands for. -/
structure Binding where
  name : String
  segments : List String
  deriving DecidableEq, Repr

mutual

/-- The bindings of a use tree, under the segments in front of it. -/
def bindings (source : Source) (front : List String) : Node → List Binding
  | node@(.mk kind _ _ _ _ _ children) => match kind with
    | .useAsClause =>
      match (source.fieldText? node "alias").filter fun name => name != "" && name != "_" with
      | none => []
      | some name => [⟨name, front ++ fieldSegments source "path" children⟩]
    | .scopedUseList => fieldBindings source (front ++ fieldSegments source "path" children) "list" children
    | .useList => groupBindings source front children
    | .useWildcard => []
    | _ =>
      let segments :=
        if kind == .selfKeyword && !front.isEmpty then front else front ++ pathSegments source node
      match segments.getLast? with
      | none => []
      | some name => [⟨name, segments⟩]

/-- The bindings of the first of several nodes that fills a field. -/
def fieldBindings (source : Source) (front : List String) (field : String) : List Node → List Binding
  | [] => []
  | node :: rest =>
    if node.field == some field then bindings source front node else fieldBindings source front field rest

/-- The bindings of the named ones of several nodes. -/
def groupBindings (source : Source) (front : List String) : List Node → List Binding
  | [] => []
  | node :: rest =>
    (if node.named then bindings source front node else []) ++ groupBindings source front rest

end

/-- Enters a binding in the table of a module, in crate-relative form where there is one. A binding to nothing
is left out. -/
def Binding.record (scope : Scope) (table : OrderedMap String String) (binding : Binding) :
    OrderedMap String String :=
  let target := (scope.normalize? binding.segments).getD binding.segments
  if target.isEmpty then table else table.insert binding.name (ModulePath.join target)

/-- Enters the bindings of a use declaration. Its module has a table from then on, even an empty one. -/
def Imports.declare (source : Source) (imports : Imports) (scope : Scope) (item : Node) : Imports :=
  imports.modify scope.modulePath {} fun table =>
    (fieldBindings source [] "argument" item.children).foldl (Binding.record scope) table

end Deadwood
