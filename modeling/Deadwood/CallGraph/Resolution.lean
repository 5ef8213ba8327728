/-
Which functions a call may reach.

The rules are tried in this order, and the first that finds anything decides.

1. *lexical*: a plain call of a function nested in one of the functions around
   it, innermost first;
2. *exact*: the functions with the resolved path;
3. *imported*: those with the path that imports lead to from there;
4. a written path that begins outside of the project makes the call *external*;
5. *tail*: functions whose last two segments are those of the written path;
6. functions by name: the only one in the caller's file, or else all of them.

Exact, imported and tail prefer functions in the caller's file. Receiver types are
unknown, so a method call by name reaches every method of that name.
-/
import Deadwood.CallGraph.Catalog

namespace Deadwood

/-- Crates that are never part of a project. -/
def externalRoots : List String := ["std", "core", "alloc"]

/-- How many aliases are followed in a row. -/
def aliasHops : Nat := 10

/-- The rule by which a call was linked. -/
inductive LinkRule where
  | lexical | exact | imported | tail | onlyInFile | byName
  deriving DecidableEq, Repr

/-- Where a call leads. -/
inductive Resolution where
  | external
  | unresolved
  | linked (rule : LinkRule) (targets : List Key)
  deriving DecidableEq, Repr

/-- The functions that a call may reach; `none` if it leaves the project. -/
def Resolution.targets? : Resolution → Option (List Key)
  | external => none
  | unresolved => some []
  | linked _ targets => some targets

/-- Why a call cannot be resolved. -/
inductive ResolutionError where
  /-- Its written path has no segment. -/
  | emptyPath
  /-- A key that was found by name is not that of a function. -/
  | unknownKey (key : Key)
  deriving DecidableEq, Repr

namespace Catalog

/-- The keys in a file, or all of them if none is in it. -/
def preferFile (file : String) (keys : List Key) : List Key :=
  match keys.filter (·.file == file) with
  | [] => keys
  | same => same

/-- The nonempty starts of a list, the longest first. -/
def starts (segments : List String) : List (List String) :=
  ((List.range segments.length).map fun i => segments.take (i + 1)).reverse

/-- The function that a plain call reaches in one of the functions around it. -/
def lexical? (catalog : Catalog) (call : CallSite) : Option Key :=
  if call.path.isSome || call.isMethodCall || ModulePath.isModuleBody call.enclosing then none
  -- Innermost first: the longest start of the path is the nearest scope.
  else (starts (ModulePath.split call.enclosing)).findSome? fun scope =>
    if catalog.contains ⟨call.file, ModulePath.join scope⟩ then
      let key : Key := ⟨call.file, ModulePath.join (scope ++ [call.callee])⟩
      if (catalog.symbol? key).any (!·.isMethod) then some key else none
    else none

/-- The functions with a path. -/
def exact (catalog : Catalog) (path file : String) : List Key :=
  preferFile file (catalog.withPath path)

/-- Follows aliases from a path, at most `hops` of them. -/
def chase (catalog : Catalog) : Nat → String → String
  | 0, path => path
  | hops + 1, path => match catalog.aliases.get? path with
    | none => path
    | some target => if target == "" || target == path then path else chase catalog hops target

/-- The path that imports lead to: the longest start of a path that is an alias is followed. -/
def followAlias (catalog : Catalog) (path : String) : String :=
  let segments := ModulePath.split path
  let expanded := (starts segments).findSome? fun start =>
    let head := ModulePath.join start
    let target := catalog.chase aliasHops head
    if target == head then none
    else some (ModulePath.join (ModulePath.split target ++ segments.drop start.length))
  expanded.getD path

/-- The functions whose last two segments are those of a written path, leaving out `crate`, `self`, `super` and
`Self`. -/
def byTail (catalog : Catalog) (written file : String) : List Key :=
  let segments := (ModulePath.split written).filter fun segment => !relativeHeads.contains segment
  let tail := segments.drop (segments.length - 2)
  if tail.length == 2 then preferFile file (catalog.withTail (ModulePath.join tail)) else []

/-- The function with a key that was found. -/
def lookUp (catalog : Catalog) (key : Key) : Except ResolutionError Symbol :=
  match catalog.symbol? key with
  | some symbol => .ok symbol
  | none => .error (.unknownKey key)

/-- Those of some keys whose function satisfies a test, or all of them if none does. -/
def choose (catalog : Catalog) (test : Symbol → Bool) (keys : List Key) : Except ResolutionError (List Key) := do
  let tested ← keys.mapM fun key => (catalog.lookUp key).map fun symbol => (key, test symbol)
  match (tested.filter (·.2)).map (·.1) with
  | [] => return keys
  | chosen => return chosen

/-- The functions with the name of a call: methods first for a method call, others first for a plain call. -/
def named (catalog : Catalog) (call : CallSite) : Except ResolutionError (List Key) :=
  let keys := catalog.withName call.callee
  if call.isMethodCall then catalog.choose (·.isMethod) keys
  else if call.path.isNone then catalog.choose (!·.isMethod) keys
  else .ok keys

/-- Where a call leads that may reach some functions by their name. -/
def linkByName (call : CallSite) (keys : List Key) : Resolution :=
  match keys with
  | [] => .unresolved
  | keys => match keys.filter (·.file == call.file) with
    | [key] => .linked .onlyInFile [key]
    | _ => .linked .byName keys

/-- Resolves a call with a written path that no function has. -/
def resolveWritten? (catalog : Catalog) (call : CallSite) (written expanded : String) :
    Except ResolutionError (Option Resolution) :=
  if (ModulePath.split expanded).head?.any externalRoots.contains then .ok (some .external)
  else match ModulePath.split written with
    | [] => .error .emptyPath
    | head :: _ =>
      if externalRoots.contains head then .ok (some .external)
      else match catalog.byTail written call.file with
        | [] => .ok none
        | keys => .ok (some (.linked .tail keys))

/-- Resolves a call by its resolved path, if that leads anywhere. -/
def resolveByPath? (catalog : Catalog) (call : CallSite) (path : String) :
    Except ResolutionError (Option Resolution) :=
  match catalog.exact path call.file with
  | key :: keys => .ok (some (.linked .exact (key :: keys)))
  | [] =>
    let expanded := catalog.followAlias path
    match if expanded == path then [] else catalog.exact expanded call.file with
    | key :: keys => .ok (some (.linked .imported (key :: keys)))
    | [] => match call.path with
      | none => .ok none
      | some written => catalog.resolveWritten? call written expanded

/-- Resolves a call. -/
def resolve (catalog : Catalog) (call : CallSite) : Except ResolutionError Resolution :=
  match catalog.lexical? call with
  | some key => .ok (.linked .lexical [key])
  | none => match call.resolved.filter (· != "") with
    | none => (catalog.named call).map (linkByName call)
    | some path => do
      match ← catalog.resolveByPath? call path with
      | some resolution => return resolution
      | none => (catalog.named call).map (linkByName call)

end Catalog

end Deadwood
