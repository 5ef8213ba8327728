/-
The calls of one file.

A file is walked twice. A `use` item holds in its whole module wherever it is
written, so the first walk enters the imports of all modules and nothing else; the
second walk finds the calls, which the imports qualify, and reports functions with
a syntax error.

In a token tree a call shows as an identifier followed by a parenthesised group.
-/
import Deadwood.CallSite.Import
import Deadwood.Declaration

namespace Deadwood

open Syntax

/-- A place that matters to calls. -/
inductive Place where
  | use (scope : Scope) (item : Node)
  | call (scope : Scope) (expression : Node)
  | tokens (scope : Scope) (tree : Node)
  | broken (function : Node)

/-- The path of a method called on `self`: the method of the innermost owner. -/
def ownMethodPath? (scope : Scope) (name : String) : Option String :=
  scope.ownerSegments?.map fun owner => ModulePath.join (owner ++ [name])

/-- A call with a path as its callee. -/
def pathCall? (file : String) (source : Source) (imports : Imports) (scope : Scope) (node : Node)
    (segments : List String) (fromMacro : Bool) : Option CallSite :=
  segments.getLast?.map fun callee =>
    let (path, resolved) := qualify imports scope segments
    { callee, file, span := source.span node, enclosing := scope.enclosing, path, resolved, fromMacro }

/-- A call of a method, on `self` or on something else. -/
def methodCall (file : String) (source : Source) (scope : Scope) (node : Node) (name : String)
    (onSelf fromMacro : Bool) : CallSite :=
  { callee := name, file, span := source.span node, enclosing := scope.enclosing
    resolved := if onSelf then ownMethodPath? scope name else none, isMethodCall := true, fromMacro }

/-- The callee of a call expression, without one layer of type arguments. -/
def calleeNode? (expression : Node) : Option Node :=
  (expression.child? "function").map fun callee =>
    if callee.kind == .genericFunction then (callee.child? "function").getD callee else callee

/-- The call of a call expression: none if the callee is neither a named field nor a path. -/
def callOf? (file : String) (source : Source) (imports : Imports) (scope : Scope) (expression : Node) :
    Option CallSite :=
  (calleeNode? expression).bind fun callee => match callee.kind with
    | .fieldExpression =>
      ((callee.child? "field").filter (·.kind == .fieldIdentifier)).map fun field =>
        methodCall file source scope expression (source.text field)
          ((callee.child? "value").any (·.kind == .selfKeyword)) false
    | .identifier | .scopedIdentifier | .selfKeyword | .superKeyword | .crateKeyword =>
      pathCall? file source imports scope expression (pathSegments source callee) false
    | _ => none

/-- The longest path that ends in front of the given tokens, which come nearest first, and the tokens before
it. -/
def pathBefore (source : Source) (segments : List String) : List Node → List String × List Node
  | separator :: atom :: rest =>
    if source.text separator == ModulePath.separator && isPathAtom atom.kind then
      pathBefore source (source.text atom :: segments) rest
    else (segments, separator :: atom :: rest)
  | before => (segments, before)

/-- The call of the identifier in front of a parenthesised group, given the tokens before the group from the
nearest one on. A signature `fn name(...)` is not a call. -/
def callBefore? (file : String) (source : Source) (imports : Imports) (scope : Scope) (before : List Node) :
    Option CallSite :=
  match before with
  | [] => none
  | name :: earlier =>
    if name.kind == .identifier then
      let (segments, earlier) := pathBefore source [source.text name] earlier
      match earlier.head?.map source.text with
      | some "." =>
        let onSelf := segments.length == 1 && earlier[1]?.any fun token => token.kind == .selfKeyword
        segments.getLast?.map fun callee => methodCall file source scope name callee onSelf true
      | some "fn" => none
      | _ => pathCall? file source imports scope name segments true
    else none

/-- Whether a token tree is a parenthesised group. -/
def isParenthesised (source : Source) (tree : Node) : Bool :=
  tree.children.head?.any fun token => source.text token == "("

mutual

/-- The calls in one token: none unless it is a tree. -/
def callsInToken (file : String) (source : Source) (imports : Imports) (scope : Scope) (before : List Node) :
    Node → List CallSite
  | token@(.mk kind _ _ _ _ _ children) => match kind with
    | .tokenTree =>
      callsInTokens file source imports scope [] children ++
        if isParenthesised source token then (callBefore? file source imports scope before).toList else []
    | _ => []

/-- The calls in a row of tokens, given the tokens before them from the nearest one on. The calls inside a group
come before the call that the group belongs to. -/
def callsInTokens (file : String) (source : Source) (imports : Imports) (scope : Scope) (before : List Node) :
    List Node → List CallSite
  | [] => []
  | token :: rest =>
    callsInToken file source imports scope before token ++
      callsInTokens file source imports scope (token :: before) rest

end

/-- The calls at a place. -/
def callsAt (file : String) (source : Source) (imports : Imports) : Place → List CallSite
  | .call scope expression => (callOf? file source imports scope expression).toList
  | .tokens scope tree => callsInTokens file source imports scope [] tree.children
  | .use .. | .broken _ => []

/-- The calls and imports of one file. -/
structure FileCalls where
  calls : List CallSite := []
  imports : Imports := {}
  diagnostics : List Diagnostic := []
  deriving Repr

/-- What a walk has found so far, and whether it has reported a broken function. -/
structure Findings extends FileCalls where
  reported : Bool := false

namespace Findings

/-- Enters the bindings of a use declaration. -/
def declare (findings : Findings) (source : Source) (scope : Scope) (item : Node) : Findings :=
  { findings with imports := findings.imports.declare source scope item }

/-- Adds the calls at a place, qualified by the imports so far. -/
def record (findings : Findings) (file : String) (source : Source) (place : Place) : Findings :=
  { findings with calls := findings.calls ++ callsAt file source findings.imports place }

/-- Reports a broken function. -/
def report (findings : Findings) (file : String) (source : Source) (function : Node) : Findings :=
  { findings with
    diagnostics := findings.diagnostics ++ [.skipped file source function (source.fieldText? function "name")]
    reported := true }

end Findings

mutual

/-- Visits a node. A walk for imports passes over all but use declarations, and a walk for calls over these. -/
def visit (file : String) (source : Source) (usesOnly : Bool) (scope : Scope) (findings : Findings) :
    Node → Findings
  | node@(.mk kind _ _ _ _ _ children) => match kind with
    | .functionItem => match enterable? source node with
      | none => if usesOnly then findings else findings.report file source node
      | some name => visitFunction file source usesOnly (scope.enter .function name) findings children
    | .modItem => match moduleName? source node with
      | none => findings
      | some name => visitBody file source usesOnly (scope.enter .module name) findings children
    | .implItem | .traitItem =>
      visitBody file source usesOnly (scope.enter .owner (Owner.ofItem source node).name) findings children
    | .useDeclaration => if usesOnly then findings.declare source scope node else findings
    | .macroInvocation =>
      if usesOnly then findings
      else (children.filter fun child => child.named && child.kind == .tokenTree).foldl
        (fun findings tree => findings.record file source (.tokens scope tree)) findings
    | .foreignModItem | .macroDefinition | .attributeItem => findings
    | .callExpression =>
      let findings := if usesOnly then findings else findings.record file source (.call scope node)
      visitAmong file source usesOnly scope findings children
    | _ => visitAmong file source usesOnly scope findings children

/-- Visits the named ones of several nodes. -/
def visitAmong (file : String) (source : Source) (usesOnly : Bool) (scope : Scope) (findings : Findings) :
    List Node → Findings
  | [] => findings
  | node :: rest =>
    let findings := if node.named then visit file source usesOnly scope findings node else findings
    visitAmong file source usesOnly scope findings rest

/-- Visits the body of a function, which is the first of several nodes that fills that field. -/
def visitFunction (file : String) (source : Source) (usesOnly : Bool) (scope : Scope) (findings : Findings) :
    List Node → Findings
  | [] => findings
  | node :: rest =>
    if node.field == some "body" then visit file source usesOnly scope findings node
    else visitFunction file source usesOnly scope findings rest

/-- Visits the parts of a body, which is the first of several nodes that fills that field. -/
def visitBody (file : String) (source : Source) (usesOnly : Bool) (scope : Scope) (findings : Findings) :
    List Node → Findings
  | [] => findings
  | node@(.mk _ _ _ _ _ _ children) :: rest =>
    if node.field == some "body" then visitAmong file source usesOnly scope findings children
    else visitBody file source usesOnly scope findings rest

end

namespace FileCalls

/-- One walk through a file. -/
def pass (file : String) (source : Source) (root : Node) (usesOnly : Bool) (findings : Findings) : Findings :=
  visitAmong file source usesOnly (Scope.ofFile file) findings root.children

/-- The calls of a file: a walk for its imports, then a walk for its calls. -/
def extract (file : String) (source : Source) (root : Node) : FileCalls :=
  let findings := pass file source root false (pass file source root true {})
  if root.hasError && !findings.reported then
    { findings.toFileCalls with diagnostics := findings.diagnostics ++ [.outsideFunctions file source root] }
  else findings.toFileCalls

end FileCalls

end Deadwood
