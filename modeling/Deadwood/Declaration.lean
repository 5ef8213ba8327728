/-
The functions declared in one file.

The walk goes from the root of the syntax tree through named children: into
inline modules, the bodies of `impl` and `trait` items and the bodies of
functions, but not into foreign blocks and macros. Each function item it meets is
a `Declaration`, listed in the order of the text.

A declaration that holds a syntax error, or has no name, is broken: it is not
entered and becomes a diagnostic. Of the others, the first with each full path
becomes a `Symbol`.
-/
import Deadwood.Attribute
import Deadwood.Diagnostic
import Deadwood.Scope.Basic
import Deadwood.Symbol

namespace Deadwood

open Syntax

/-- The type or trait that a method belongs to, and the trait it implements. -/
structure Owner where
  name : String
  traitName : Option String
  deriving DecidableEq, Repr

namespace Owner

/-- The name for what has none. -/
def unknown : String := "<unknown>"

mutual

/-- The readable name of a type: `Vec<T>` is `Vec`, `&mut T` is `T`. -/
def typeName (source : Source) : Node → String
  | node@(.mk kind _ _ _ _ _ children) => match kind with
    | .typeIdentifier | .primitiveType | .identifier => source.text node
    | .scopedTypeIdentifier | .scopedIdentifier =>
      ((source.fieldText? node "name").filter (· != "")).getD unknown
    | .genericType | .referenceType | .pointerType => fieldTypeName source "type" children
    | .dynamicType => fieldTypeName source "trait" children
    | _ => unknown

/-- The readable name of the first of several nodes that fills a field. -/
def fieldTypeName (source : Source) (field : String) : List Node → String
  | [] => unknown
  | node :: rest =>
    if node.field == some field then typeName source node else fieldTypeName source field rest

end

/-- The owner of the functions in the body of an `impl` or `trait` item. -/
def ofItem (source : Source) (item : Node) : Owner :=
  if item.kind == .traitItem then
    let name := ((source.fieldText? item "name").filter (· != "")).getD unknown
    ⟨name, some name⟩
  else
    ⟨fieldTypeName source "type" item.children, (item.child? "trait").map (typeName source)⟩

end Owner

/-- A function item and the place where it stands: the scope around it, the owner if it stands directly in the
body of an `impl` or `trait` item, and the siblings before it from the nearest one on. -/
structure Declaration where
  node : Node
  scope : Scope
  owner : Option Owner
  before : List Node
  deriving Repr

/-- The name of a function item that can be entered. -/
def enterable? (source : Source) (node : Node) : Option String :=
  if node.hasError then none else (source.fieldText? node "name").filter (· != "")

/-- The name of a module item with a name. -/
def moduleName? (source : Source) (node : Node) : Option String :=
  (source.fieldText? node "name").filter (· != "")

mutual

/-- The declarations in a node; the owner is that of the node itself. -/
def declarationsIn (source : Source) (scope : Scope) (owner : Option Owner) (before : List Node) :
    Node → List Declaration
  | node@(.mk kind _ _ _ _ _ children) => match kind with
    | .functionItem =>
      ⟨node, scope, owner, before⟩ :: match enterable? source node with
        | none => []
        | some name => declarationsInFunction source (scope.enter .function name) [] children
    | .modItem => match moduleName? source node with
      | none => []
      | some name => declarationsInBody source (scope.enter .module name) none children
    | .implItem | .traitItem =>
      let owner := Owner.ofItem source node
      declarationsInBody source (scope.enter .owner owner.name) (some owner) children
    | .foreignModItem | .macroDefinition | .macroInvocation => []
    | _ => declarationsAmong source scope none [] children

/-- The declarations in the named ones of several siblings, of which those before are given. -/
def declarationsAmong (source : Source) (scope : Scope) (owner : Option Owner) (before : List Node) :
    List Node → List Declaration
  | [] => []
  | node :: rest =>
    (if node.named then declarationsIn source scope owner before node else []) ++
      declarationsAmong source scope owner (node :: before) rest

/-- The declarations in the body of a function, which is the first of several nodes that fills that field. -/
def declarationsInFunction (source : Source) (scope : Scope) (before : List Node) :
    List Node → List Declaration
  | [] => []
  | node :: rest =>
    if node.field == some "body" then declarationsIn source scope none before node
    else declarationsInFunction source scope (node :: before) rest

/-- The declarations among the parts of a body, which is the first of several nodes that fills that field. -/
def declarationsInBody (source : Source) (scope : Scope) (owner : Option Owner) : List Node → List Declaration
  | [] => []
  | node@(.mk _ _ _ _ _ _ children) :: rest =>
    if node.field == some "body" then declarationsAmong source scope owner [] children
    else declarationsInBody source scope owner rest

end

/-- All declarations of a file. -/
def declarations (file : String) (source : Source) (root : Node) : List Declaration :=
  declarationsAmong source (Scope.ofFile file) none [] root.children

namespace Declaration

/-- The full path of a function with a given name at the place of the declaration. -/
def fullPath (declaration : Declaration) (name : String) : String :=
  declaration.scope.fullPath name

/-- The text of the visibility modifier of an item. -/
def visibilityText? (source : Source) (node : Node) : Option String :=
  (node.children.find? (·.kind == .visibilityModifier)).map source.text

/-- The symbol of a declaration with a given name, apart from its place among the functions of the file. -/
def toSymbol (file : String) (source : Source) (declaration : Declaration) (name : String) : Symbol :=
  let attributes := Attribute.preceding source declaration.before
  { name
    fullPath := declaration.fullPath name
    visibility := Visibility.classify (visibilityText? source declaration.node)
    file
    span := source.span declaration.node
    kind := if declaration.owner.isSome then .method else .function
    owner := declaration.owner.map (·.name)
    traitName := declaration.owner.bind (·.traitName)
    isTest := Attribute.marksTest attributes
    isForeign := Attribute.marksForeign attributes }

/-- What becomes of a declaration. -/
inductive Outcome where
  | broken (diagnostic : Diagnostic)
  | sound (symbol : Symbol)

/-- What becomes of a declaration by itself, whatever was declared before it. -/
def outcome (file : String) (source : Source) (declaration : Declaration) : Outcome :=
  match enterable? source declaration.node with
  | none => .broken (.skipped file source declaration.node (source.fieldText? declaration.node "name"))
  | some name => .sound (declaration.toSymbol file source name)

end Declaration

/-- The functions of one file. -/
structure FileSymbols where
  symbols : List Symbol := []
  diagnostics : List Diagnostic := []
  deriving Repr

namespace FileSymbols

/-- Adds the outcome of one more declaration. -/
def add (found : FileSymbols) : Declaration.Outcome → FileSymbols
  | .broken diagnostic => { found with diagnostics := found.diagnostics ++ [diagnostic] }
  | .sound symbol =>
    if found.symbols.any (·.fullPath == symbol.fullPath) then found
    else { found with symbols := found.symbols ++ [{ symbol with order := found.symbols.length }] }

/-- A syntax error that no broken function explains is reported for the file as a whole. -/
def close (file : String) (source : Source) (root : Node) (found : FileSymbols) : FileSymbols :=
  if root.hasError && found.diagnostics.isEmpty then
    { found with diagnostics := [.outsideFunctions file source root] }
  else found

/-- The functions of a file. -/
def extract (file : String) (source : Source) (root : Node) : FileSymbols :=
  let outcomes := (declarations file source root).map (·.outcome file source)
  (outcomes.foldl add {}).close file source root

end FileSymbols

end Deadwood
