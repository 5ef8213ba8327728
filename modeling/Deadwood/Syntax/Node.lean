/-
Concrete syntax trees of Rust sources.

A tree keeps every token of the text. Each node has a `Kind`, a range of bytes,
the field it fills in its parent, and two marks: a *named* node is part of the
grammar's vocabulary, an unnamed one is punctuation or a keyword; a *missing*
node stands for a token that the text should have had.

`Kind` names the kinds the analysis looks at; all others are `other`.
-/

namespace Deadwood.Syntax

/-- What a node is. -/
inductive Kind where
  | functionItem | modItem | implItem | traitItem | foreignModItem
  | macroDefinition | macroInvocation | tokenTree
  | attributeItem | attributeContent | visibilityModifier | lineComment | blockComment
  | useDeclaration | useAsClause | scopedUseList | useList | useWildcard
  | callExpression | genericFunction | fieldExpression | fieldIdentifier
  | identifier | typeIdentifier | primitiveType | metavariable
  | selfKeyword | superKeyword | crateKeyword
  | scopedIdentifier | scopedTypeIdentifier
  | genericType | referenceType | pointerType | dynamicType | bracketedType | qualifiedType
  | error
  | other (name : String)
  deriving DecidableEq, Repr, Inhabited

namespace Kind

/-- The kinds with a constructor of their own, each with its name. -/
def table : List (Kind × String) := [
  (functionItem, "function_item"), (modItem, "mod_item"), (implItem, "impl_item"), (traitItem, "trait_item"),
  (foreignModItem, "foreign_mod_item"), (macroDefinition, "macro_definition"),
  (macroInvocation, "macro_invocation"), (tokenTree, "token_tree"), (attributeItem, "attribute_item"),
  (attributeContent, "attribute"), (visibilityModifier, "visibility_modifier"), (lineComment, "line_comment"),
  (blockComment, "block_comment"), (useDeclaration, "use_declaration"), (useAsClause, "use_as_clause"),
  (scopedUseList, "scoped_use_list"), (useList, "use_list"), (useWildcard, "use_wildcard"),
  (callExpression, "call_expression"), (genericFunction, "generic_function"),
  (fieldExpression, "field_expression"), (fieldIdentifier, "field_identifier"), (identifier, "identifier"),
  (typeIdentifier, "type_identifier"), (primitiveType, "primitive_type"), (metavariable, "metavariable"),
  (selfKeyword, "self"), (superKeyword, "super"), (crateKeyword, "crate"),
  (scopedIdentifier, "scoped_identifier"), (scopedTypeIdentifier, "scoped_type_identifier"),
  (genericType, "generic_type"), (referenceType, "reference_type"), (pointerType, "pointer_type"),
  (dynamicType, "dynamic_type"), (bracketedType, "bracketed_type"), (qualifiedType, "qualified_type"),
  (error, "ERROR")]

/-- The name of a kind, as messages show it. -/
def name : Kind → String
  | other name => name
  | kind => ((table.find? fun entry => entry.1 == kind).map (·.2)).getD ""

/-- The kind with a given name. -/
def ofName (name : String) : Kind :=
  ((table.find? fun entry => entry.2 == name).map (·.1)).getD (other name)

end Kind

/-- A node of a syntax tree. -/
inductive Node where
  | mk (kind : Kind) (start stop : Nat) (field : Option String) (named missing : Bool) (children : List Node)
  deriving Repr, Inhabited

namespace Node

/-- What the node is. -/
def kind : Node → Kind
  | mk kind .. => kind

/-- The position of the node's first byte. -/
def start : Node → Nat
  | mk _ start .. => start

/-- The position after the node's last byte. -/
def stop : Node → Nat
  | mk _ _ stop .. => stop

/-- The field of its parent that the node fills. -/
def field : Node → Option String
  | mk _ _ _ field .. => field

/-- Whether the node belongs to the grammar's vocabulary. -/
def named : Node → Bool
  | mk _ _ _ _ named .. => named

/-- Whether the node stands for a token that the text lacks. -/
def missing : Node → Bool
  | mk _ _ _ _ _ missing _ => missing

/-- The parts of the node, in order. -/
def children : Node → List Node
  | mk _ _ _ _ _ _ children => children

/-- The named parts of the node, in order. -/
def namedChildren (node : Node) : List Node :=
  node.children.filter (·.named)

/-- The first part of the node that fills a field. -/
def child? (node : Node) (field : String) : Option Node :=
  node.children.find? fun child => child.field == some field

/-- Whether the node itself marks a syntax error. -/
def isFault (node : Node) : Bool :=
  node.kind == .error || node.missing

mutual

/-- Whether a syntax error lies in the node. -/
def hasError : Node → Bool
  | node@(mk _ _ _ _ _ _ children) => node.isFault || anyError children

/-- Whether a syntax error lies in one of the nodes. -/
def anyError : List Node → Bool
  | [] => false
  | node :: rest => node.hasError || anyError rest

end

mutual

/-- How many nodes a tree has. -/
def size : Node → Nat
  | mk _ _ _ _ _ _ children => sizeAmong children + 1

/-- How many nodes several trees have. -/
def sizeAmong : List Node → Nat
  | [] => 0
  | node :: rest => node.size + sizeAmong rest

end

theorem size_eq (node : Node) : node.size = sizeAmong node.children + 1 := by
  cases node
  rw [size, children]

theorem sizeAmong_append (nodes more : List Node) : sizeAmong (nodes ++ more) = sizeAmong nodes + sizeAmong more := by
  induction nodes with
  | nil => simp [sizeAmong]
  | cons node rest ih =>
    rw [List.cons_append, sizeAmong, sizeAmong, ih]
    omega

/-- A stack with nodes put on it one after the other, so that the last of them is on top. -/
def pushAll (stack nodes : List Node) : List Node :=
  nodes.foldl (fun stack node => node :: stack) stack

theorem pushAll_reverse (stack nodes : List Node) : pushAll stack nodes.reverse = nodes ++ stack := by
  rw [pushAll, List.foldl_reverse]
  induction nodes with
  | nil => rfl
  | cons node rest ih => rw [List.foldr_cons, ih, List.cons_append]

/-- The first fault in a stack of nodes. A node that is none but has an error gives way to its parts, the first of
them on top; nodes without an error are not searched. -/
def searchFault? (stack : List Node) : Option Node :=
  match stack with
  | [] => none
  | node :: rest =>
    if node.isFault then some node
    else if node.hasError then searchFault? (pushAll rest node.children.reverse)
    else searchFault? rest
termination_by sizeAmong stack
decreasing_by
  · have := size_eq node
    rw [pushAll_reverse, sizeAmong_append, sizeAmong]
    omega
  · have := size_eq node
    rw [sizeAmong]
    omega

/-- The first node, parents before their parts, that marks a syntax error. -/
def firstFault? (node : Node) : Option Node :=
  if node.hasError then searchFault? [node] else none

end Node

end Deadwood.Syntax
