/-
Nodes of YAML: a document without its notation.

`Nodes.ofTokens` reads the tokens of one document. Nodes have numbers, and the
parts of a collection are given by theirs: an alias stands for the node with that
anchor itself, so that a collection may even hold itself.
-/
import Deadwood.Yaml.Tag
import Deadwood.Yaml.Token

namespace Deadwood.Yaml

/-- What a node holds. -/
inductive Content where
  | scalar (text : String)
  | sequence (items : List Nat)
  | mapping (entries : List (Nat × Nat))
  deriving Repr

/-- Whether a node holds entries. -/
def Content.isMapping : Content → Bool
  | mapping _ => true
  | _ => false

/-- A node with its type. -/
structure Node where
  tag : Tag
  content : Content
  deriving Repr

namespace Node

/-- The node of a value that is not written. -/
def absent : Node := ⟨.null, .scalar ""⟩

instance : Inhabited Node := ⟨absent⟩

end Node

/-- The nodes of a document. -/
structure Nodes where
  nodes : Array Node
  /-- The node of the whole document. -/
  root : Nat
  /-- Whether a collection may hold itself. -/
  hasLoops : Bool

/-- What is known while a document is read: the tokens that follow, what the handles of tags stand for, the nodes so
far, and those with anchors. -/
structure Shelf where
  tokens : List Token
  /-- What is wrong behind the tokens. -/
  fault : Option Fault
  handles : List (String × String) := [("!", "!"), ("!!", coreNamespace)]
  nodes : Array Node := #[]
  anchors : List (String × Nat) := []
  /-- The collections that are being read. -/
  opened : List Nat := []
  hasLoops : Bool := false

/-- A reader of tokens. -/
abbrev Compose := StateT Shelf (Except Fault)

namespace Compose

/-- Fails. -/
def fail (problem : Problem) : Compose α :=
  throw (.malformed problem none)

/-- The next token. -/
def peek : Compose Token := do
  let shelf ← get
  match shelf.tokens, shelf.fault with
  | token :: _, _ => return token
  | [], some fault => throw fault
  | [], none => return .streamEnd

/-- Drops the next token. -/
def advance : Compose Unit :=
  modify fun shelf => { shelf with tokens := shelf.tokens.drop 1 }

/-- Drops the next token if it is the given one. -/
def accept (token : Token) : Compose Bool := do
  if (← peek) == token then
    advance
    return true
  else return false

/-- Adds a node; answers its number. -/
def add (node : Node) : Compose Nat :=
  modifyGet fun shelf => (shelf.nodes.size, { shelf with nodes := shelf.nodes.push node })

/-- The node that an alias stands for. -/
def resolveAlias (name : String) : Compose Nat := do
  match (← get).anchors.lookup name with
  | some node =>
    modify fun shelf => { shelf with hasLoops := shelf.hasLoops || shelf.opened.contains node }
    return node
  | none => fail .unknownAlias

/-- Gives a new anchor to a node. -/
def declare (anchor : Option String) (node : Nat) : Compose Unit := do
  match anchor with
  | none => pure ()
  | some name => modify fun shelf => { shelf with anchors := (name, node) :: shelf.anchors }

/-- Refuses an anchor that there is already. -/
def checkAnchor (anchor : Option String) : Compose Unit := do
  match anchor with
  | none => pure ()
  | some name => if ((← get).anchors.lookup name).isSome then fail .repeatedAnchor

/-- A collection whose parts are read after it has its anchor. -/
def collection (anchor : Option String) (tag : Tag) (parts : Compose Content) : Compose Nat := do
  checkAnchor anchor
  let number ← add ⟨tag, .sequence []⟩
  declare anchor number
  let opened := (← get).opened
  modify fun shelf => { shelf with opened := number :: opened }
  let content ← parts
  modify fun shelf => { shelf with opened, nodes := shelf.nodes.set! number ⟨tag, content⟩ }
  return number

/-- An anchor, if it follows. -/
def anchor? : Compose (Option String) := do
  match ← peek with
  | .anchor name =>
    advance
    return some name
  | _ => return none

/-- A tag, if one follows: its handle and the rest of it. -/
def tag? : Compose (Option (Option String × String)) := do
  match ← peek with
  | .tag handle rest =>
    advance
    return some (handle, rest)
  | _ => return none

/-- The full name of a tag. -/
def tagName : Option String × String → Compose String
  | (none, rest) => return rest
  | (some handle, rest) => do
    match (← get).handles.lookup handle with
    | some expansion => return expansion ++ rest
    | none => fail .handle

/-- The anchor and the tag of a node, in either order. -/
def properties : Compose (Option String × Option String) := do
  match ← anchor? with
  | some name =>
    let tag ← tag?
    return (some name, ← tag.mapM tagName)
  | none =>
    let tag ← tag?
    let anchor ← if tag.isSome then anchor? else pure none
    return (anchor, ← tag.mapM tagName)

/-- The type of a collection. -/
def collectionTag (default : Tag) : Option String → Tag
  | none => default
  | some "!" => default
  | some name => .ofName name

/-- The type of a scalar. A plain scalar without a tag, and any scalar with the tag `!`, is judged by its form. -/
def scalarTag (text : String) (plain : Bool) : Option String → Tag
  | none => if plain then Plain.tag text else .text
  | some "!" => Plain.tag text
  | some name => .ofName name

mutual

/-- A node. `block` allows blocks, and `flat` allows a block sequence that is not indented. -/
def node (block flat : Bool) : Nat → Compose Nat
  | 0 => fail .unexpected
  | fuel + 1 => do
    match ← peek with
    | .reference name =>
      advance
      resolveAlias name
    | _ =>
      let (anchor, tag) ← properties
      let sequence := fun (items : Compose (List Nat)) =>
        collection anchor (collectionTag .sequence tag) (return .sequence (← items))
      let mapping := fun (entries : Compose (List (Nat × Nat))) =>
        collection anchor (collectionTag .mapping tag) (return .mapping (← entries))
      let scalar := fun (text : String) (plain : Bool) => do
        checkAnchor anchor
        let number ← add ⟨scalarTag text plain tag, .scalar text⟩
        declare anchor number
        return number
      let next ← peek
      if flat && next == .item then sequence (items true fuel)
      else match next with
        | .scalar text plain =>
          advance
          scalar text plain
        | .sequenceOpen =>
          advance
          sequence (flowItems true fuel)
        | .mappingOpen =>
          advance
          mapping (flowEntries true fuel)
        | .blockSequence =>
          if !block then fail .unexpected
          advance
          sequence (items false fuel)
        | .blockMapping =>
          if !block then fail .unexpected
          advance
          mapping (entries fuel)
        | _ => if anchor.isSome || tag.isSome then scalar "" true else fail .unexpected

/-- A node, unless one of some tokens follows, which means that it is not written. -/
def nodeUnless (ends : List Token) (block flat : Bool) : Nat → Compose Nat
  | 0 => fail .unexpected
  | fuel + 1 => do
    if ends.contains (← peek) then add .absent else node block flat fuel

/-- The value behind a key, if it is written. -/
def valueUnless (ends : List Token) (block flat : Bool) : Nat → Compose Nat
  | 0 => fail .unexpected
  | fuel + 1 => do
    if ← accept .value then nodeUnless ends block flat fuel else add .absent

/-- The items of a block sequence. One that is not indented has no end of its own. -/
def items (flat : Bool) : Nat → Compose (List Nat)
  | 0 => fail .unexpected
  | fuel + 1 => do
    if ← accept .item then
      let item ← nodeUnless (if flat then [.item, .key, .value, .blockEnd] else [.item, .blockEnd]) true false fuel
      return item :: (← items flat fuel)
    else if flat then return []
    else if ← accept .blockEnd then return []
    else fail .unexpected

/-- The entries of a block mapping. -/
def entries : Nat → Compose (List (Nat × Nat))
  | 0 => fail .unexpected
  | fuel + 1 => do
    let ends := [Token.key, Token.value, Token.blockEnd]
    if ← accept .key then
      let key ← nodeUnless ends true true fuel
      let value ← valueUnless ends true true fuel
      return (key, value) :: (← entries fuel)
    else if ← accept .blockEnd then return []
    else fail .unexpected

/-- The items of a sequence in brackets. -/
def flowItems (first : Bool) : Nat → Compose (List Nat)
  | 0 => fail .unexpected
  | fuel + 1 => do
    if ← accept .sequenceClose then return []
    if !first then
      if !(← accept .comma) then fail .unexpected
    if ← accept .key then
      let pair ← collection none .mapping do
        let key ← nodeUnless [.value, .comma, .sequenceClose] false false fuel
        let value ← valueUnless [.comma, .sequenceClose] false false fuel
        return .mapping [(key, value)]
      return pair :: (← flowItems false fuel)
    else if ← accept .sequenceClose then return []
    else
      let item ← node false false fuel
      return item :: (← flowItems false fuel)

/-- The entries of a mapping in braces. -/
def flowEntries (first : Bool) : Nat → Compose (List (Nat × Nat))
  | 0 => fail .unexpected
  | fuel + 1 => do
    if ← accept .mappingClose then return []
    if !first then
      if !(← accept .comma) then fail .unexpected
    if ← accept .key then
      let key ← nodeUnless [.value, .comma, .mappingClose] false false fuel
      let value ← valueUnless [.comma, .mappingClose] false false fuel
      return (key, value) :: (← flowEntries false fuel)
    else if ← accept .mappingClose then return []
    else
      let key ← node false false fuel
      let value ← add .absent
      return (key, value) :: (← flowEntries false fuel)

end

/-- The directives of a document: at most one version, and each handle once. -/
def directives (version : Bool) (handles : List (String × String)) : Nat → Compose Unit
  | 0 => fail .unexpected
  | fuel + 1 => do
    match ← peek with
    | .directive (.version major _) =>
      if version then fail .repeatedDirective
      if major != 1 then fail .version
      advance
      directives true handles fuel
    | .directive (.handle handle expansion) =>
      if (handles.lookup handle).isSome then fail .repeatedDirective
      advance
      directives version ((handle, expansion) :: handles) fuel
    | .directive .other =>
      advance
      directives version handles fuel
    | _ => modify fun shelf => { shelf with handles := handles ++ shelf.handles }

/-- Drops marks for the end of a document. -/
def skipEnds : Nat → Compose Unit
  | 0 => pure ()
  | fuel + 1 => do
    if ← accept .documentEnd then skipEnds fuel

/-- Whether a token stands outside of all documents. -/
def isOutside : Token → Bool
  | .directive _ | .documentStart | .documentEnd | .streamEnd => true
  | _ => false

/-- The only document of a text. A document with a mark for its start may be empty. -/
def document (fuel : Nat) : Compose (Option Nat) := do
  let first ← peek
  if first == .streamEnd then return none
  let root ← do
    if isOutside first && first != .documentEnd then
      directives false [] fuel
      if !(← accept .documentStart) then fail .unexpected
      if isOutside (← peek) then add .absent else node true false fuel
    else node true false fuel
  skipEnds fuel
  if (← peek) == .streamEnd then return some root else fail .severalDocuments

end Compose

/-- The only document that tokens hold, if there is one. -/
def Nodes.ofTokens (tokens : Tokens) : Except Fault (Option Nodes) := do
  let shelf : Shelf := { tokens := tokens.tokens, fault := tokens.fault }
  let (root, shelf) ← (Compose.document (4 * tokens.tokens.length + 4)).run shelf
  return root.map fun root => ⟨shelf.nodes, root, shelf.hasLoops⟩

end Deadwood.Yaml
