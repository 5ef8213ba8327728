/-
Trees that a reading builds.

A tree keeps the hidden phrases, so that readings of the same text can be
compared; `Tree.render` leaves them out. Each tree knows its cost, which says how
much text had to be passed over or supplied to make it.
-/
import Deadwood.Parsing.Letters
import Deadwood.Parsing.Table

namespace Deadwood.Parsing

/-! ### Costs -/

namespace Cost

/-- The cost of each place where a reading went astray. -/
def fault : Nat := 500

/-- The cost of a token that was supplied. -/
def missing : Nat := 110

/-- The cost of each tree that was passed over. -/
def passedTree : Nat := 100

/-- The cost of each byte that was passed over. -/
def passedByte : Nat := 1

/-- The cost of each line that was passed over. -/
def passedLine : Nat := 30

end Cost

namespace Letters

/-- What it costs to pass over the text between two positions. -/
def passingCost (text : Letters) (start stop : Nat) : Nat :=
  Cost.passedByte * (text.offset stop - text.offset start) + Cost.passedLine * (text.line stop - text.line start)

end Letters

/-! ### Tokens -/

/-- Where something stands, in characters. -/
structure Extent where
  /-- Where the blanks before it begin. -/
  before : Nat
  start : Nat
  stop : Nat
  deriving DecidableEq, Inhabited

/-- A token that has been found in a text. -/
structure Token where
  /-- Which token it is, or none for text in which no token was found. -/
  token : Option Nat
  extent : Extent
  /-- The state in which it was looked for. -/
  state : Nat
  /-- For contextual tokens, what is to be remembered for those that follow. -/
  memory : Option Nat
  /-- Whether it begins like a keyword. -/
  keyword : Bool
  deriving Inhabited

/-! ### Trees -/

/-- What a tree stands for. -/
inductive TreeKind where
  | token (index : Nat)
  | phrase (index : Nat)
  /-- Text that does not fit. -/
  | error
  /-- A part of such text. -/
  | passed
  deriving DecidableEq, Inhabited

/-- What is known of a tree. -/
structure TreeInfo where
  kind : TreeKind
  extent : Extent
  /-- The name under which it is shown, unless it is hidden. -/
  label : Option Label
  /-- Whether it may stand anywhere. -/
  extra : Bool
  /-- Whether it stands for a token that the text lacks. -/
  missing : Bool
  cost : Nat
  /-- How many trees below it are shown. -/
  shownBelow : Nat
  /-- How many of these are its direct parts. -/
  shownParts : Nat
  /-- How many parts it has, shown or not. -/
  size : Nat
  shape : Nat
  memory : Option Nat
  deriving Inhabited

/-- A tree with its parts. -/
inductive Tree where
  | mk (info : TreeInfo) (parts : List Tree)
  deriving Inhabited

namespace Tree

/-- What is known of the tree. -/
def info : Tree → TreeInfo
  | mk info _ => info

/-- The parts of the tree. -/
def parts : Tree → List Tree
  | mk _ parts => parts

/-- How many shown trees there are in the tree, itself included. -/
def count (tree : Tree) : Nat :=
  tree.info.shownBelow + (if tree.info.label.isSome then 1 else 0) + (if tree.info.kind == .passed then 1 else 0)

/-- The same tree, marked as one that may stand anywhere. -/
def asExtra : Tree → Tree
  | mk info parts => mk { info with extra := true } parts

/-- Takes the trees that may stand anywhere off the end of a list. -/
def splitExtras (trees : List Tree) : List Tree × List Tree :=
  let (extras, others) := trees.reverse.span (·.info.extra)
  (others.reverse, extras.reverse)

/-- Whether two trees may stand for each other: if neither is free of faults, one is as good as the other. -/
def resembles (first second : Tree) : Bool :=
  let left := first.info
  let right := second.info
  let same (measure : Extent → Nat) : Bool := measure left.extent == measure right.extent
  left.kind == right.kind
    && (0 < left.cost && 0 < right.cost
      || same (·.before) && same (·.start) && same (·.stop)
        && left.size == right.size && left.extra == right.extra && left.memory == right.memory)

end Tree

/-! ### Names -/

namespace Table

/-- The name of what does not fit. -/
def errorLabel : Label := ⟨"ERROR", true⟩

/-- The name under which a kind of tree is shown. -/
def labelOfKind (table : Table) : TreeKind → Option Label
  | .token index => table.tokenLabels.getD index none
  | .phrase index => table.phraseLabels.getD index none
  | .error => some errorLabel
  | .passed => none

/-- A number by which kinds are ordered: the end of the text, the word, other tokens, phrases, faults. -/
def rank (table : Table) : TreeKind → Nat
  | .token index =>
    if index == table.endOfText then 0 else if index == table.word then 1
    else if index < table.word then index + 2 else index + 1
  | .phrase index => table.tokenCount + 1 + index
  | .passed => table.tokenCount + 1 + table.phraseLabels.size
  | .error => table.tokenCount + 2 + table.phraseLabels.size

end Table

namespace Tree

/-- The tree of a token. -/
def ofToken (table : Table) (token : Token) : Tree :=
  let kind := match token.token with
    | some index => TreeKind.token index
    | none => .error
  mk {
    kind
    extent := token.extent
    label := table.labelOfKind kind
    extra := token.token == some table.endOfText
    missing := false
    cost := 0
    shownBelow := 0
    shownParts := 0
    size := 0
    shape := 0
    memory := token.memory } []

/-- The tree of a token that the text lacks at a position. -/
def ofMissing (table : Table) (index position : Nat) : Tree :=
  mk {
    kind := .token index
    extent := ⟨position, position, position⟩
    label := table.labelOfKind (.token index)
    extra := false
    missing := true
    cost := Cost.missing + Cost.fault
    shownBelow := 0
    shownParts := 0
    size := 0
    shape := 0
    memory := none } []

/-- What the parts of a tree add up to. -/
structure Tally where
  cost : Nat
  shownBelow : Nat
  shownParts : Nat
  size : Nat
  /-- The names of the parts that are still to come. -/
  labels : List (Option Label)

/-- What a part costs that is passed over. -/
def passedCost (part : TreeInfo) : Nat :=
  if part.extra || (part.kind == .error && part.size == 0) then 0
  else if part.label.isSome then Cost.passedTree
  else if 0 < part.size then Cost.passedTree * part.shownParts
  else 0

namespace Tally

/-- Adds a part. In the shape of a tree only parts count that cannot stand anywhere. -/
def add (passed : Bool) (tally : Tally) (tree : Tree) : Tally :=
  let part := tree.info
  let named := !part.extra && (tally.labels.headD none).isSome
  let shown := named || part.label.isSome
  { cost := tally.cost + (if part.kind == .passed then 0 else part.cost) + (if passed then passedCost part else 0)
    shownBelow := tally.shownBelow + part.shownBelow + (if shown then 1 else 0)
    shownParts := tally.shownParts + (if shown then 1 else part.shownParts)
    size := tally.size + 1
    labels := if part.extra then tally.labels else tally.labels.drop 1 }

end Tally

/-- Where the parts of a tree stand together; `position` is the place of a tree without parts. -/
def extentOf (position : Nat) (parts : List Tree) : Extent :=
  match parts.head?, parts.getLast? with
  | some first, some last => { first.info.extent with stop := last.info.extent.stop }
  | _, _ => ⟨position, position, position⟩

/-- The tree with the given parts; `position` is the place of a tree without parts. -/
def ofParts (table : Table) (text : Letters) (kind : TreeKind) (shape position : Nat) (parts : List Tree) : Tree :=
  let passed := kind == .error || kind == .passed
  let labels := (table.shapes.getD shape default).labels
  let tally := parts.foldl (Tally.add passed) ⟨0, 0, 0, 0, labels⟩
  let extent := extentOf position parts
  let cost := if passed then tally.cost + Cost.fault + text.passingCost extent.start extent.stop else tally.cost
  mk {
    kind
    extent
    label := table.labelOfKind kind
    extra := false
    missing := false
    cost
    shownBelow := tally.shownBelow
    shownParts := tally.shownParts
    size := tally.size
    shape
    memory := none } parts

/-! ### Order -/

mutual

/-- Compares trees by their kinds and sizes, from the top to the bottom and from left to right. -/
def order (table : Table) : Tree → Tree → Ordering
  | mk left leftParts, mk right rightParts =>
    (compare (table.rank left.kind) (table.rank right.kind)).then
      ((compare left.size right.size).then (orderParts table leftParts rightParts))

/-- Compares trees in a row. -/
def orderParts (table : Table) : List Tree → List Tree → Ordering
  | [], _ => .eq
  | _, [] => .eq
  | left :: lefts, right :: rights => (order table left right).then (orderParts table lefts rights)

end

/-- Of two readings of the same text, whether the second is the better one. -/
def yieldsTo (table : Table) (first second : Tree) : Bool :=
  if second.info.cost < first.info.cost then true
  else if first.info.cost < second.info.cost then false
  else if 0 < first.info.cost then true
  else first.order table second == .gt

/-! ### What is shown -/

section

variable {α : Type} (make : Label → Nat → Nat → Option String → Bool → List α → α) (table : Table) (text : Letters)

mutual

/-- What is shown of a tree, before what follows it; `label` and `field` are its name and its field in the tree
around it. -/
def renderOnto (label : Option Label) (field : Option String) (after : List α) : Tree → List α
  | mk info parts =>
    let shape := table.shapes.getD info.shape default
    match label.or info.label with
    | some label =>
      make label (text.offset info.extent.start) (text.offset info.extent.stop) field info.missing
        (renderParts shape.labels shape.fields none [] parts) :: after
    | none => renderParts shape.labels shape.fields field after parts

/-- What is shown of the parts of a tree, with their names and fields. `outer` is the field of a hidden tree around
them. -/
def renderParts (labels : List (Option Label)) (fields : List (Option String)) (outer : Option String)
    (after : List α) : List Tree → List α
  | [] => after
  | tree :: rest =>
    if tree.info.extra then renderOnto none none (renderParts labels fields outer after rest) tree
    else
      renderOnto (labels.headD none) ((fields.headD none).or outer)
        (renderParts (labels.drop 1) (fields.drop 1) outer after rest) tree

end

/-- What is shown of a tree. `make` puts a node together from its name, its first byte, the byte after its last one,
its field, whether it is missing in the text, and its parts. -/
def render (tree : Tree) : List α :=
  renderOnto make table text none none [] tree

end

end Tree

end Deadwood.Parsing
