/-
Readings side by side.

Where a text can be read in several ways, the readings go on next to each other.
They share what they have in common: a `Stack` is a graph in which each node
leads back to the nodes before it by links that carry the trees in between. Its
heads are the places at which the readings stand.
-/
import Deadwood.Parsing.Tree

namespace Deadwood.Parsing

/-- A step back to the node before, over a tree. A link without a tree marks the place where a reading went
astray. -/
structure Link where
  tree : Option Tree
  node : Nat
  deriving Inhabited

/-- A place between two trees. -/
structure StackNode where
  state : Nat
  links : List Link
  position : Nat
  /-- What the trees up to here have cost. -/
  cost : Nat
  /-- How many shown trees there are up to here. -/
  count : Nat
  deriving Inhabited

/-- A state to which a reading that has gone astray could return. -/
structure Return where
  position : Nat
  /-- How many trees would have to be given up. -/
  depth : Nat
  state : Nat
  deriving Inhabited

/-- How a reading goes on. -/
inductive Status where
  | active
  /-- It cannot go on with a token, and waits for others to do better. -/
  | paused (token : Token)
  /-- It has come to an end. -/
  | halted
  deriving Inhabited

namespace Status

/-- Whether a reading can go on. -/
def isActive : Status → Bool
  | active => true
  | _ => false

/-- Whether a reading waits. -/
def isPaused : Status → Bool
  | paused _ => true
  | _ => false

/-- Whether a reading has come to an end. -/
def isHalted : Status → Bool
  | halted => true
  | _ => false

end Status

/-- One of several readings. -/
structure Head where
  node : Nat
  /-- The states to which it could return. -/
  returns : Option (List Return)
  /-- How many trees there were when it last went astray. -/
  countAtFault : Nat
  /-- What the last contextual token left to be remembered. -/
  memory : Option Nat
  status : Status
  deriving Inhabited

/-- The readings of a text. -/
structure Stack where
  nodes : Array StackNode
  heads : Array Head
  deriving Inhabited

namespace Stack

/-- How many links a node may have. -/
def linkLimit : Nat := 8

/-- How many walks back are made side by side. -/
def walkLimit : Nat := 64

/-- How deep a reading that has gone astray looks for a return. -/
def returnDepth : Nat := 16

/-- One reading before the text. -/
def start : Stack where
  nodes := #[⟨Table.start, [], 0, 0, 0⟩]
  heads := #[⟨0, none, 0, none, .active⟩]

/-- A node by its number. -/
def node (stack : Stack) (index : Nat) : StackNode :=
  stack.nodes.getD index default

/-- A reading by its number. -/
def head (stack : Stack) (index : Nat) : Head :=
  stack.heads.getD index default

/-- The node on which a reading stands. -/
def top (stack : Stack) (index : Nat) : StackNode :=
  stack.node (stack.head index).node

/-- Changes a reading. -/
def modifyHead (stack : Stack) (index : Nat) (change : Head → Head) : Stack :=
  { stack with heads := stack.heads.modify index change }

/-- Gives up a reading. -/
def removeHead (stack : Stack) (index : Nat) : Stack :=
  { stack with heads := stack.heads.eraseIdxIfInBounds index }

/-- Adds a reading. -/
def addHead (stack : Stack) (head : Head) : Stack :=
  { stack with heads := stack.heads.push head }

/-- Ends a reading. -/
def halt (stack : Stack) (index : Nat) : Stack :=
  stack.modifyHead index ({ · with status := .halted })

/-- Puts one reading in the place of another. -/
def replaceHead (stack : Stack) (source target : Nat) : Stack :=
  if source == target then stack
  else
    let old := stack.head target
    let new := stack.head source
    let heads := stack.heads.set! target { new with returns := new.returns.or old.returns }
    { stack with heads := heads.eraseIdxIfInBounds source }

/-- Copies a reading. -/
def copyHead (stack : Stack) (index : Nat) : Stack :=
  stack.addHead { stack.head index with returns := none }

/-- Lets a reading go on over a tree to a state. -/
def push (stack : Stack) (index : Nat) (tree : Option Tree) (state : Nat) : Stack :=
  let before := (stack.head index).node
  let old := stack.node before
  let new : StackNode := match tree with
    | some tree => ⟨state, [⟨some tree, before⟩], tree.info.extent.stop, old.cost + tree.info.cost, old.count + tree.count⟩
    | none => ⟨state, [⟨none, before⟩], old.position, old.cost, old.count⟩
  let number := stack.nodes.size
  { nodes := stack.nodes.push new
    heads := stack.heads.modify index fun head =>
      { head with
        node := number
        countAtFault := if tree.isNone then new.count else head.countAtFault } }

/-! ### Merging -/

/-- Whether two links may stand for each other. -/
def sameTree : Option Tree → Option Tree → Bool
  | none, none => true
  | some first, some second => first.resembles second
  | _, _ => false

/-- Whether two nodes may be merged. -/
def alike (first second : StackNode) : Bool :=
  first.state == second.state && first.position == second.position && first.cost == second.cost

/-- Adds a link to a node. If there is one like it already, the nodes behind them are merged. The graph has no
cycles, so `fuel` is at most the number of nodes. -/
def addLink : Nat → Nat → Link → Stack → Stack
  | 0, _, _, stack => stack
  | fuel + 1, self, link, stack =>
    if link.node == self then stack
    else
      let behind := stack.node link.node
      let known := (stack.node self).links.find? fun other =>
        sameTree other.tree link.tree && (other.node == link.node || alike (stack.node other.node) behind)
      match known with
      | some other =>
        if other.node == link.node then stack
        else behind.links.foldl (fun stack link => addLink fuel other.node link stack) stack
      | none =>
        let count := behind.count + (link.tree.map Tree.count).getD 0
        { stack with nodes := stack.nodes.modify self fun node =>
            if node.links.length == linkLimit then node
            else { node with links := node.links ++ [link], count := max node.count count } }

/-- Whether two readings may be merged. -/
def canMerge (stack : Stack) (first second : Nat) : Bool :=
  let left := stack.head first
  let right := stack.head second
  left.status.isActive && right.status.isActive && left.memory == right.memory
    && alike (stack.node left.node) (stack.node right.node)

/-- Merges the second reading into the first. -/
def merge (stack : Stack) (first second : Nat) : Stack :=
  let self := (stack.head first).node
  let links := (stack.top second).links
  let stack := links.foldl (fun stack link => addLink (stack.nodes.size + 1) self link stack) stack
  let merged := stack.node self
  let stack := if merged.state == Table.astray then
      stack.modifyHead first ({ · with countAtFault := merged.count })
    else stack
  stack.removeHead second

/-- The first of several readings into which another one can be merged. -/
def mergeTarget? (stack : Stack) (others : List Nat) (index : Nat) : Option Nat :=
  others.find? fun other => stack.canMerge other index

/-! ### Walking back -/

/-- A walk back from a head: where it stands, the trees it has come by, and how many of them count. -/
structure Walk where
  node : Nat
  trees : List Tree
  count : Nat
  deriving Inhabited

namespace Walk

/-- Goes on over a link. -/
def follow (walk : Walk) (link : Link) : Walk :=
  match link.tree with
  | some tree => ⟨link.node, tree :: walk.trees, if tree.info.extra then walk.count else walk.count + 1⟩
  | none => ⟨link.node, walk.trees, walk.count + 1⟩

end Walk

/-- Walks under way: those that have been led on, those that have branched off, and how many there are. -/
structure Walks where
  ledOn : Array Walk
  branched : Array Walk
  count : Nat

namespace Walks

/-- Leads a walk on over the links of a node: over the first one itself, and over each other one in a new walk, as
long as there are not too many. -/
def lead (walks : Walks) (walk : Walk) : List Link → Walks
  | [] => { walks with count := walks.count - 1 }
  | link :: others =>
    let walks := { walks with ledOn := walks.ledOn.push (walk.follow link) }
    others.foldl (fun walks other =>
      if walkLimit ≤ walks.count then walks
      else { walks with branched := walks.branched.push (walk.follow other), count := walks.count + 1 }) walks

end Walks

/-- Leads all walks back by one step. `visit` sees each of them before and says whether it ends there. -/
def leadAll {σ : Type} (stack : Stack) (visit : σ → Walk → σ × Bool) (seen : σ) (walks : List Walk) : σ × List Walk :=
  let (seen, next) := walks.foldl (fun (seen, (next : Walks)) walk =>
    let (seen, ends) := visit seen walk
    (seen, next.lead walk (if ends then [] else (stack.node walk.node).links)))
    (seen, (⟨#[], #[], walks.length⟩ : Walks))
  (seen, (next.ledOn ++ next.branched).toList)

/-- Walks back until all walks have ended, at most `fuel` steps. -/
def walkBack {σ : Type} (stack : Stack) (visit : σ → Walk → σ × Bool) : Nat → σ → List Walk → σ
  | 0, seen, _ => seen
  | _, seen, [] => seen
  | fuel + 1, seen, walks =>
    let (seen, walks) := stack.leadAll visit seen walks
    stack.walkBack visit fuel seen walks

/-- Walks back from a head. -/
def walkFrom {σ : Type} (stack : Stack) (index : Nat) (visit : σ → Walk → σ × Bool) (seen : σ) : σ :=
  stack.walkBack visit (stack.nodes.size + 1) seen [⟨(stack.head index).node, [], 0⟩]

/-- Where a walk has ended, and the trees it came by, in the order of the text. Walks to the same node are kept
together. -/
abbrev Slice := Nat × List (List Tree)

/-- Adds the end of a walk. -/
def addSlice (walk : Walk) : List Slice → List Slice
  | [] => [(walk.node, [walk.trees])]
  | (node, rows) :: rest =>
    if node == walk.node then (node, rows ++ [walk.trees]) :: rest else (node, rows) :: addSlice walk rest

/-- The ways back over a number of trees. -/
def slices (stack : Stack) (index count : Nat) : List Slice :=
  stack.walkFrom index (fun slices walk =>
    if walk.count == count then (addSlice walk slices, true) else (slices, false)) []

/-- Takes a number of trees off a reading. Each node where that ends becomes a new reading. -/
def pop (stack : Stack) (index count : Nat) : List Slice × Stack :=
  let slices := stack.slices index count
  let old := stack.head index
  let heads := slices.map fun (node, _) => (⟨node, none, old.countAtFault, old.memory, .active⟩ : Head)
  (slices, { stack with heads := stack.heads ++ heads })

/-- The trees of a whole reading, for each way back to the beginning of the text. -/
def rows (stack : Stack) (index : Nat) : List (List Tree) :=
  stack.walkFrom index (fun rows walk =>
    if (stack.node walk.node).links.isEmpty then (rows ++ [walk.trees], true) else (rows, false)) []

/-- Takes text that does not fit off a reading, if that is what it ends with. -/
def popError (stack : Stack) (index : Nat) : Option Tree × Stack :=
  let found := (stack.top index).links.find? fun link =>
    match link.tree with
    | some tree => tree.info.kind == .error
    | none => false
  match found with
  | some link => (link.tree, stack.modifyHead index ({ · with node := link.node, status := .active }))
  | none => (none, stack)

/-- Whether a state is already known at a depth; the newest entries come first. -/
def isKnown (depth state : Nat) (returns : List Return) : Bool :=
  (returns.takeWhile fun entry => depth ≤ entry.depth).any fun entry => entry.depth == depth && entry.state == state

/-- The states to which a reading could return, nearest first. -/
def findReturns (stack : Stack) (index : Nat) : List Return :=
  let found := stack.walkFrom index (fun returns walk =>
    let node := stack.node walk.node
    if returnDepth < walk.count then (returns, true)
    else if isKnown walk.count node.state returns then (returns, false)
    else (⟨node.position, walk.count, node.state⟩ :: returns, false)) ([] : List Return)
  found.reverse

/-- Notes the states to which a reading could return. -/
def noteReturns (stack : Stack) (index : Nat) : Stack :=
  let returns := stack.findReturns index
  stack.modifyHead index ({ · with returns := some returns })

/-! ### Comparing readings -/

/-- What a reading has cost. -/
def costOf (stack : Stack) (index : Nat) : Nat :=
  let head := stack.head index
  let top := stack.node head.node
  let justLost := top.state == Table.astray && (match top.links with
    | link :: _ => link.tree.isNone
    | [] => false)
  top.cost + (if head.status.isPaused || justLost then Cost.fault else 0)

/-- If a reading has given up trees, it cannot have had more of them when it went astray. -/
def noteCount (stack : Stack) (index : Nat) : Stack :=
  let count := (stack.top index).count
  stack.modifyHead index fun head => { head with countAtFault := min head.countAtFault count }

/-- How many trees a reading has made since it went astray. -/
def countSinceFault (stack : Stack) (index : Nat) : Nat :=
  (stack.top index).count - (stack.head index).countAtFault

/-- How well a reading does. -/
structure Standing where
  cost : Nat
  count : Nat
  /-- Whether it is astray. -/
  lost : Bool

/-- How two readings compare. -/
inductive Verdict where
  /-- The first is so much better that the second is given up. -/
  | takeFirst
  | preferFirst
  | even
  | preferSecond
  | takeSecond
  deriving DecidableEq

/-- How much more a reading may cost than another one, for each tree the other one has made. -/
def costTolerance : Nat := 1800

/-- Compares two readings. One that is astray is given up for a cheaper one that is not. -/
def Standing.compare (first second : Standing) : Verdict :=
  if !first.lost && second.lost then if first.cost < second.cost then .takeFirst else .preferFirst
  else if first.lost && !second.lost then if second.cost < first.cost then .takeSecond else .preferSecond
  else if first.cost < second.cost then
    if costTolerance < (second.cost - first.cost) * (1 + first.count) then .takeFirst else .preferFirst
  else if second.cost < first.cost then
    if costTolerance < (first.cost - second.cost) * (1 + second.count) then .takeSecond else .preferSecond
  else .even

/-- How well a reading does. A paused one is about to give up a tree. -/
def standing (stack : Stack) (index : Nat) : Standing :=
  let paused := (stack.head index).status.isPaused
  { cost := stack.costOf index + (if paused then Cost.passedTree else 0)
    count := stack.countSinceFault index
    lost := paused || (stack.top index).state == Table.astray }

end Stack

end Deadwood.Parsing
