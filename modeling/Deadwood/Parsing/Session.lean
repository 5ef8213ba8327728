/-
A reading of a text under way.

A `Session` holds the readings of a text so far. The tokens of the text are found
when a reading needs them, because which tokens are looked for depends on its
state.
-/
import Deadwood.Parsing.Stack

namespace Deadwood.Parsing

/-- A contextual token that has been found. -/
structure Contextual where
  /-- Which one, counted among the contextual tokens. -/
  index : Nat
  start : Nat
  stop : Nat
  /-- What is to be remembered for the contextual tokens that follow. -/
  memory : Nat
  deriving Inhabited

/-- A language: its table, and how its contextual tokens are found. `contextual text isWanted memory position`
looks for one that is wanted. -/
structure Language where
  table : Table
  contextual : Letters → (Nat → Bool) → Nat → Nat → Option Contextual

/-- A text that is to be read. -/
structure Job where
  language : Language
  text : Letters

/-- A token that has been found, and what was remembered before it. -/
structure Cached where
  token : Token
  position : Nat
  memory : Option Nat
  deriving Inhabited

/-- The readings of a text, the token that was found last, and the best tree of the whole text. -/
structure Session where
  stack : Stack
  cached : Option Cached
  finished : Option Tree
  /-- How many trees of the whole text have been found. -/
  accepted : Nat

namespace Table

/-- A state by its number. -/
def state (table : Table) (index : Nat) : State :=
  table.states.getD index default

/-- What is done with a token in a state. Text in which no token was found fits nowhere. -/
def entry? (table : Table) (state : Nat) (token : Option Nat) : Option Entry :=
  token.bind fun token => (table.state state).entries.getD token none

/-- The state after a token, or 0 if it is not read. -/
def afterToken (table : Table) (state token : Nat) : Nat :=
  match (table.entry? state (some token)).bind fun entry => entry.actions.getLast? with
  | some (.read target _) => target
  | _ => 0

/-- The state after a phrase, or 0 if it cannot come. -/
def afterPhrase (table : Table) (state phrase : Nat) : Nat :=
  (table.state state).targets.getD phrase 0

/-- All tokens of a text but its end; the word comes first. -/
def tokens (table : Table) : List Nat :=
  table.word :: (List.range table.tokenCount).filter (· != table.word)

end Table

namespace Job

/-- The table of the language. -/
def table (job : Job) : Table :=
  job.language.table

/-! ### Tokens -/

/-- Looks for a token by its characters. -/
def find (job : Job) (search position : Nat) : Found :=
  job.table.automaton.find job.text job.table.endOfText search position

/-- Tells keywords from other words: a keyword counts only where it may come. -/
def tellKeyword (job : Job) (state : Nat) (found : Found) (token : Nat) : Nat × Bool :=
  if token == job.table.word then
    let keyword := job.find job.table.keywordSearch found.start
    match keyword.token with
    | some index =>
      if keyword.stop == found.stop && (job.table.entry? state (some index)).isSome then (index, true)
      else (token, true)
    | none => (token, false)
  else (token, false)

/-- Looks for a contextual token. -/
def findContextual (job : Job) (state position : Nat) (memory : Option Nat) : Option Token :=
  let wanted := (job.table.state state).contextual
  if state == Table.astray || wanted.isEmpty then none
  else
    let first := job.table.lexemeCount
    let isWanted (index : Nat) : Bool := wanted.contains (first + index)
    (job.language.contextual job.text isWanted (memory.getD 0) (job.text.skipMark position)).map fun found =>
      ⟨some (first + found.index), ⟨position, found.start, found.stop⟩, state, some found.memory, false⟩

/-- Passes over text without tokens: answers where it stops. Each attempt to find a token has reached some place; the
next one is made from there, or from the next character. -/
def passOver (job : Job) (search : Nat) : Nat → Nat → Nat → Nat
  | 0, stop, _ => stop
  | fuel + 1, stop, reached =>
    if reached == stop && job.text.size ≤ reached then stop
    else
      let stop := if reached == stop then reached + 1 else reached
      let found := job.find search stop
      if found.token.isSome then stop else passOver job search fuel stop found.reached

/-- The next token for a reading in some state. Where no token fits, any token will do; where there is none at all,
text is passed over. -/
def findToken (job : Job) (state position : Nat) (memory : Option Nat) : Token :=
  match job.findContextual state position memory with
  | some token => token
  | none =>
    let own := job.find (job.table.state state).search position
    let anySearch := (job.table.state Table.astray).search
    let found := if own.token.isSome then own else job.find anySearch position
    match found.token with
    | some token =>
      let (token, keyword) := job.tellKeyword state found token
      ⟨some token, ⟨position, found.start, found.stop⟩, state, none, keyword⟩
    | none =>
      let stop := job.passOver anySearch (job.text.size + 1) found.start found.reached
      ⟨none, ⟨position, found.start, stop⟩, state, none, false⟩

/-- Whether a token that was found in some state would also be found in another one. -/
def canReuse (job : Job) (state : Nat) (token : Token) (entry : Option Entry) : Bool :=
  let here := job.table.state state
  let there := job.table.state token.state
  if here.endsExtra then false
  else match entry with
    | none => false
    | some entry =>
      let sameSearch := here.search == there.search && here.contextual == there.contextual
      let sure := token.token != some job.table.word || (!token.keyword && token.state == state)
      if sameSearch && sure then true
      else if token.extent.start == token.extent.stop && token.token != some job.table.endOfText then false
      else here.contextual.isEmpty && entry.reusable

/-! ### Trees -/

/-- The tree of a token. -/
def leaf (job : Job) (token : Token) : Tree :=
  Tree.ofToken job.table token

/-- The tree with the given parts. -/
def tree (job : Job) (kind : TreeKind) (shape position : Nat) (parts : List Tree) : Tree :=
  Tree.ofParts job.table job.text kind shape position parts

end Job

namespace Session

/-- Changes the stack. -/
def modifyStack (change : Stack → Stack) : StateM Session Unit :=
  modify fun session => { session with stack := change session.stack }

/-- Reads the stack. -/
def readStack {α : Type} (read : Stack → α) : StateM Session α := do
  return read (← get).stack

/-- Reads and changes the stack. -/
def runStack {α : Type} (run : Stack → α × Stack) : StateM Session α :=
  modifyGet fun session =>
    let (result, stack) := run session.stack
    (result, { session with stack })

/-- Lets a reading go on over a tree to a state. -/
def push (index : Nat) (tree : Tree) (state : Nat) : StateM Session Unit :=
  modifyStack fun stack => stack.push index (some tree) state

/-- Merges a reading into the first of several others with which that is possible; answers whether it was. -/
def mergeInto (others : List Nat) (index : Nat) : StateM Session Bool :=
  runStack fun stack =>
    match stack.mergeTarget? others index with
    | some other => (true, stack.merge other index)
    | none => (false, stack)

/-- How well a reading does. -/
def standing (index : Nat) : StateM Session Stack.Standing :=
  runStack fun stack =>
    let stack := stack.noteCount index
    (stack.standing index, stack)

/-- How many readings go on side by side. -/
def headLimit : Nat := 6

/-- How many more there may be for a moment. -/
def overflow : Nat := 4

end Session

namespace Job

open Session

/-- Whether another reading makes it pointless for one to go on at a given cost. -/
def isOutdone (index cost : Nat) : StateM Session Bool := do
  let session ← get
  match session.finished with
  | some tree => if tree.info.cost ≤ cost then return true
  | none => pure ()
  let position := (session.stack.top index).position
  modifyStack (·.noteCount index)
  let own : Stack.Standing := ⟨cost, ← readStack (·.countSinceFault index), false⟩
  let others := (List.range session.stack.heads.size).filter fun other =>
    other != index && (session.stack.head other).status.isActive && position ≤ (session.stack.top other).position
  for other in others do
    match own.compare (← standing other) with
    | .takeSecond => return true
    | .preferSecond => if ← readStack (·.canMerge other index) then return true
    | _ => pure ()
  return false

/-- Of several rows of trees, the phrase that is the best reading of them, and the trees after it that may stand
anywhere. -/
def bestPhrase (job : Job) (reduction : Reduction) (position : Nat) (rows : List (List Tree)) : Tree × List Tree :=
  let made := rows.map fun row =>
    let (parts, extras) := Tree.splitExtras row
    (job.tree (.phrase reduction.phrase) reduction.shape position parts, extras)
  match made with
  | [] => (job.tree (.phrase reduction.phrase) reduction.shape position [], [])
  | first :: others => others.foldl (fun best next => if best.1.yieldsTo job.table next.1 then next else best) first

/-- Makes a phrase in the new reading with a given number. Answers whether the reading has gone, because it was merged
into another one or because there are too many. -/
def reduceHead (job : Job) (index new : Nat) (reduction : Reduction) (endsExtra : Bool) (haltedCount : Nat)
    (rows : List (List Tree)) : StateM Session Bool := do
  if headLimit + overflow + haltedCount < new then
    modifyStack (·.removeHead new)
    return true
  let top ← readStack (·.top new)
  let (phrase, extras) := job.bestPhrase reduction top.position rows
  let next := job.table.afterPhrase top.state reduction.phrase
  push new (if endsExtra && next == top.state then phrase.asExtra else phrase) next
  for extra in extras do
    push new extra next
  mergeInto ((List.range new).filter (· != index)) new

/-- Makes a phrase out of the last trees of a reading. Answers the number of the first new reading, if any is
left. -/
def reduce (job : Job) (index : Nat) (reduction : Reduction) (endsExtra : Bool) : StateM Session (Option Nat) := do
  let first ← readStack (·.heads.size)
  let slices ← runStack (·.pop index reduction.size)
  let haltedCount ← readStack fun stack => stack.heads.countP (·.status.isHalted)
  let mut new := first
  for (_, rows) in slices do
    let gone ← job.reduceHead index new reduction endsExtra haltedCount rows
    unless gone do
      new := new + 1
  return if first < (← readStack (·.heads.size)) then some first else none

/-- The tree of the whole text: the last tree that cannot stand anywhere takes in all others. -/
def wholeTree? (job : Job) (row : List Tree) : Option Tree :=
  let (others, extras) := Tree.splitExtras row
  match others.getLast? with
  | some tree =>
    some (job.tree tree.info.kind tree.info.shape 0 (others.dropLast ++ tree.parts ++ extras))
  | none => none

/-- Ends a reading with the whole text. -/
def accept (job : Job) (index : Nat) (token : Token) : StateM Session Unit := do
  push index (job.leaf token) Table.start
  let rows ← readStack (·.rows index)
  for row in rows do
    match job.wholeTree? row with
    | some tree =>
      modify fun session =>
        let finished := match session.finished with
          | some best => if best.yieldsTo job.table tree then tree else best
          | none => tree
        { session with finished := some finished, accepted := session.accepted + 1 }
    | none => pure ()
  modifyStack (·.halt index)

end Job

end Deadwood.Parsing
