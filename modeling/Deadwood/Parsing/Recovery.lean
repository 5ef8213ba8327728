/-
Finding a way on after a fault.

A reading that cannot go on with a token tries three things: it makes all phrases
that could be made with some other token, it supplies a token that the text
lacks, and it returns to a state before the fault in which the token fits, where
the trees since then are passed over. If nothing helps, it passes over the token.
The costs of these ways decide between them.
-/
import Deadwood.Parsing.Session

namespace Deadwood.Parsing

namespace Table

/-- What could be done in a state with one of several tokens: whether one could be read, and the phrases that could be
made. -/
structure Prospect where
  canRead : Bool
  reductions : List Reduction

/-- Adds what could be done by an action. -/
def Prospect.add (prospect : Prospect) : Action → Prospect
  | .read _ again => { prospect with canRead := prospect.canRead || !again }
  | .recover => { prospect with canRead := true }
  | .accept => prospect
  | .reduce reduction =>
    let isKnown := prospect.reductions.any fun other =>
      other.phrase == reduction.phrase && other.size == reduction.size
    if reduction.size == 0 || isKnown then prospect
    else { prospect with reductions := prospect.reductions ++ [reduction] }

/-- What could be done in a state with one of several tokens. -/
def prospect (table : Table) (state : Nat) (tokens : List Nat) : Prospect :=
  tokens.foldl (fun prospect token =>
    match table.entry? state (some token) with
    | some entry => entry.actions.foldl Prospect.add prospect
    | none => prospect) ⟨false, []⟩

/-- Whether a token lets a phrase be made in a state. -/
def reducesOn (table : Table) (state : Nat) (token : Option Nat) : Bool :=
  match table.entry? state token with
  | some ⟨.reduce _ :: _, _⟩ => true
  | _ => false

end Table

namespace Job

open Session

/-- How often a reading is replaced by one in which a phrase has been made. -/
def reductionRounds : Nat := 6

/-- More steps than are ever made in search of phrases. -/
def searchLimit : Nat := 100000

/-- Makes all phrases that could be made in a reading and those that come from it, and answers whether a token can be
read then. With a `token`, only what fits it is kept. `first` is the reading with which the search begins, `known` the
number of those before it, and `index` the one that is looked at. -/
def reduceFrom (job : Job) (first known : Nat) (token : Option Nat) : Nat → Nat → Nat → Bool → StateM Session Bool
  | 0, _, _, canRead => return canRead
  | fuel + 1, round, index, canRead => do
    let count ← readStack (·.heads.size)
    if count ≤ index then return canRead
    if ← mergeInto ((List.range index).drop known) index then
      return ← reduceFrom job first known token fuel (round + 1) index canRead
    let state := (← readStack (·.top index)).state
    let prospect := job.table.prospect state (match token with
      | some token => [token]
      | none => job.table.tokens)
    let mut last := none
    for reduction in prospect.reductions do
      last ← job.reduce index reduction false
    let next := if index == first then count else index + 1
    if prospect.canRead then reduceFrom job first known token fuel (round + 1) next true
    else
      match last with
      | some new =>
        if round < reductionRounds then
          modifyStack (·.replaceHead new index)
          reduceFrom job first known token fuel (round + 1) index canRead
        else
          if token.isSome then modifyStack (·.removeHead index)
          reduceFrom job first known token fuel (round + 1) next canRead
      | none =>
        if token.isSome then modifyStack (·.removeHead index)
        reduceFrom job first known token fuel (round + 1) next canRead

/-- Makes all phrases that could be made in a reading. -/
def reduceAll (job : Job) (index : Nat) (token : Option Nat) : StateM Session Bool := do
  job.reduceFrom index (← readStack (·.heads.size)) token searchLimit 0 index false

/-! ### Returning -/

/-- Lets the new reading with a given number go on in a state to which another one returns: the trees since then do not
fit. Answers whether that is the state it stands in. -/
def returnHead (job : Job) (new state : Nat) (row : List Tree) : StateM Session Bool := do
  let top ← readStack (·.top new)
  if top.state != state then
    modifyStack (·.halt new)
    return false
  let error ← runStack (·.popError new)
  let before := match error with
    | some tree => tree.parts
    | none => []
  let (parts, extras) := Tree.splitExtras (before ++ row)
  unless parts.isEmpty do
    push new (job.tree .error 0 top.position parts).asExtra state
  for extra in extras do
    push new extra state
  return true

/-- Returns to a state before the fault. -/
def returnTo (job : Job) (index depth state : Nat) : StateM Session Bool := do
  let first ← readStack (·.heads.size)
  let slices ← runStack (·.pop index depth)
  let mut success := false
  for ((_, rows), offset) in slices.zipIdx do
    if ← job.returnHead (first + offset) state (rows.headD []) then
      success := true
  return success

/-- Whether another reading stands in a state at a position. -/
def isTaken (stack : Stack) (count state position : Nat) : Bool :=
  (List.range count).any fun index =>
    (stack.top index).state == state && (stack.top index).position == position

/-- Tries the states to which a reading could return, one after the other, for one in which the token fits. -/
def tryReturns (job : Job) (index count position cost : Nat) (hasTrees : Bool) (token : Option Nat) :
    List Return → StateM Session Bool
  | [] => return false
  | entry :: rest => do
    let taken ← readStack fun stack => isTaken stack count entry.state position
    if entry.state == Table.astray || entry.position == position || taken then
      tryReturns job index count position cost hasTrees token rest
    else
      let newCost := cost + entry.depth * Cost.passedTree + job.text.passingCost entry.position position
      if ← isOutdone index newCost then return false
      if (job.table.entry? entry.state token).isSome then
        if ← job.returnTo index (if hasTrees then entry.depth + 1 else entry.depth) entry.state then return true
      tryReturns job index count position cost hasTrees token rest

/-- Removes the readings from an index on that cannot go on. -/
def dropInactive (first : Nat) : StateM Session Unit :=
  modifyStack fun stack =>
    let kept := (stack.heads.extract first stack.heads.size).filter (·.status.isActive)
    { stack with heads := stack.heads.extract 0 first ++ kept }

/-- Passes over a token. What has been passed over before belongs to the same fault. -/
def passToken (job : Job) (index : Nat) (hasTrees : Bool) (token : Token) : StateM Session Unit := do
  let leaf := job.leaf token
  let mut passed := job.tree .passed 0 0 [leaf]
  if hasTrees then
    let first ← readStack (·.heads.size)
    let slices ← runStack (·.pop index 1)
    modifyStack fun stack =>
      { stack with heads := stack.heads.extract 0 (first + 1) }.replaceHead first index
    passed := job.tree .passed 0 0 ((slices.head?.bind (·.2.head?)).getD [] ++ [passed])
  push index passed Table.astray
  modifyStack fun stack => stack.modifyHead index fun head => { head with memory := token.memory.or head.memory }

/-- Whether a token changes what is remembered for the contextual tokens that follow. -/
def changesMemory (token : Token) (memory : Option Nat) : Bool :=
  token.memory.isSome && token.memory != memory

/-- Looks for a way on for a reading that has gone astray. One that has returned to an earlier state does not pass over
the token as well if there are too many readings, or if what is remembered would differ then. -/
def recover (job : Job) (index : Nat) (token : Token) : StateM Session Unit := do
  let count ← readStack (·.heads.size)
  modifyStack (·.noteCount index)
  let stack ← readStack id
  let position := (stack.top index).position
  let hasTrees := 0 < stack.countSinceFault index
  let cost := stack.costOf index
  let returns := if token.token.isNone then [] else (stack.head index).returns.getD []
  let returned ← job.tryReturns index count position cost hasTrees token.token returns
  dropInactive count
  if token.token == some job.table.endOfText then
    push index (job.tree .error 0 position []) Table.start
    job.accept index token
  else if returned && (headLimit < (← readStack (·.heads.size)) || changesMemory token (stack.head index).memory) then
    modifyStack (·.halt index)
  else
    let newCost := cost + Cost.passedTree + job.text.passingCost token.extent.before token.extent.stop
    if ← isOutdone index newCost then modifyStack (·.halt index)
    else job.passToken index hasTrees token

/-! ### Supplying tokens -/

/-- Supplies one of several tokens after which a phrase can be made and the given token fits; answers whether there is
one. -/
def supply (job : Job) (index position : Nat) (token : Option Nat) : List Nat → StateM Session Bool
  | [] => return false
  | missing :: rest => do
    let state := (← readStack (·.top index)).state
    let next := job.table.afterToken state missing
    if next == Table.astray || next == state || !job.table.reducesOn next token then
      job.supply index position token rest
    else
      let copy ← readStack (·.heads.size)
      modifyStack (·.copyHead index)
      push copy (Tree.ofMissing job.table missing position) next
      let fits := if token == some job.table.endOfText then none else token
      if ← job.reduceAll copy fits then return true
      job.supply index position token rest

/-- Marks readings as astray. For the first of them that allows it, a token is supplied. -/
def lose (job : Job) (position : Nat) (token : Option Nat) : List Nat → Bool → StateM Session Unit
  | [], _ => pure ()
  | index :: rest, supplied => do
    let supplied ← if supplied then pure true else job.supply index position token job.table.tokens
    modifyStack fun stack => stack.push index none Table.astray
    job.lose position token rest supplied

/-- Merges the readings from an index on, up to a number of them, into another one. -/
def mergeAll (index first count : Nat) : StateM Session Unit := do
  for _ in List.range count do
    let _ ← mergeInto [index] first

/-- Deals with a token that does not fit. -/
def handleFault (job : Job) (index : Nat) (token : Token) : StateM Session Unit := do
  let before ← readStack (·.heads.size)
  let _ ← job.reduceAll index none
  let after ← readStack (·.heads.size)
  let position := (← readStack (·.top index)).position
  job.lose position token.token (index :: (List.range after).drop before) false
  mergeAll index before (after - before)
  modifyStack (·.noteReturns index)
  job.recover index token

end Job

end Deadwood.Parsing
