/-
Reading a text.

`Job.read` lets all readings of a text go on step by step, so that none of them
gets far ahead of the others, and gives up those that others outdo. It answers
the tree of the whole text.
-/
import Deadwood.Parsing.Recovery

namespace Deadwood.Parsing

namespace Job

open Session

/-- What comes of trying the actions for a token. -/
inductive Attempt where
  /-- The reading has gone on, or come to an end. -/
  | done
  /-- Phrases have been made; the last reading that came of it, if any is left. -/
  | reduced (new : Option Nat)
  /-- Nothing could be done. -/
  | failed

/-- Tries the actions for a token one after the other. Without a token, a phrase ends that may stand anywhere. -/
def act (job : Job) (index : Nat) (token : Option Token) : Attempt → List Action → StateM Session Attempt
  | attempt, [] => return attempt
  | attempt, action :: rest => do
    match action, token with
    | .read _ true, _ => act job index token attempt rest
    | .read state false, some token =>
      push index (job.leaf token) state
      modifyStack fun stack => stack.modifyHead index fun head => { head with memory := token.memory.or head.memory }
      return .done
    | .accept, some token =>
      job.accept index token
      return .done
    | .recover, some token =>
      job.recover index token
      return .done
    | .reduce reduction, _ =>
      let new ← job.reduce index reduction token.isNone
      let last := match attempt with
        | .reduced last => new.or last
        | _ => new
      act job index token (.reduced last) rest
    | _, none => act job index token attempt rest

/-- Looks for the next token of a reading. -/
def newToken (job : Job) (index : Nat) : StateM Session Token := do
  let top ← readStack (·.top index)
  let memory := (← readStack (·.head index)).memory
  let token := job.findToken top.state top.position memory
  modify fun session => { session with cached := some ⟨token, top.position, memory⟩ }
  return token

/-- The next token of a reading: the one that was found last, if it would be found again. -/
def nextToken (job : Job) (index : Nat) : StateM Session Token := do
  let top ← readStack (·.top index)
  let memory := (← readStack (·.head index)).memory
  match (← get).cached with
  | some cached =>
    let entry := job.table.entry? top.state cached.token.token
    if cached.position == top.position && cached.memory == memory && job.canReuse top.state cached.token entry then
      return cached.token
    else job.newToken index
  | none => job.newToken index

/-- A keyword that does not fit, if it fits as a plain word. -/
def asWord? (job : Job) (state : Nat) (token : Token) : Option Token :=
  let word := some job.table.word
  if token.keyword && token.token != word && (job.table.entry? state word).isSome then
    some { token with token := word }
  else none

/-- Goes on with a token until it has been read, or the reading waits or ends. -/
def goOnWith (job : Job) (index : Nat) : Nat → Token → StateM Session Unit
  | 0, _ => modifyStack (·.halt index)
  | fuel + 1, token => do
    let state := (← readStack (·.top index)).state
    let actions := ((job.table.entry? state token.token).map (·.actions)).getD []
    match ← job.act index (some token) .failed actions with
    | .done => return
    | .reduced (some new) =>
      modifyStack (·.replaceHead new index)
      goOnWith job index fuel token
    | .reduced none => modifyStack (·.halt index)
    | .failed =>
      match job.asWord? state token with
      | some word => goOnWith job index fuel word
      | none =>
        modifyStack fun stack =>
          let count := (stack.top index).count
          stack.modifyHead index fun head => { head with status := .paused token, countAtFault := count }

/-- More steps than a reading ever makes with one token. -/
def stepLimit : Nat := 1000000

/-- Makes the phrases that end whatever follows, until there is none. Answers whether the reading goes on. -/
def endExtras (job : Job) (index : Nat) : Nat → StateM Session Bool
  | 0 => return false
  | fuel + 1 => do
    let state := (← readStack (·.top index)).state
    if (job.table.state state).endsExtra then
      let actions := ((job.table.entry? state (some job.table.endOfText)).map (·.actions)).getD []
      match ← job.act index none .failed actions with
      | .reduced (some new) =>
        modifyStack (·.replaceHead new index)
        endExtras job index fuel
      | _ =>
        modifyStack (·.halt index)
        return false
    else return true

/-- Lets a reading go on by one token. -/
def advance (job : Job) (index : Nat) : StateM Session Unit := do
  let state := (← readStack (·.top index)).state
  if (job.table.state state).endsExtra then
    if ← job.endExtras index stepLimit then
      job.goOnWith index stepLimit (← job.newToken index)
  else job.goOnWith index stepLimit (← job.nextToken index)

/-! ### All readings -/

/-- Lets a reading go on until it is ahead of the others. `furthest` is how far any of them has come. -/
def catchUp (job : Job) (index : Nat) : Nat → Nat → StateM Session Nat
  | 0, furthest => return furthest
  | fuel + 1, furthest => do
    if (← readStack (·.head index)).status.isActive then
      job.advance index
      let position := (← readStack (·.top index)).position
      if furthest < position || (0 < index && position == furthest) then return position
      else catchUp job index fuel furthest
    else return furthest

/-- Lets all readings from an index on go on. -/
def catchUpAll (job : Job) : Nat → Nat → Nat → StateM Session Nat
  | 0, _, furthest => return furthest
  | fuel + 1, index, furthest => do
    if index < (← readStack (·.heads.size)) then
      let furthest ← job.catchUp index stepLimit furthest
      catchUpAll job fuel (index + 1) furthest
    else return furthest

/-- Compares a reading with those before it, from an index on, and gives up those that are outdone. Answers its number
afterwards. `standing` is how well it did at first, and `gap` how many are left to be compared with it. -/
def compareWith (standing : Stack.Standing) : Nat → Nat → Nat → StateM Session Nat
  | 0, index, _ => return index
  | gap + 1, index, other => do
    match (← Session.standing other).compare standing with
    | .takeFirst =>
      modifyStack (·.removeHead index)
      return index - 1
    | .preferFirst | .even =>
      if ← mergeInto [other] index then return index - 1
      compareWith standing gap index (other + 1)
    | .preferSecond =>
      if ← mergeInto [other] index then return index - 1
      modifyStack fun stack => { stack with heads := stack.heads.swapIfInBounds index other }
      compareWith standing gap index (other + 1)
    | .takeSecond =>
      modifyStack (·.removeHead other)
      compareWith standing gap (index - 1) other

/-- The lower of two costs, of which the first may be unknown. -/
def lower (known : Option Nat) (cost : Nat) : Option Nat :=
  some (match known with
    | some best => min best cost
    | none => cost)

/-- Compares all readings from an index on with those before them. Answers the lowest cost of a reading that is not
astray. -/
def compareAll : Nat → Nat → Option Nat → StateM Session (Option Nat)
  | 0, _, lowest => return lowest
  | fuel + 1, index, lowest => do
    if (← readStack (·.heads.size)) ≤ index then return lowest
    if (← readStack (·.head index)).status.isHalted then
      modifyStack (·.removeHead index)
      compareAll fuel index lowest
    else
      let standing ← Session.standing index
      let lowest := if standing.lost then lowest else lower lowest standing.cost
      let index ← compareWith standing index index 0
      compareAll fuel (index + 1) lowest

/-- If no reading goes on, lets the first paused one deal with its fault. The other paused ones are given up. Answers
the cost of the reading that was resumed. -/
def resume (job : Job) : Nat → Nat → Bool → Option Nat → StateM Session (Option Nat)
  | 0, _, _, lowest => return lowest
  | count + 1, index, goesOn, lowest => do
    match (← readStack (·.head index)).status with
    | .paused token =>
      if !goesOn && (← get).accepted < headLimit then
        let cost ← readStack (·.costOf index)
        modifyStack fun stack => stack.modifyHead index ({ · with status := .active })
        job.handleFault index token
        resume job count (index + 1) true (some cost)
      else
        modifyStack (·.removeHead index)
        resume job count index goesOn lowest
    | _ => resume job count (index + 1) true lowest

/-- Gives up readings that are outdone. Answers the lowest cost of the others. -/
def condense (job : Job) : StateM Session (Option Nat) := do
  let lowest ← compareAll ((← readStack (·.heads.size)) + 1) 0 none
  modifyStack fun stack => { stack with heads := stack.heads.extract 0 headLimit }
  let count ← readStack (·.heads.size)
  job.resume count 0 false lowest

/-- Reads on until no reading is left that could be better than the best tree found so far. -/
def readOn (job : Job) : Nat → Nat → StateM Session Unit
  | 0, _ => pure ()
  | fuel + 1, furthest => do
    if (← readStack (·.heads.size)) == 0 then return
    let furthest ← job.catchUpAll stepLimit 0 furthest
    let lowest ← job.condense
    let isDone := match (← get).finished, lowest with
      | some tree, some cost => decide (tree.info.cost < cost)
      | some _, none => true
      | none, _ => false
    if isDone then return
    job.readOn fuel furthest

/-- The tree of the whole text. -/
def read (job : Job) : Option Tree :=
  let session : Session := ⟨.start, none, none, 0⟩
  (job.readOn (stepLimit * (job.text.size + 1)) 0 |>.run session).2.finished

end Job

end Deadwood.Parsing
