/-
Parse tables.

A table says in each state of a reading which tokens may come and what is done
with them. `Table.build` makes the table of a grammar: situations are surveyed
and merged into states, states that look for compatible tokens share a search,
and state 0 is added, in which a reading that has gone astray passes over text.
-/
import Deadwood.Parsing.Automaton
import Deadwood.Parsing.Merge
import Deadwood.Parsing.Vocabulary

namespace Deadwood.Parsing

/-- What a reading does with a token. -/
inductive Action where
  /-- Reads it and goes to a state. Inside a repetition (`again`) this follows only after a reduction. -/
  | read (state : Nat) (again : Bool)
  /-- Makes a phrase and looks at the token again. -/
  | reduce (reduction : Reduction)
  /-- Ends with the whole text. -/
  | accept
  /-- Passes over it, or finds a way back. -/
  | recover
  deriving DecidableEq, Inhabited

/-- What is done with a token in a state. -/
structure Entry where
  actions : List Action
  /-- Whether the token may have been found in another state. -/
  reusable : Bool
  deriving Inhabited

/-- A state of a reading. -/
structure State where
  /-- What is done with each token. -/
  entries : Array (Option Entry)
  /-- The states after phrases, 0 if a phrase cannot come. -/
  targets : Array Nat
  /-- Whether a phrase ends here that may stand anywhere; whatever follows, it is reduced. -/
  endsExtra : Bool
  /-- The search for the next token. -/
  search : Nat
  /-- The contextual tokens that may come. -/
  contextual : BitSet
  deriving Inhabited

/-- A parse table. -/
structure Table where
  states : Array State
  shapes : Array Shape
  automaton : Automaton
  /-- The search that tells keywords from other words. -/
  keywordSearch : Nat
  /-- The token that keywords are spellings of. -/
  word : Nat
  /-- The names under which tokens and phrases are shown, unless they are hidden. -/
  tokenLabels : Array (Option Label)
  phraseLabels : Array (Option Label)
  /-- How many of the tokens are recognised by their characters. -/
  lexemeCount : Nat

namespace Table

/-- How many tokens there are, the end of the text not counted. -/
def tokenCount (table : Table) : Nat :=
  table.tokenLabels.size

/-- The token that stands for the end of the text. -/
def endOfText (table : Table) : Nat :=
  table.tokenCount

/-- The state of a reading that has gone astray. -/
def astray : Nat := 0

/-- The state before the text. -/
def start : Nat := 1

end Table

/-! ### Candidates -/

/-- A situation with what is done in it. -/
structure Outcome where
  choices : List (Choice × BitSet)
  read : BitSet
  tokens : BitSet
  deriving Inhabited

namespace Survey

/-- What is done in a situation, given the first tokens of the phrases that may stand anywhere. They may come
wherever such a phrase does not itself end. -/
def outcome (survey : Survey) (grammar : NormalGrammar) (extras : BitSet) (situation : Situation) : Outcome :=
  let plan := survey.plans.getD situation.core default
  let choices := plan.choices (fun phrase => (grammar.phrase phrase).repeats) situation.follow
  let chosen := choices.foldl (fun all (_, tokens) => all.union tokens) BitSet.empty
  let ends := chosen.contains grammar.endOfExtra
  { choices
    read := plan.readable.diff chosen
    tokens := plan.readable.union chosen |>.union (if ends then .empty else extras) }

/-- The targets of a situation after tokens that are read. -/
def tokenTargets (survey : Survey) (situation : Situation) (outcome : Outcome) : Array Nat :=
  let plan := survey.plans.getD situation.core default
  let unread := outcome.choices.foldl (fun all (choice, tokens) =>
    if choice.reading == .no then all.union tokens else all) BitSet.empty
  (plan.moves.zip situation.targets).filterMap fun (move, target) =>
    match move.symbol with
    | .token token => some (if unread.contains token then 0 else target)
    | .phrase _ => none

/-- The targets of a situation after phrases. -/
def phraseTargets (survey : Survey) (situation : Situation) : Array Nat :=
  let plan := survey.plans.getD situation.core default
  (plan.moves.zip situation.targets).filterMap fun (move, target) =>
    match move.symbol with
    | .token _ => none
    | .phrase _ => some target

end Survey

/-- For sets of tokens, those that must not be looked for beside them. Each set is worked out once. -/
def unwelcomeBeside (rivals : Array BitSet) (always : BitSet) (sets : List BitSet) : Std.HashMap BitSet BitSet :=
  sets.foldl (fun known tokens =>
    known.insert tokens (always.union (tokens.unionOver fun token => rivals.getD token .empty))) ∅

/-! ### States -/

/-- A state by its tokens and targets, before entries are made. -/
structure Sketch where
  choices : List (Choice × BitSet)
  read : BitSet
  tokens : BitSet
  /-- The states after tokens and phrases. -/
  tokenTargets : List (Nat × Nat)
  phraseTargets : List (Nat × Nat)
  deriving Inhabited

namespace Sketch

/-- How much there is to be known of a state. -/
def weight (extraCount : Nat) (endOfExtra : Nat) (sketch : Sketch) : Nat :=
  let extras := if sketch.tokens.contains endOfExtra then 0 else extraCount
  sketch.tokens.toList.length + sketch.phraseTargets.length + extras

/-- The same state when all states have new numbers. -/
def renumber (numbers : Array Nat) (sketch : Sketch) : Sketch :=
  let number := fun ((symbol, state) : Nat × Nat) => (symbol, numbers.getD state 0)
  { sketch with
    tokenTargets := sketch.tokenTargets.map number
    phraseTargets := sketch.phraseTargets.map number }

end Sketch

/-- Takes the targets apart into those after tokens and those after phrases. -/
def splitTargets (moves : List (Symbol × Nat)) : List (Nat × Nat) × List (Nat × Nat) :=
  (moves.filterMap fun (symbol, target) => match symbol with
      | .token token => some (token, target)
      | .phrase _ => none,
    moves.filterMap fun (symbol, target) => match symbol with
      | .token _ => none
      | .phrase phrase => some (phrase, target))

namespace Survey

/-- The state of a group of situations. -/
def sketch (survey : Survey) (outcomes : Array Outcome) (groupOf : Array Nat) (extras : List (Nat × Nat))
    (endOfExtra : Nat) (members : List Nat) : Sketch :=
  let first := survey.situations.getD (members.headD 0) default
  let plan := survey.plans.getD first.core default
  let moves := (plan.moves.zip first.targets).toList.map fun (move, target) => (move.symbol, groupOf.getD target 0)
  let (tokenTargets, phraseTargets) := splitTargets moves
  let all := members.map fun member => outcomes.getD member default
  let choices := all.foldl (fun known (outcome : Outcome) =>
    outcome.choices.foldl (fun known (choice, tokens) => addChoice choice tokens known) known) []
  let tokens := all.foldl (fun known (outcome : Outcome) => known.union outcome.tokens) BitSet.empty
  let outside := if tokens.contains endOfExtra then [] else
    extras.filterMap fun (token, situation) =>
      if plan.readable.contains token then none else some (token, groupOf.getD situation 0)
  { choices, tokens, phraseTargets
    read := (all.headD default).read.union (BitSet.ofList (outside.map (·.1)))
    tokenTargets := tokenTargets ++ outside }

end Survey

/-- The actions for a choice; `target` is the state after the token. -/
def Choice.actions (wholeText target : Nat) (choice : Choice) : List Action :=
  let reductions := choice.reductions.map fun reduction =>
    if reduction.phrase == wholeText then .accept else .reduce reduction
  match choice.reading with
  | .no => reductions
  | .yes => reductions ++ [.read target false]
  | .again => reductions ++ [.read target true]

/-! ### Searches -/

/-- Tokens that are looked for together. -/
structure Search where
  sought : Sought
  /-- The tokens that must not be looked for beside them. -/
  unwelcome : BitSet
  deriving Inhabited

namespace Search

/-- Whether two searches may be made at once. -/
def fits (first second : Search) : Bool :=
  !(first.sought.tokens.diff second.sought.tokens).meets second.unwelcome
    && !(second.sought.tokens.diff first.sought.tokens).meets first.unwelcome

/-- Two searches at once. -/
def join (first second : Search) : Search where
  sought := ⟨first.sought.tokens.union second.sought.tokens, first.sought.mayEnd || second.sought.mayEnd⟩
  unwelcome := first.unwelcome.union second.unwelcome

/-- Joins a search with the first one that it fits; also answers the number of that one. -/
def add (search : Search) : List Search → List Search × Nat
  | [] => ([search], 0)
  | other :: rest =>
    if other.fits search then (other.join search :: rest, 0)
    else
      let (rest, index) := search.add rest
      (other :: rest, index + 1)

end Search

namespace Vocabulary

/-- Whether looking for a token beside another one could cut one of them short, or keep it from being found. -/
def disturbs (vocabulary : Vocabulary) (first second : Nat) : Bool :=
  let forth := vocabulary.overlaps.get first second
  forth.conflicts || forth.stops
    || (!vocabulary.together first second && (forth.goesOn || (vocabulary.overlaps.get second first).goesOn))

/-- The searches of all states, and for each state the number of its search. -/
def searches (vocabulary : Vocabulary) (states : List Sought) : List Search × Array Nat :=
  let tokens := List.range vocabulary.size
  let disturbing := (tokens.map fun second =>
    BitSet.ofList (tokens.filter fun first => vocabulary.disturbs first second)).toArray
  states.foldl (fun (searches, numbers) sought =>
    let unwelcome := sought.tokens.unionOver fun token => disturbing.getD token .empty
    let (searches, number) := Search.add ⟨sought, unwelcome⟩ searches
    (searches, numbers.push number)) ([], #[])

end Vocabulary

namespace Table

/-- The states that are entered from others, and the first two: those with the most tokens and phrases come
first. -/
def arrange (grammar : NormalGrammar) (sketches : Array Sketch) : Array Sketch :=
  let used := sketches.foldl (fun used sketch =>
    (sketch.tokenTargets ++ sketch.phraseTargets).foldl (fun used (_, target) => used.set! target true) used)
    ((Array.replicate sketches.size false).set! astray true |>.set! start true)
  let weights := sketches.map (Sketch.weight grammar.extras.length grammar.endOfExtra)
  let others := (List.range sketches.size).filter fun index => used.getD index false && start < index
  let order := [astray, start] ++ others.mergeSort fun left right => weights.getD right 0 ≤ weights.getD left 0
  let numbers := order.zipIdx.foldl (fun numbers (old, new) => numbers.set! old new)
    (Array.replicate sketches.size 0)
  (order.map fun index => (sketches.getD index default).renumber numbers).toArray

/-- Brings the groups of the first two situations to the front. -/
def bringForward (grouping : Grouping) : Grouping :=
  let swap (grouping : Grouping) (situation : Nat) : Grouping :=
    let group := grouping.groupOf.getD situation 0
    let groups := grouping.groups
    let moved := (groups.set! group (groups.getD situation [])).set! situation (groups.getD group [])
    { groups := moved
      groupOf := grouping.groupOf.map fun index =>
        if index == group then situation else if index == situation then group else index }
  swap (swap grouping astray) start

/-- The tokens of the state of a reading that has gone astray. -/
def strayTokens (vocabulary : Vocabulary) (grammar : NormalGrammar) : BitSet :=
  BitSet.ofList (vocabulary.stray ++ (List.range grammar.tokenCount).drop vocabulary.size ++ [grammar.endOfText])

/-- The state of a sketch. -/
def makeState (grammar : NormalGrammar) (vocabulary : Vocabulary) (goesOn : Array BitSet) (index search : Nat)
    (sketch : Sketch) : State :=
  let count := grammar.tokenCount
  let lexemes := sketch.tokens.inter (.below vocabulary.size)
  let reusable (token : Nat) : Bool := !(goesOn.getD token .empty).meets lexemes
  let targets := sketch.tokenTargets.foldl (fun targets (token, state) => targets.set! token state)
    (Array.replicate (count + 1) 0)
  let endsExtra := sketch.tokens.contains grammar.endOfExtra
  let add (entries : Array (Option Entry)) (choice : Choice) (tokens : BitSet) : Array (Option Entry) :=
    tokens.toList.foldl (fun entries token =>
      let place := min token count
      let actions := choice.actions grammar.phrases.size (targets.getD token 0)
      entries.set! place (some ⟨actions, reusable token⟩)) entries
  let entries := Array.replicate (count + 1) none
  let entries := if index == astray then
      (strayTokens vocabulary grammar).toList.foldl (fun entries token =>
        entries.set! token (some ⟨[.recover], false⟩)) entries
    else entries
  let entries := add entries .read sketch.read
  let entries := sketch.choices.foldl (fun entries (choice, tokens) => add entries choice tokens) entries
  let phraseTargets := sketch.phraseTargets.foldl (fun targets (phrase, state) => targets.set! phrase state)
    (Array.replicate grammar.phrases.size 0)
  let phraseTargets := if endsExtra then phraseTargets else
    grammar.extras.foldl (fun targets phrase => targets.set! phrase index) phraseTargets
  { entries
    targets := phraseTargets
    endsExtra
    search
    contextual := (if index == astray then strayTokens vocabulary grammar else sketch.tokens).inter
      ((BitSet.below count).diff (.below vocabulary.size)) }

/-- The name of a token or a phrase, which its usual name replaces. -/
def labelOf (grammar : NormalGrammar) (symbol : Symbol) (own : Option Label) : Option Label :=
  (usualLabel? grammar.usualLabels symbol).or own

/-- The table of a grammar. -/
def build (grammar : Grammar) : Table :=
  let grammar := grammar.normalise
  let outline := Outline.ofGrammar grammar
  let (survey, extras) := Survey.explore outline
  let extraTokens := BitSet.ofList (extras.map (·.1))
  let outcomes := survey.situations.map (survey.outcome grammar extraTokens)
  let places := outcomes.foldl (fun known outcome => known.insert outcome.tokens ()) (∅ : Std.HashMap BitSet Unit)
  let places := places.toList.map (·.1)
  let lexemes := BitSet.below grammar.lexemes.size
  let vocabulary := Vocabulary.ofPlaces outline (places.map (·.inter lexemes))
  let always := (BitSet.below grammar.tokenCount).diff lexemes |>.insert grammar.endOfExtra
  let unwelcome := unwelcomeBeside vocabulary.rivals always places
  let candidates := (survey.situations.zip outcomes).map fun (situation, outcome) =>
    { core := situation.core
      choices := outcome.choices
      read := outcome.read
      tokens := outcome.tokens
      unwelcome := unwelcome.getD outcome.tokens always
      tokenTargets := survey.tokenTargets situation outcome
      phraseTargets := survey.phraseTargets situation : Candidate }
  let grouping := bringForward (Grouping.ofCandidates candidates)
  let sketches := grouping.groups.map (survey.sketch outcomes grouping.groupOf extras grammar.endOfExtra)
  let sketches := arrange grammar sketches
  let sought := sketches.toList.zipIdx.map fun (sketch, index) =>
    let tokens := if index == astray then sketch.tokens.union (strayTokens vocabulary grammar) else sketch.tokens
    (⟨vocabulary.soughtFor tokens, tokens.contains grammar.endOfText⟩ : Sought)
  let (searches, searchOf) := vocabulary.searches sought
  let goesOn := (Array.range vocabulary.size).map (vocabulary.overlaps.select (·.goesOn))
  { states := sketches.mapIdx fun index sketch =>
      makeState grammar vocabulary goesOn index (searchOf.getD index 0) sketch
    shapes := survey.shapes
    automaton := Automaton.build vocabulary.lexicon (searches.map (·.sought) ++ [⟨vocabulary.keywords, false⟩])
    keywordSearch := searches.length
    word := grammar.word
    tokenLabels := grammar.tokenLabels.mapIdx fun index label => labelOf grammar (.token index) label
    phraseLabels := grammar.phrases.mapIdx fun index phrase =>
      labelOf grammar (.phrase index) (if phrase.role == .shown then some ⟨phrase.name, true⟩ else none)
    lexemeCount := vocabulary.size }

end Table

end Deadwood.Parsing
