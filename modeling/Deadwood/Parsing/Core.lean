/-
Cores: the items at which a reading may stand, without what may follow them.

The tokens that may follow an item come either from the grammar or from the
items with which the core began. A core says which, so that the tokens of the
items after a move can be worked out for each of the situations in which the
same core is reached.
-/
import Deadwood.Parsing.Item

namespace Deadwood.Parsing

/-- Where the tokens come from that may follow an item: some are always the same, others are those of the first
items of the core at the given positions. -/
structure Origin where
  always : BitSet
  inherited : BitSet
  deriving DecidableEq, Inhabited

namespace Origin

/-- No tokens. -/
def none : Origin := ⟨.empty, .empty⟩

/-- The tokens of two origins. -/
def union (first second : Origin) : Origin :=
  ⟨first.always.union second.always, first.inherited.union second.inherited⟩

end Origin

/-- How the beginnings of a phrase lead to another one: the tokens that may follow it there, and whether it may
also stand at the end of the phrase. -/
structure Descent where
  phrase : Nat
  always : BitSet
  ends : Bool
  deriving Inhabited

namespace Outline

/-- The phrases at the beginning of each phrase's productions, with the tokens that follow them, or none if they
stand alone. -/
def leading (outline : Outline) : Array (List (Nat × Option BitSet)) :=
  outline.grammar.phrases.map fun phrase =>
    (phrase.productions.filterMap fun production =>
      match production with
      | ⟨.phrase index, _, _, _, _⟩ :: rest => some (index, rest.head?.map outline.firstOf)
      | _ => none).eraseDups

/-- Adds to what is known of a phrase; answers whether that was new. -/
def learn (known : Array (Option (BitSet × Bool))) (phrase : Nat) (always : BitSet) (ends : Bool) :
    Array (Option (BitSet × Bool)) × Bool :=
  let old := known.getD phrase none
  let new := match old with
    | some (oldAlways, oldEnds) => (oldAlways.union always, oldEnds || ends)
    | none => (always, ends)
  if old == some new then (known, false) else (known.set! phrase (some new), true)

/-- Follows the beginnings of phrases until nothing new is found. -/
def descend (leading : Array (List (Nat × Option BitSet))) :
    Nat → List Nat → Array (Option (BitSet × Bool)) → Array (Option (BitSet × Bool))
  | 0, _, known => known
  | _, [], known => known
  | fuel + 1, phrase :: pending, known =>
    let (always, ends) := (known.getD phrase none).getD (.empty, false)
    let (pending, known) := (leading.getD phrase []).foldl (fun (pending, known) (inner, follow) =>
      let (known, isNew) := match follow with
        | some tokens => learn known inner tokens false
        | none => learn known inner always ends
      (if isNew then inner :: pending else pending, known)) (pending, known)
    descend leading fuel pending known

/-- The phrases that each phrase may begin with, itself included. -/
def descents (outline : Outline) : Array (List Descent) :=
  let leading := outline.leading
  let count := outline.grammar.phrases.size
  (Array.range count).map fun phrase =>
    let start := (Array.replicate count none).set! phrase (some (BitSet.empty, true))
    let known := descend leading (count * count * outline.grammar.tokenCount) [phrase] start
    known.toList.zipIdx.filterMap fun (entry, index) =>
      entry.bind fun (always, ends) =>
        if (outline.grammar.phrase index).role == .inlined then none else some ⟨index, always, ends⟩

end Outline

/-- What the construction of cores looks up again and again. -/
structure Atlas where
  outline : Outline
  descents : Array (List Descent)
  /-- The items at the beginning of each phrase. -/
  beginnings : Array (List Nat)

/-- A move from a core over a token or a phrase: the items it leads to, in increasing order, and where their tokens
come from. -/
structure CoreMove where
  symbol : Symbol
  items : Array Nat
  origins : Array Origin
  deriving Inhabited

/-- A core. -/
structure Core where
  moves : Array CoreMove
  /-- The complete items, and where the tokens come from that may follow them. -/
  complete : List (Nat × Origin)
  /-- For the items under way, the tokens that may come next. -/
  underway : List (Nat × BitSet)
  /-- The tokens that can be read. -/
  readable : BitSet
  deriving Inhabited

namespace Atlas

/-- The atlas of an outline, with the first items. -/
def ofOutline (outline : Outline) : StateM ItemTable Atlas := do
  let beginnings ← (List.range outline.grammar.phrases.size).mapM outline.beginnings
  return ⟨outline, outline.descents, beginnings.toArray⟩

/-- Adds the phrases that an item may go on with. -/
def addDescents (atlas : Atlas) (item : Item) (position : Nat) (known : Array (Option Origin)) :
    Array (Option Origin) :=
  match item.next? with
  | some ⟨.phrase index, _, _, _, _⟩ =>
    let follow : Origin := match item.production[item.place + 1]? with
      | some step => ⟨atlas.outline.firstOf step, .empty⟩
      | none => ⟨.empty, .single position⟩
    (atlas.descents.getD index []).foldl (fun known descent =>
      let origin : Origin := if descent.ends then follow.union ⟨descent.always, .empty⟩ else ⟨descent.always, .empty⟩
      known.modify descent.phrase fun old => some ((old.getD .none).union origin)) known
  | _ => known

/-- All items of a core that begins with the given ones, and where their tokens come from. -/
def close (atlas : Atlas) (first : Array Nat) : StateM ItemTable (List (Nat × Origin)) := do
  let expanded ← first.toList.zipIdx.mapM fun (number, position) => do
    return (← atlas.outline.expand number).map fun item => (item, position)
  let own := expanded.flatten
  let table ← get
  let known := own.foldl (fun known (number, position) =>
    atlas.addDescents (table.item number) position known)
    (Array.replicate atlas.outline.grammar.phrases.size none)
  let below := known.toList.zipIdx.flatMap fun (entry, index) =>
    match entry with
    | some origin => (atlas.beginnings.getD index []).map fun item => (item, origin)
    | none => []
  return own.map (fun (item, position) => (item, ⟨.empty, .single position⟩)) ++ below

/-- Collects items with their origins, each once, in increasing order. -/
def gather (entries : List (Nat × Origin)) : List (Nat × Origin) :=
  let sorted := entries.mergeSort fun first second => first.1 ≤ second.1
  sorted.foldr (fun entry all =>
    match all with
    | (number, origin) :: rest =>
      if number == entry.1 then (number, origin.union entry.2) :: rest else entry :: all
    | [] => [entry]) []

/-- Complete items are tried in this order. -/
def comesBefore (first second : Item) : Bool :=
  let rank (item : Item) : List Int := [
    item.place, item.phrase, match item.level with | some _ => 1 | none => 0, item.level.getD 0,
    match item.side with | none => 0 | some .left => 1 | some .right => 2, if item.passes then 1 else 0]
  !(rank second).lex (rank first) fun a b => a < b

/-- Adds an item to the moves over its next symbol. -/
def addMove (tokens phrases : Array (List (Nat × Origin))) (symbol : Symbol) (entry : Nat × Origin) :
    Array (List (Nat × Origin)) × Array (List (Nat × Origin)) :=
  match symbol with
  | .token index => (tokens.modify index (entry :: ·), phrases)
  | .phrase index => (tokens, phrases.modify index (entry :: ·))

/-- The core that begins with the given items. -/
def core (atlas : Atlas) (first : Array Nat) : StateM ItemTable Core := do
  let grammar := atlas.outline.grammar
  let entries := gather (← atlas.close first)
  let table ← get
  let withItem := entries.map fun (number, origin) => (number, table.item number, origin)
  let complete := (withItem.filter fun (_, item, _) => item.isComplete).mergeSort
    fun left right => comesBefore left.2.1 right.2.1
  let steps := withItem.filterMap fun (number, item, origin) => item.next?.map fun step => (number, item, step, origin)
  let moved ← steps.mapM fun (number, _, step, origin) => do
    return (step.symbol, ← atlas.outline.advance number, origin)
  let (tokens, phrases) := moved.foldl (fun (tokens, phrases) (symbol, entry) => addMove tokens phrases symbol entry)
    (Array.replicate grammar.tokenCount [], Array.replicate grammar.phrases.size [])
  let toMove (symbol : Symbol) (entries : List (Nat × Origin)) : CoreMove :=
    let entries := (gather entries).toArray
    ⟨symbol, entries.map (·.1), entries.map (·.2)⟩
  let movesOn (makeSymbol : Nat → Symbol) (lists : Array (List (Nat × Origin))) : List CoreMove :=
    lists.toList.zipIdx.filterMap fun (entries, index) =>
      if entries.isEmpty then none else some (toMove (makeSymbol index) entries)
  let tokenMoves := movesOn .token tokens
  let isContextual (move : CoreMove) : Bool := match move.symbol with
    | .token index => grammar.lexemes.size ≤ index
    | .phrase _ => false
  let (contextual, plain) := tokenMoves.partition isContextual
  return {
    moves := (contextual ++ plain ++ movesOn .phrase phrases).toArray
    complete := complete.map fun (number, _, origin) => (number, origin)
    underway := (steps.filter fun (_, item, _, _) => item.place != 0).map fun (number, _, step, _) =>
      (number, atlas.outline.firstOf step)
    readable := tokenMoves.foldl (fun all move => all.union (move.symbol.tokens #[])) .empty }

end Atlas

end Deadwood.Parsing
