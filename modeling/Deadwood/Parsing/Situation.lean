/-
Situations: cores together with the tokens that may follow their items.

`Survey.explore` finds all situations that a reading can come into, beginning
with that before the text. Situation 0 is set aside for readings that have gone
astray, and situation 1 is the start.
-/
import Deadwood.Parsing.Core

namespace Deadwood.Parsing

/-- Makes a phrase out of the last parts. -/
structure Reduction where
  phrase : Nat
  size : Nat
  /-- The number of the shape of the new node. -/
  shape : Nat
  deriving DecidableEq, Inhabited

/-- Tokens that are partly known and partly taken from the items at some positions. -/
structure Supply where
  always : BitSet
  positions : List Nat
  deriving Inhabited

namespace Supply

/-- The supply from an origin. -/
def ofOrigin (origin : Origin) : Supply :=
  ⟨origin.always, origin.inherited.toList⟩

/-- The tokens, when those of the first items are known. -/
def tokens (supply : Supply) (known : Array BitSet) : BitSet :=
  supply.positions.foldl (fun all position => all.union (known.getD position .empty)) supply.always

end Supply

/-- A complete item, and when it may be reduced. -/
structure Completion where
  reduction : Reduction
  level : Int
  side : Option Side
  supply : Supply
  deriving Inhabited

/-- An item under way: its phrase, its level and the tokens that may come next. -/
structure Underway where
  phrase : Nat
  level : Int
  next : BitSet
  deriving Inhabited

/-- A move of a core with the number of the core it leads to. -/
structure PlannedMove where
  symbol : Symbol
  core : Nat
  supplies : Array Supply
  deriving Inhabited

/-- All that can happen in a core. -/
structure Plan where
  moves : Array PlannedMove
  completions : List Completion
  underway : List Underway
  readable : BitSet
  deriving Inhabited

/-- A core with the tokens that may follow its first items. -/
structure Situation where
  core : Nat
  follow : Array BitSet
  /-- The situations after the moves of the core, in their order. -/
  targets : Array Nat
  deriving Inhabited

/-- What is known of a grammar's situations. -/
structure Survey where
  items : ItemTable
  shapes : Array Shape
  shapeNumbers : Std.HashMap Shape Nat
  /-- The first items of each core. -/
  cores : Array (Array Nat)
  coreNumbers : Std.HashMap (Array Nat) Nat
  plans : Std.HashMap Nat Plan
  situations : Array Situation
  numbers : Std.HashMap (Nat × Array BitSet) Nat

namespace Survey

/-- Nothing is known yet, but for the shape of nodes without names and fields, which has number 0. -/
def start (items : ItemTable) : Survey :=
  let plain : Shape := ⟨[], [], []⟩
  ⟨items, #[plain], (∅ : Std.HashMap Shape Nat).insert plain 0, #[], ∅, ∅, #[], ∅⟩

/-- The number of a shape. -/
def shapeNumber (survey : Survey) (shape : Shape) : Nat × Survey :=
  match survey.shapeNumbers[shape]? with
  | some number => (number, survey)
  | none =>
    let number := survey.shapes.size
    (number, { survey with
      shapes := survey.shapes.push shape, shapeNumbers := survey.shapeNumbers.insert shape number })

/-- The number of the core that begins with the given items. -/
def coreNumber (survey : Survey) (first : Array Nat) : Nat × Survey :=
  match survey.coreNumbers[first]? with
  | some number => (number, survey)
  | none =>
    let number := survey.cores.size
    (number, { survey with
      cores := survey.cores.push first, coreNumbers := survey.coreNumbers.insert first number })

/-- The number of a situation. -/
def situationNumber (survey : Survey) (core : Nat) (follow : Array BitSet) : Nat × Survey :=
  let key := (core, follow)
  match survey.numbers[key]? with
  | some number => (number, survey)
  | none =>
    let number := survey.situations.size
    (number, { survey with
      situations := survey.situations.push ⟨core, follow, #[]⟩, numbers := survey.numbers.insert key number })

/-- The completion of a complete item. -/
def completion (outline : Outline) (survey : Survey) (number : Nat) (origin : Origin) : Completion × Survey :=
  let item := survey.items.item number
  let (shape, survey) := survey.shapeNumber (outline.shapeOf item.production)
  (⟨⟨item.phrase, item.place, shape⟩, item.level.getD 0, item.side, Supply.ofOrigin origin⟩, survey)

/-- Works out what can happen in a core. -/
def makePlan (atlas : Atlas) (survey : Survey) (first : Array Nat) : Plan × Survey :=
  let (core, items) := (atlas.core first).run survey.items
  let survey := { survey with items }
  let (completions, survey) := core.complete.foldl (fun (all, survey) (number, origin) =>
    let (completion, survey) := survey.completion atlas.outline number origin
    (all ++ [completion], survey)) ([], survey)
  let (moves, survey) := core.moves.foldl (fun (all, survey) move =>
    let (target, survey) := survey.coreNumber move.items
    (all.push ⟨move.symbol, target, move.origins.map Supply.ofOrigin⟩, survey)) (#[], survey)
  let underway := core.underway.map fun (number, next) =>
    let item := survey.items.item number
    ⟨item.phrase, item.level.getD 0, next⟩
  (⟨moves, completions, underway, core.readable⟩, survey)

/-- What can happen in a core. -/
def plan (atlas : Atlas) (survey : Survey) (core : Nat) : Plan × Survey :=
  match survey.plans[core]? with
  | some plan => (plan, survey)
  | none =>
    let (plan, survey) := survey.makePlan atlas (survey.cores.getD core #[])
    (plan, { survey with plans := survey.plans.insert core plan })

/-- Finds the situations after one situation. -/
def visit (atlas : Atlas) (survey : Survey) (index : Nat) : Survey :=
  let situation := survey.situations.getD index default
  let (plan, survey) := survey.plan atlas situation.core
  let (targets, survey) := plan.moves.foldl (fun (targets, survey) move =>
    let (target, survey) := survey.situationNumber move.core (move.supplies.map (·.tokens situation.follow))
    (targets.push target, survey)) (#[], survey)
  { survey with situations := survey.situations.modify index ({ · with targets }) }

/-- Visits the situations from an index on, until no new ones are found or `fuel` have been visited. -/
def visitAll (atlas : Atlas) : Nat → Nat → Survey → Survey
  | 0, _, survey => survey
  | fuel + 1, index, survey =>
    if index < survey.situations.size then visitAll atlas fuel (index + 1) (survey.visit atlas index)
    else survey

/-- Adds the situation with the given first items, all followed by one token. -/
def seed (survey : Survey) (items : List Item) (follow : Nat) : Nat × Survey :=
  let (numbers, table) := (items.mapM ItemTable.number).run survey.items
  let first := (numbers.foldl (fun all n => insertOnce n all) []).toArray
  let (core, survey) := { survey with items := table }.coreNumber first
  survey.situationNumber core (first.map fun _ => .single follow)

end Survey

/-- Inserts an item into lists of items by the token they begin with. -/
def groupByToken (token : Nat) (item : Item) : List (Nat × List Item) → List (Nat × List Item)
  | [] => [(token, [item])]
  | (other, items) :: rest =>
    if other == token then (other, items ++ [item]) :: rest
    else if token < other then (token, [item]) :: (other, items) :: rest
    else (other, items) :: groupByToken token item rest

namespace NormalGrammar

/-- The items after the first token of the phrases that may stand anywhere, by that token. -/
def extraBeginnings (grammar : NormalGrammar) : List (Nat × List Item) :=
  let items := grammar.extras.flatMap fun extra =>
    (grammar.phrase extra).productions.map fun production => (⟨extra, production, 1, false⟩ : Item)
  items.foldl (fun all item =>
    match item.production.head? with
    | some ⟨.token token, _, _, _, _⟩ => groupByToken token item all
    | _ => all) []

/-- The item before the whole text. Its phrase has a number of its own. -/
def wholeText (grammar : NormalGrammar) : Item :=
  ⟨grammar.phrases.size, [⟨.phrase 0, none, none, none, none⟩], 0, false⟩

end NormalGrammar

/-- More situations than any grammar in use has. -/
def situationLimit : Nat := 1000000

namespace Survey

/-- All situations of a grammar, and those after the first tokens of the phrases that may stand anywhere. -/
def explore (outline : Outline) : Survey × List (Nat × Nat) :=
  let (atlas, items) := (Atlas.ofOutline outline).run ItemTable.empty
  let survey := start items
  let (_, survey) := survey.seed [] 0
  let (_, survey) := survey.seed [outline.grammar.wholeText] outline.grammar.endOfText
  let (extras, survey) := outline.grammar.extraBeginnings.foldl (fun (extras, survey) (token, items) =>
    let (number, survey) := survey.seed items outline.grammar.endOfExtra
    (extras ++ [(token, number)], survey)) ([], survey)
  (visitAll atlas situationLimit 0 survey, extras)

end Survey

end Deadwood.Parsing
