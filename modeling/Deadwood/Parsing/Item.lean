/-
Items: productions that have been read up to some place.

A reading does not know yet which production it is in. It stands at several items
at once, and together with those that its phrases may begin with they tell which
tokens may follow. Phrases marked as inlined are replaced by their productions as
soon as a reading comes to them.

Items that differ only in what no later step can tell apart count as one.
-/
import Deadwood.Parsing.Lexicon
import Deadwood.Parsing.Outline
import Std.Data.HashMap

namespace Deadwood.Parsing

/-- A production, and the place up to which it has been read. -/
structure Item where
  phrase : Nat
  production : Production
  place : Nat
  /-- Whether a part that has been read passes on fields. -/
  passes : Bool
  deriving Inhabited

namespace Item

/-- The step that was read last. -/
def previous? (item : Item) : Option Step :=
  if item.place == 0 then none else item.production[item.place - 1]?

/-- The step that comes next. -/
def next? (item : Item) : Option Step :=
  item.production[item.place]?

/-- The level up to the place of the item. -/
def level (item : Item) : Option Int :=
  item.previous?.bind (·.level)

/-- The side up to the place of the item. -/
def side (item : Item) : Option Side :=
  item.previous?.bind (·.side)

/-- Whether the whole production has been read. -/
def isComplete (item : Item) : Bool :=
  item.next?.isNone

/-- Of a part that has been read, what the finished node depends on. -/
def remembered (passes : Bool) (step : Step) : Option Label × Option String × Option Symbol :=
  (step.label, step.field, if passes then some step.symbol else none)

end Item

/-- What tells items apart. -/
structure ItemKey where
  phrase : Nat
  level : Option Int
  side : Option Side
  passes : Bool
  past : List (Option Label × Option String × Option Symbol)
  future : List Step
  deriving BEq, Hashable

/-- What tells an item apart from others. -/
def Item.key (item : Item) : ItemKey where
  phrase := item.phrase
  level := item.level
  side := item.side
  passes := item.passes
  past := (item.production.take item.place).map (Item.remembered item.passes)
  future := item.production.drop item.place

/-- The items met so far, with numbers. -/
structure ItemTable where
  items : Array Item
  numbers : Std.HashMap ItemKey Nat
  /-- The items after the next step, where they have been asked for. -/
  successors : Std.HashMap Nat Nat
  /-- The items that replace one before an inlined phrase. -/
  expansions : Std.HashMap Nat (List Nat)

namespace ItemTable

/-- No items. -/
def empty : ItemTable := ⟨#[], ∅, ∅, ∅⟩

/-- An item by its number. -/
def item (table : ItemTable) (number : Nat) : Item :=
  table.items.getD number default

/-- The number of an item. -/
def number (item : Item) : StateM ItemTable Nat :=
  modifyGet fun table =>
    let key := item.key
    match table.numbers[key]? with
    | some number => (number, table)
    | none =>
      let number := table.items.size
      (number, { table with items := table.items.push item, numbers := table.numbers.insert key number })

end ItemTable

namespace Outline

/-- An inlined phrase gives its name, its field, its level and its side to the step that replaces it. -/
def replacement (step : Step) (inner : Production) : Production :=
  let inner := inner.map fun part =>
    { part with label := step.label.or part.label, field := step.field.or part.field }
  amendLast (fun part => { part with level := part.level.or step.level, side := part.side.or step.side }) inner

/-- A production with the inlined phrases at a place replaced. Inlined phrases are not nested deeper than there are
phrases. -/
def inlineAt (outline : Outline) (place : Nat) : Nat → Production → List Production
  | 0, production => [production]
  | fuel + 1, production =>
    match production[place]? with
    | some step => match step.symbol with
      | .phrase index =>
        if (outline.grammar.phrase index).role == .inlined then
          (outline.grammar.phrase index).productions.flatMap fun inner =>
            outline.inlineAt place fuel
              (production.take place ++ replacement step inner ++ production.drop (place + 1))
        else [production]
      | .token _ => [production]
    | none => [production]

/-- The items that stand for an item before an inlined phrase. -/
def expand (outline : Outline) (number : Nat) : StateM ItemTable (List Nat) := do
  match (← get).expansions[number]? with
  | some found => return found
  | none =>
    let item := (← get).item number
    let productions := outline.inlineAt item.place outline.grammar.phrases.size item.production
    let found ← productions.mapM fun production => ItemTable.number { item with production }
    modify fun table => { table with expansions := table.expansions.insert number found }
    return found

/-- The items at the beginning of a phrase. -/
def beginnings (outline : Outline) (phrase : Nat) : StateM ItemTable (List Nat) := do
  let productions := (outline.grammar.phrase phrase).productions.flatMap
    (outline.inlineAt 0 outline.grammar.phrases.size)
  productions.mapM fun production => ItemTable.number ⟨phrase, production, 0, false⟩

/-- The item after the next step. -/
def advance (outline : Outline) (number : Nat) : StateM ItemTable Nat := do
  match (← get).successors[number]? with
  | some found => return found
  | none =>
    let item := (← get).item number
    let passes := item.passes || match item.next? with
      | some step => !(outline.passedBy step).isEmpty
      | none => false
    let found ← ItemTable.number { item with place := item.place + 1, passes }
    modify fun table => { table with successors := table.successors.insert number found }
    return found

end Outline

end Deadwood.Parsing
