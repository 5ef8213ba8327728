/-
What the productions of a grammar say about its tokens and phrases.

* `first` and `last`: the tokens with which a phrase may begin and end.
* `follows`: the tokens that may come right after a token.
* `passedFields`: the fields that a hidden phrase leaves to the node it stands in.
-/
import Deadwood.Parsing.Production

namespace Deadwood.Parsing

/-- Repeats a step until nothing changes, at most `fuel` times. -/
def fixpoint {α : Type} [BEq α] (step : α → α) : Nat → α → α
  | 0, value => value
  | fuel + 1, value =>
    let next := step value
    if next == value then value else fixpoint step fuel next

/-- The tokens that belong to a symbol, when those of the phrases are known. -/
def Symbol.tokens (sets : Array BitSet) : Symbol → BitSet
  | .token index => BitSet.single index
  | .phrase index => sets.getD index .empty

/-- Inserts a text into an increasing list. -/
def insertText (s : String) : List String → List String
  | [] => [s]
  | t :: rest => if s < t then s :: t :: rest else if s == t then t :: rest else t :: insertText s rest

namespace NormalGrammar

/-- A phrase by its number. -/
def phrase (grammar : NormalGrammar) (index : Nat) : Phrase :=
  grammar.phrases.getD index default

/-- How many tokens there are, contextual ones included. -/
def tokenCount (grammar : NormalGrammar) : Nat :=
  grammar.tokenLabels.size

/-- The token that stands for the end of the text. -/
def endOfText (grammar : NormalGrammar) : Nat :=
  grammar.tokenCount

/-- The token that stands for whatever follows a phrase that may stand anywhere. -/
def endOfExtra (grammar : NormalGrammar) : Nat :=
  grammar.tokenCount + 1

/-- The tokens at one end of each phrase; `pick` chooses the end of a production. -/
def boundary (grammar : NormalGrammar) (pick : Production → Option Step) : Array BitSet :=
  let step (sets : Array BitSet) : Array BitSet :=
    grammar.phrases.mapIdx fun index phrase =>
      phrase.productions.foldl (fun all production =>
        match pick production with
        | some step => all.union (step.symbol.tokens sets)
        | none => all) (sets.getD index .empty)
  fixpoint step (grammar.phrases.size + 1) (grammar.phrases.map fun _ => .empty)

/-- The tokens that may come right after each token. -/
def follows (grammar : NormalGrammar) (first last : Array BitSet) : Array BitSet :=
  let pairs (production : Production) : List (Step × Step) := production.zip (production.drop 1)
  let steps := (grammar.phrases.toList.flatMap (·.productions)).flatMap pairs
  let links := (steps.map fun (left, right) => (left.symbol.tokens last, right.symbol.tokens first)).eraseDups
  links.foldl (fun sets (ends, starts) =>
    ends.toList.foldl (fun sets token => sets.modify token (·.union starts)) sets)
    (Array.replicate grammar.tokenCount .empty)

/-- Whether a phrase appears as a node of its own. -/
def isShown (grammar : NormalGrammar) (index : Nat) : Bool :=
  (grammar.phrase index).role == .shown

/-- Whether the parts of a step appear in place of it. -/
def passesFields (grammar : NormalGrammar) (step : Step) : Option Nat :=
  match step.symbol with
  | .token _ => none
  | .phrase index =>
    if grammar.isShown index || (grammar.phrase index).role == .family || step.label.isSome
        || (usualLabel? grammar.usualLabels step.symbol).isSome then none
    else some index

/-- The fields inside each phrase that are not hidden by a node. -/
def passedFields (grammar : NormalGrammar) : Array (List String) :=
  let step (sets : Array (List String)) : Array (List String) :=
    grammar.phrases.mapIdx fun index phrase =>
      phrase.productions.flatten.foldl (fun all step =>
        let all := match step.field with
          | some name => insertText name all
          | none => all
        match grammar.passesFields step with
        | some inner => (sets.getD inner []).foldl (fun all name => insertText name all) all
        | none => all) (sets.getD index [])
  fixpoint step (grammar.phrases.size + 1) (grammar.phrases.map fun _ => [])

end NormalGrammar

/-- The names and the fields of the parts of a node. -/
structure Shape where
  labels : List (Option Label)
  fields : List (Option String)
  /-- The fields that hidden parts pass on. -/
  passed : List (List String)
  deriving DecidableEq, Hashable, Inhabited

/-- Drops values from the end of a list. -/
def trimEnd {α : Type} (drop : α → Bool) (values : List α) : List α :=
  (values.reverse.dropWhile drop).reverse

/-- A grammar with what its productions say. -/
structure Outline where
  grammar : NormalGrammar
  first : Array BitSet
  last : Array BitSet
  passed : Array (List String)

namespace Outline

/-- The outline of a grammar. -/
def ofGrammar (grammar : NormalGrammar) : Outline where
  grammar
  first := grammar.boundary List.head?
  last := grammar.boundary List.getLast?
  passed := grammar.passedFields

/-- The tokens with which a step may begin. -/
def firstOf (outline : Outline) (step : Step) : BitSet :=
  step.symbol.tokens outline.first

/-- The fields that a step passes on. -/
def passedBy (outline : Outline) (step : Step) : List String :=
  match step.symbol with
  | .token _ => []
  | .phrase index => if outline.grammar.isShown index then [] else outline.passed.getD index []

/-- The shape of the nodes that a production makes. -/
def shapeOf (outline : Outline) (production : Production) : Shape where
  labels := trimEnd Option.isNone (production.map (·.label))
  fields := trimEnd Option.isNone (production.map (·.field))
  passed := trimEnd List.isEmpty (production.map outline.passedBy)

end Outline

end Deadwood.Parsing
