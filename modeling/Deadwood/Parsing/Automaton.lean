/-
Finding tokens by their characters.

`Automaton.build` turns sets of tokens into one automaton that stands on a single
node at a time, and `Automaton.find` runs it over a text.
-/
import Deadwood.Parsing.Letters
import Deadwood.Parsing.Lexicon
import Std.Data.HashMap

namespace Deadwood.Parsing

/-- Where an automaton goes over a character. -/
structure Leap where
  node : Nat
  /-- Whether the character is a blank before the token. -/
  blank : Bool
  deriving Inhabited

/-- A node of an automaton. -/
structure AutomatonNode where
  /-- The token that is complete here. -/
  token : Option Nat
  /-- Whether the text may end here with nothing but blanks since the last token. -/
  mayEnd : Bool
  /-- Where to go, by the kind of the next character. -/
  leaps : Array (Option Leap)
  deriving Inhabited

/-- A set of tokens that are looked for together, and whether the end of the text is one of them. -/
structure Sought where
  tokens : BitSet
  mayEnd : Bool
  deriving DecidableEq, Inhabited

/-- An automaton. -/
structure Automaton where
  nodes : Array AutomatonNode
  /-- The node on which each of the searches begins. -/
  starts : Array Nat

namespace Automaton

/-- Where a search may stand: nodes of the lexicon, and whether the text may end. -/
abbrev Stand := List Nat × Bool

/-- An automaton under construction: numbers for the stands met so far. -/
structure Draft where
  stands : Array Stand
  numbers : Std.HashMap Stand Nat
  nodes : Array AutomatonNode

namespace Draft

/-- The number of a stand. -/
def number (draft : Draft) (stand : Stand) : Nat × Draft :=
  match draft.numbers[stand]? with
  | some number => (number, draft)
  | none =>
    let number := draft.stands.size
    (number, { draft with stands := draft.stands.push stand, numbers := draft.numbers.insert stand number })

/-- Adds a way over some characters. -/
def addLeap (leaps : Array (Option Leap)) (chars : Charset) (leap : Leap) : Array (Option Leap) :=
  let value := some leap
  chars.toList.foldl (fun leaps kind => leaps.set! kind value) leaps

/-- Makes the node of a stand. A move that the complete token has precedence over is left out. -/
def visit (lexicon : Lexicon) (draft : Draft) (stand : Stand) : Draft :=
  let (nodes, mayEnd) := stand
  let best := lexicon.best? (lexicon.completions nodes)
  let blanks := lexicon.hasBlanks nodes
  let moves := (lexicon.moves nodes).filter fun move =>
    match best with
    | some complete => lexicon.prefersMove move complete blanks
    | none => true
  let (leaps, draft) := moves.foldl (fun (leaps, draft) move =>
    let (node, draft) := draft.number (move.targets, mayEnd && move.blank)
    (addLeap leaps move.chars ⟨node, move.blank⟩, draft)) (Array.replicate Charset.kinds none, draft)
  { draft with nodes := draft.nodes.push ⟨best.map (·.1), mayEnd, leaps⟩ }

/-- Makes the nodes of all stands, until no new ones are met or `fuel` have been made. -/
def complete (lexicon : Lexicon) : Nat → Draft → Draft
  | 0, draft => draft
  | fuel + 1, draft =>
    match draft.stands[draft.nodes.size]? with
    | some stand => complete lexicon fuel (draft.visit lexicon stand)
    | none => draft

end Draft

/-- More nodes than any automaton in use has. -/
def nodeLimit : Nat := 1000000

/-- The automaton for several searches. -/
def build (lexicon : Lexicon) (searches : List Sought) : Automaton :=
  let (starts, draft) := searches.foldl (fun (starts, draft) sought =>
    let nodes := sought.tokens.toList.foldl (fun nodes token => insertOnce (lexicon.entries.getD token 0) nodes) []
    let (number, draft) := Draft.number draft (nodes, sought.mayEnd)
    (starts.push number, draft)) ((#[] : Array Nat), (⟨#[], ∅, #[]⟩ : Draft))
  ⟨(draft.complete lexicon nodeLimit).nodes, starts⟩

end Automaton

/-- What has been found in a text. -/
structure Found where
  /-- The token, if there is one. -/
  token : Option Nat
  /-- Where it starts, after blanks. -/
  start : Nat
  /-- Where it stops. -/
  stop : Nat
  /-- Up to where the text was looked at. -/
  reached : Nat
  deriving Inhabited

namespace Automaton

/-- Looks for a token from an index on. The last complete token counts. -/
def run (automaton : Automaton) (text : Letters) (endOfText : Nat) (node index : Nat) (found : Found) : Found :=
  let here := automaton.nodes.getD node default
  let found := match here.token with
    | some token => { found with token := some token, stop := index }
    | none => found
  if _h : index < text.size then
    match here.leaps.getD (Charset.kindOf (text.letter index)) none with
    | some leap =>
      automaton.run text endOfText leap.node (index + 1)
        (if leap.blank then { found with start := index + 1, reached := index + 1 }
          else { found with reached := index + 1 })
    | none => found
  else if here.mayEnd then { found with token := some endOfText, stop := index }
  else found
termination_by text.size - index

/-- Looks for the tokens of a search from an index on. Without a token, the whole text that was looked at counts as
found. -/
def find (automaton : Automaton) (text : Letters) (endOfText : Nat) (search index : Nat) : Found :=
  let index := text.skipMark index
  let found := automaton.run text endOfText (automaton.starts.getD search 0) index ⟨none, index, 0, index⟩
  let stop := if found.token.isSome then found.stop else found.reached
  { found with start := min found.start stop, stop }

end Automaton

end Deadwood.Parsing
