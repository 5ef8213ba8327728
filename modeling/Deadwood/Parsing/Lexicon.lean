/-
The spellings of all tokens, as one automaton.

`Lexicon.ofLexemes` turns the patterns of all tokens into nodes. A reading stands
on several nodes at once, one for each way in which the text read so far may go
on; `Lexicon.moves` says where it stands after the next character.

When several tokens match, the higher level wins, then the longer text, then a
token with one spelling, and then the one that was mentioned first.
-/
import Deadwood.Parsing.Grammar

namespace Deadwood.Parsing

/-- A node of the automaton. -/
inductive Place where
  /-- Goes on to another node over a character of a set. Blanks before the token are passed over. -/
  | letter (set : Charset) (next : Nat) (blank : Bool) (level : Int)
  /-- Goes on to either of two nodes. -/
  | fork (first second : Nat)
  /-- A token is complete. -/
  | done (token : Nat) (level : Int)
  deriving Inhabited

namespace Pattern

/-- Adds the nodes of a pattern that go on at a given node; answers where they begin. -/
def compile (next : Nat) (level : Int) : Pattern → Array Place → Nat × Array Place
  | .nothing, places => (next, places)
  | .char set, places => (places.size, places.push (.letter set next false level))
  | .seq first second, places =>
    let (middle, places) := second.compile next level places
    first.compile middle level places
  | .alt first second, places =>
    let (left, places) := first.compile next level places
    let (right, places) := second.compile next level places
    (places.size, places.push (.fork left right))
  | .plus body, places =>
    let loop := places.size
    let (start, places) := body.compile loop level (places.push (.fork next next))
    (start, places.set! loop (.fork start next))

end Pattern

/-- The automaton of all tokens. -/
structure Lexicon where
  lexemes : Array Lexeme
  places : Array Place
  /-- To which token a node belongs. -/
  owners : Array Nat
  /-- Where each token begins. -/
  entries : Array Nat
  /-- The nodes with a character or a complete token that a node leads to. -/
  leads : Array (List Nat)

/-- A move over one character. -/
structure Move where
  chars : Charset
  /-- Whether the character is a blank before the token. -/
  blank : Bool
  level : Int
  /-- The nodes after the move, in increasing order. -/
  targets : List Nat

/-- Inserts a number into an increasing list. -/
def insertOnce (n : Nat) : List Nat → List Nat
  | [] => [n]
  | m :: rest => if n < m then n :: m :: rest else if n == m then m :: rest else m :: insertOnce n rest

/-- The union of two increasing lists. -/
def mergeOnce (first second : List Nat) : List Nat :=
  first.foldl (fun all n => insertOnce n all) second

namespace Lexicon

/-- The nodes with a character or a complete token from a node on. Forks lead to ever new nodes, so their number
bounds the depth. -/
def follow (places : Array Place) : Nat → Nat → List Nat → List Nat
  | 0, _, found => found
  | fuel + 1, node, found =>
    match places[node]? with
    | some (.fork first second) => follow places fuel second (follow places fuel first found)
    | _ => insertOnce node found

/-- Adds the nodes of one token: the spaces before it, unless it is glued, and its pattern. -/
def addLexeme (lexicon : Lexicon) (lexeme : Lexeme) : Lexicon :=
  let token := lexicon.lexemes.size
  let done := lexicon.places.size
  let (start, places) := lexeme.pattern.compile done lexeme.level (lexicon.places.push (.done token lexeme.level))
  let (entry, places) :=
    if lexeme.glued then (start, places)
    else
      let loop := places.size
      (loop, (places.push (.fork (loop + 1) start)).push (.letter Charset.blank loop true 0))
  { lexicon with
    lexemes := lexicon.lexemes.push lexeme
    places
    owners := lexicon.owners ++ Array.replicate (places.size - lexicon.places.size) token
    entries := lexicon.entries.push entry }

/-- The automaton of a list of tokens. -/
def ofLexemes (lexemes : Array Lexeme) : Lexicon :=
  let lexicon := lexemes.foldl addLexeme ⟨#[], #[], #[], #[], #[]⟩
  { lexicon with
    leads := (Array.range lexicon.places.size).map fun node =>
      follow lexicon.places lexicon.places.size node [] }

/-- All nodes that matter when a reading stands on some nodes. -/
def spread (lexicon : Lexicon) (nodes : List Nat) : List Nat :=
  nodes.foldl (fun all node => mergeOnce (lexicon.leads.getD node []) all) []

/-- The tokens that nodes belong to, in increasing order. -/
def tokensOf (lexicon : Lexicon) (nodes : List Nat) : List Nat :=
  nodes.foldl (fun all node => insertOnce (lexicon.owners.getD node 0) all) []

/-- The tokens that are complete at some nodes, with their levels. -/
def completions (lexicon : Lexicon) (nodes : List Nat) : List (Nat × Int) :=
  (lexicon.spread nodes).filterMap fun (node : Nat) =>
    match lexicon.places[node]? with
    | some (.done token level) => some (token, level)
    | _ => none

/-- Whether blanks before a token may still follow at some nodes. -/
def hasBlanks (lexicon : Lexicon) (nodes : List Nat) : Bool :=
  (lexicon.spread nodes).any fun (node : Nat) =>
    match lexicon.places[node]? with
    | some (.letter _ _ blank _) => blank
    | _ => false

/-- Adds a move over a set of characters to moves over disjoint sets. -/
def addMove (set : Charset) (blank : Bool) (level : Int) (target : Nat) : List Move → List Move
  | [] => if set.isEmpty then [] else [⟨set, blank, level, [target]⟩]
  | move :: rest =>
    let both := move.chars.inter set
    if both.isEmpty then move :: addMove set blank level target rest
    else
      let joint : Move := ⟨both, move.blank && blank, max move.level level, insertOnce target move.targets⟩
      let others := addMove (set.diff both) blank level target rest
      let left := move.chars.diff both
      if left.isEmpty then joint :: others else joint :: { move with chars := left } :: others

/-- The moves from some nodes, over disjoint sets of characters. -/
def moves (lexicon : Lexicon) (nodes : List Nat) : List Move :=
  (lexicon.spread nodes).foldl (fun moves (node : Nat) =>
    match lexicon.places[node]? with
    | some (.letter set next blank level) => addMove set blank level next moves
    | _ => moves) []

/-- Of two complete tokens with their levels, whether the first one is taken. -/
def prefersToken (lexicon : Lexicon) (first second : Nat × Int) : Bool :=
  let rank (token : Nat) : Nat := (lexicon.lexemes.getD token default).rank
  if first.2 != second.2 then decide (second.2 < first.2)
  else if rank first.1 != rank second.1 then decide (rank second.1 < rank first.1)
  else decide (first.1 < second.1)

/-- Whether a reading moves on although a token is complete. Where blanks may still follow, it goes on only for the
sake of the same token. -/
def prefersMove (lexicon : Lexicon) (move : Move) (complete : Nat × Int) (blanks : Bool) : Bool :=
  if move.level < complete.2 then false
  else if move.level == complete.2 then
    !move.blank && (!blanks || (lexicon.tokensOf move.targets).contains complete.1)
  else true

/-- The token that is taken among the complete ones. -/
def best? (lexicon : Lexicon) (complete : List (Nat × Int)) : Option (Nat × Int) :=
  complete.foldl (fun best token =>
    match best with
    | some rival => if lexicon.prefersToken rival token then best else some token
    | none => some token) none

end Lexicon

end Deadwood.Parsing
