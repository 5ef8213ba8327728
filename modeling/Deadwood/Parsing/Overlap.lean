/-
How the spellings of two tokens overlap.

Some tokens must not be looked for at the same time, because one would be taken
for the other. `Overlap.between` walks over the texts that could be the beginning
of both tokens and notes what it meets.
-/
import Deadwood.Parsing.Lexicon

namespace Deadwood.Parsing

/-- What is known of a token beside another one. -/
structure Overlap where
  /-- It is taken although the other one could go on. -/
  stops : Bool
  /-- It goes on where the other one is complete. -/
  goesOn : Bool
  /-- It goes on over a character with which a token after the other one may begin. -/
  goesOnValidly : Bool
  /-- It is complete where there may still be blanks. -/
  spansBlanks : Bool
  /-- It is taken for a text that is a spelling of both. -/
  wins : Bool
  /-- It has a spelling that the other one has not. -/
  differs : Bool
  deriving DecidableEq, Inhabited

namespace Overlap

/-- Nothing is known. -/
def unknown : Overlap := ⟨false, false, false, false, false, false⟩

/-- What is known when both have different first characters. -/
def apart : Overlap := { unknown with differs := true }

/-- Whether looking for the token may hide the other one. -/
def conflicts (overlap : Overlap) : Bool :=
  overlap.goesOnValidly || overlap.spansBlanks || overlap.wins

end Overlap

/-- What is known of two tokens, each beside the other. -/
structure OverlapPair where
  first : Overlap
  second : Overlap
  deriving Inhabited

namespace OverlapPair

/-- Changes what is known of the first or the second token. -/
def note (pair : OverlapPair) (isFirst : Bool) (change : Overlap → Overlap) : OverlapPair :=
  if isFirst then { pair with first := change pair.first } else { pair with second := change pair.second }

end OverlapPair

namespace Lexicon

/-- Notes which of the complete tokens wins, and which are complete among blanks. -/
def noteCompletions (lexicon : Lexicon) (first : Nat) (blanks : Bool) (complete : List (Nat × Int))
    (pair : OverlapPair) : OverlapPair × Option (Nat × Int) :=
  complete.foldl (fun (pair, best) token =>
    let pair := if blanks then pair.note (token.1 == first) ({ · with spansBlanks := true }) else pair
    match best with
    | none => (pair, some token)
    | some rival =>
      if rival.1 == token.1 then (pair, best)
      else
        let winner := if lexicon.prefersToken rival token then rival else token
        (pair.note (winner.1 == first) ({ · with wins := true }), some winner)) (pair, none)

/-- Notes what a move means when a token is complete; also answers whether the reading moves on. -/
def noteMove (lexicon : Lexicon) (first : Nat) (blanks : Bool) (after : Bool → Charset) (complete : Nat × Int)
    (pair : OverlapPair) (move : Move) : OverlapPair × Bool :=
  let tokens := lexicon.tokensOf move.targets
  match tokens.filter (· != complete.1) with
  | [] => (pair, true)
  | other :: _ =>
    if tokens.contains complete.1 then (pair, true)
    else if lexicon.prefersMove move complete blanks then
      let validly := move.chars.meets (after (complete.1 == first))
      (pair.note (other == first) fun known =>
        { known with goesOn := true, goesOnValidly := known.goesOnValidly || validly }, true)
    else (pair.note (complete.1 == first) ({ · with stops := true }), false)

/-- Walks over the texts that two tokens may begin with. Each set of nodes is visited once; `fuel` bounds their
number. -/
def compareFrom (lexicon : Lexicon) (first : Nat) (after : Bool → Charset) :
    Nat → List (List Nat) → List (List Nat) → OverlapPair → OverlapPair
  | 0, _, _, pair => pair
  | _, [], _, pair => pair
  | fuel + 1, nodes :: pending, visited, pair =>
    match lexicon.tokensOf nodes with
    | [] => lexicon.compareFrom first after fuel pending visited pair
    | [token] =>
      lexicon.compareFrom first after fuel pending visited
        (pair.note (token == first) ({ · with differs := true }))
    | _ =>
      let moves := lexicon.moves nodes
      let blanks := lexicon.hasBlanks nodes
      let (pair, best) := lexicon.noteCompletions first blanks (lexicon.completions nodes) pair
      let (pair, pending, visited) := moves.foldl (fun (pair, pending, visited) move =>
        let (pair, goesOn) := match best with
          | some complete => lexicon.noteMove first blanks after complete pair move
          | none => (pair, true)
        if goesOn && !visited.contains move.targets then
          (pair, move.targets :: pending, move.targets :: visited)
        else (pair, pending, visited)) (pair, pending, visited)
      lexicon.compareFrom first after fuel pending visited pair

/-- The characters other than blanks before it with which a token may begin, and whether it may be empty. -/
def beginning (lexicon : Lexicon) (token : Nat) : Charset × Bool :=
  (lexicon.spread [lexicon.entries.getD token 0]).foldl (fun (chars, isEmpty) (node : Nat) =>
    match lexicon.places[node]? with
    | some (.letter set _ false _) => (chars.union set, isEmpty)
    | some (.done ..) => (chars, true)
    | _ => (chars, isEmpty)) (BitSet.empty, false)

/-- The characters with which a token may begin, blanks before it included. -/
def opening (lexicon : Lexicon) (token : Nat) : Charset :=
  let own := (lexicon.beginning token).1
  if (lexicon.lexemes.getD token default).glued then own else own.union Charset.blank

/-- How two tokens overlap. `after` gives the characters that may follow a token. -/
def compare (lexicon : Lexicon) (after : Nat → Charset) (first second : Nat) : OverlapPair :=
  let (firstChars, firstEmpty) := lexicon.beginning first
  let (secondChars, secondEmpty) := lexicon.beginning second
  if !firstEmpty && !secondEmpty && !firstChars.meets secondChars && !firstChars.meets Charset.blank
      && !secondChars.meets Charset.blank then ⟨.apart, .apart⟩
  else
    let start := mergeOnce [lexicon.entries.getD first 0] [lexicon.entries.getD second 0]
    lexicon.compareFrom first (fun isFirst => after (if isFirst then first else second))
      (lexicon.places.size * lexicon.places.size) [start] [] ⟨.unknown, .unknown⟩

end Lexicon

/-- How each token overlaps with each other one. -/
structure Overlaps where
  table : Array (Array Overlap)

namespace Overlaps

/-- What is known of the first token beside the second. -/
def get (overlaps : Overlaps) (first second : Nat) : Overlap :=
  (overlaps.table.getD first #[]).getD second .unknown

/-- The tokens whose overlap with a given one passes a test. -/
def select (overlaps : Overlaps) (test : Overlap → Bool) (second : Nat) : BitSet :=
  BitSet.ofList ((List.range overlaps.table.size).filter fun first =>
    first != second && test (overlaps.get first second))

/-- All overlaps of a lexicon, given the tokens that may follow each token. -/
def ofLexicon (lexicon : Lexicon) (followers : Nat → List Nat) : Overlaps :=
  let tokens := List.range lexicon.lexemes.size
  let openings := (tokens.map lexicon.opening).toArray
  let after := (tokens.map fun token =>
    (followers token).foldl (fun chars next => chars.union (openings.getD next .empty)) BitSet.empty).toArray
  let blankRow := Array.replicate tokens.length Overlap.unknown
  let pairs := tokens.flatMap fun first => (List.range first).map fun second => (first, second)
  ⟨pairs.foldl (fun table (first, second) =>
    let pair := lexicon.compare (fun token => after.getD token .empty) first second
    (table.modify first (·.set! second pair.first)).modify second (·.set! first pair.second))
    (Array.replicate tokens.length blankRow)⟩

end Overlaps

end Deadwood.Parsing
