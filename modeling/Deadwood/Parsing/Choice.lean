/-
What to do with the next token.

In a situation a token may allow several things: to read it, and to make phrases
out of what has been read. Levels and sides rule out most of them; what is left
is tried side by side.
-/
import Deadwood.Parsing.Situation

namespace Deadwood.Parsing

/-- Whether a token is read. -/
inductive Reading where
  | no
  | yes
  /-- It is read only after the phrase of a repetition has been made. -/
  | again
  deriving DecidableEq, Inhabited

/-- What is done with a token: reductions, and maybe reading it. -/
structure Choice where
  reductions : List Reduction
  reading : Reading
  deriving DecidableEq, Inhabited

namespace Choice

/-- The token is read and nothing else. -/
def read : Choice := ⟨[], .yes⟩

end Choice

/-- Reductions of the same level for the same tokens. -/
structure Rivals where
  tokens : BitSet
  reductions : List Reduction
  level : Int
  sides : List (Option Side)
  deriving Inhabited

namespace Rivals

/-- Adds a completion to those found so far: where both are possible, the higher level wins, and equal levels
stay side by side. -/
def add (completion : Completion) (tokens : BitSet) : List Rivals → List Rivals
  | [] => if tokens.isEmpty then [] else [⟨tokens, [completion.reduction], completion.level, [completion.side]⟩]
  | rivals :: rest =>
    let both := rivals.tokens.inter tokens
    if both.isEmpty then rivals :: add completion tokens rest
    else
      let joint : Rivals :=
        if rivals.level < completion.level then
          ⟨both, [completion.reduction], completion.level, [completion.side]⟩
        else if rivals.level == completion.level then
          ⟨both, rivals.reductions ++ [completion.reduction], completion.level, rivals.sides ++ [completion.side]⟩
        else { rivals with tokens := both }
      let others := add completion (tokens.diff both) rest
      let left := rivals.tokens.diff both
      if left.isEmpty then joint :: others else joint :: { rivals with tokens := left } :: others

/-- What is done with a token that can be read while reductions are possible.

A repetition is always reduced first. Otherwise the higher level wins; if the levels are equal, a left side
reduces and a right side reads. If that does not decide, both are tried. -/
def against (rivals : Rivals) (isRepetition : Nat → Bool) (phrases : List Nat) (underway : List Underway) : Choice :=
  let all := phrases ++ underway.map (·.phrase)
  let sameRepetition := match all with
    | phrase :: rest => isRepetition phrase && rest.all (· == phrase)
    | [] => false
  if sameRepetition then ⟨rivals.reductions, .again⟩
  else
    let higher := underway.any fun item => rivals.level < item.level
    let lower := underway.any fun item => item.level < rivals.level
    if higher && !lower then .read
    else if lower && !higher then ⟨rivals.reductions, .no⟩
    else if !lower && !higher && rivals.sides.all (· == some .left) then ⟨rivals.reductions, .no⟩
    else if !lower && !higher && rivals.sides.all (· == some .right) then .read
    else ⟨rivals.reductions, .yes⟩

end Rivals

/-- Adds tokens to those with the same choice. -/
def addChoice (choice : Choice) (tokens : BitSet) : List (Choice × BitSet) → List (Choice × BitSet)
  | [] => [(choice, tokens)]
  | (other, known) :: rest =>
    if other == choice then (other, known.union tokens) :: rest
    else (other, known) :: addChoice choice tokens rest

namespace Plan

/-- What is done with each token in a situation; tokens that are only read are left out. -/
def choices (plan : Plan) (isRepetition : Nat → Bool) (follow : Array BitSet) : List (Choice × BitSet) :=
  let completions := plan.completions.map fun completion => (completion, completion.supply.tokens follow)
  let rivals := completions.foldl (fun all (completion, tokens) => Rivals.add completion tokens all) []
  rivals.foldl (fun all (rivals : Rivals) =>
    let contested := rivals.tokens.inter plan.readable
    let free := rivals.tokens.diff contested
    let all := if free.isEmpty then all else addChoice ⟨rivals.reductions, .no⟩ free all
    if contested.isEmpty then all
    else contested.toList.foldl (fun all token =>
      let phrases := completions.filterMap fun (completion, tokens) =>
        if tokens.contains token then some completion.reduction.phrase else none
      let underway := plan.underway.filter fun item => item.next.contains token
      addChoice (rivals.against isRepetition phrases underway) (.single token) all) all) []

end Plan

end Deadwood.Parsing
