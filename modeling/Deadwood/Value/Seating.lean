/-
The order of the members of a set.

A set has numbered seats, and its members come in the order of their seats. A
number has a code, in which equal numbers agree; the code gives the seats that it
prefers, and it takes the first one that is free. For other values the seat is
not determined, and a set that has such a member keeps the order of the document.
-/
import Deadwood.Value.Basic

namespace Deadwood.Value

/-- Codes are remainders by this prime number, with the sign of the number. -/
def codeModulus : Nat := Nat.pow 2 61 - 1

/-- The code of an infinity, apart from its sign. -/
def infinityCode : Nat := 314159

/-- A remainder with a sign as a code of 64 bits. The code of minus one is that of minus two. -/
def signedCode (negative : Bool) (remainder : Nat) : Nat :=
  if !negative || remainder = 0 then remainder else Nat.pow 2 64 - max remainder 2

/-- The code of a number. A power of two has a remainder for negative exponents too, since `2 ^ 61` leaves one. -/
def code? : Value → Option Nat
  | .bool b => some (if b then 1 else 0)
  | .int i => some (signedCode (i < 0) (i.natAbs % codeModulus))
  | .float (.infinite negative) => some (signedCode negative infinityCode)
  | .float (.finite negative significand exponent) =>
    some (signedCode negative (significand * Nat.pow 2 (exponent % 61).toNat % codeModulus))
  | _ => none

/-- The number of seats for a number of members: a power of two, at least eight. -/
def seatCount (members : Nat) : Nat :=
  if members < 5 then 8 else Nat.pow 2 (Nat.log2 (2 * members) + 1)

/-- How many seats after a preferred one are tried next, unless they go beyond the last one. -/
def runLength : Nat := 9

/-- The seats that a member prefers from a seat on. The rest of its code decides where it goes on. -/
def preferredFrom (seats : Nat) : Nat → Nat → Nat → List Nat
  | 0, _, _ => []
  | fuel + 1, seat, rest =>
    let run := if seat + runLength < seats then List.range' seat (runLength + 1) else [seat]
    run ++ preferredFrom seats fuel ((5 * seat + 1 + rest / 32) % seats) (rest / 32)

/-- The seats that a code prefers. When its thirteen groups of five bits are used up, the seats that follow are all
seats. -/
def preferred (seats code : Nat) : List Nat :=
  preferredFrom seats (13 + seats) (code % seats) code

/-- Gives a seat to one more member. -/
def seat (seats : Nat) (taken : List (Nat × Value)) (member : Nat × Value) : List (Nat × Value) :=
  let isFree := fun seat => taken.all fun other => other.1 != seat
  (((preferred seats member.1).find? isFree).getD seats, member.2) :: taken

/-- The members of a set in its order. -/
def seated (members : List Value) : List Value :=
  match members.mapM fun member => (code? member).map fun code => (code, member) with
  | none => members
  | some coded => ((coded.foldl (seat (seatCount members.length)) []).mergeSort fun a b => a.1 ≤ b.1).map (·.2)

end Deadwood.Value
