/-
Finite sets of small numbers.

A set is the number whose binary digits mark the members, so that the union and
the intersection of two sets are single operations.
-/

namespace Deadwood.Parsing

/-- A finite set of numbers: `n` is a member when the binary digit of `bits` at place `n` is one. -/
structure BitSet where
  bits : Nat
  deriving DecidableEq, Inhabited

namespace BitSet

/-- The set without members. -/
def empty : BitSet := ⟨0⟩

/-- The set of one number. -/
def single (n : Nat) : BitSet := ⟨1 <<< n⟩

/-- The set of the numbers below a bound. -/
def below (bound : Nat) : BitSet := ⟨1 <<< bound - 1⟩

/-- Whether a number is a member. -/
def contains (s : BitSet) (n : Nat) : Bool :=
  s.bits.testBit n

/-- Whether there are no members. -/
def isEmpty (s : BitSet) : Bool :=
  s.bits == 0

/-- The numbers in one of two sets. -/
def union (s t : BitSet) : BitSet := ⟨s.bits ||| t.bits⟩

/-- The numbers in both of two sets. -/
def inter (s t : BitSet) : BitSet := ⟨s.bits &&& t.bits⟩

/-- The numbers in the first set and not in the second. -/
def diff (s t : BitSet) : BitSet := ⟨s.bits ^^^ (s.bits &&& t.bits)⟩

/-- Whether two sets have a member in common. -/
def meets (s t : BitSet) : Bool :=
  s.bits &&& t.bits != 0

/-- The set with one more member. -/
def insert (s : BitSet) (n : Nat) : BitSet :=
  s.union (single n)

/-- The set of the numbers in a list. -/
def ofList (members : List Nat) : BitSet :=
  members.foldl insert empty

/-- The members in increasing order. They are looked for in blocks of 32, which fit into a machine word. -/
def toList (s : BitSet) : List Nat :=
  (List.range (s.bits.log2 / 32 + 1)).flatMap fun block =>
    let part := (s.bits >>> (32 * block)) % Nat.pow 2 32
    if part == 0 then []
    else ((List.range 32).filter part.testBit).map (32 * block + ·)

/-- The union of the sets that belong to the members. -/
def unionOver (s : BitSet) (f : Nat → BitSet) : BitSet :=
  s.toList.foldl (fun all n => all.union (f n)) empty

instance : Hashable BitSet where
  hash s := mixHash (hash s.bits) (mixHash (hash (s.bits >>> 64)) (hash (s.bits >>> 128)))

end BitSet

end Deadwood.Parsing
