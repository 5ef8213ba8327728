/-
The shortest decimal text of a binary number.

Of all decimals that read back as a given number, the text shows one with the
fewest digits, and of those the nearest. It is positional from 0.0001 on up to
10^16 and has an exponent of at least two digits otherwise.
-/
import Deadwood.Number.Binary64

namespace Deadwood.Binary64

/-- Compares two quotients: whether the first is less. -/
def ratioLt (a b : Nat × Nat) : Bool :=
  a.1 * b.2 < b.1 * a.2

/-- The decimals that read back as a number lie between two ends, which belong to them if the significand is
even. The gap below a power of two is half of that above. -/
structure Interval where
  low : Nat × Nat
  high : Nat × Nat
  closed : Bool

/-- The interval of a positive number. -/
def interval (significand : Nat) (exponent : Int) : Interval :=
  let atPower := significand == Nat.pow 2 52 && exponent != minExponent
  { low := if atPower then ratio (4 * significand - 1) (exponent - 2) else ratio (2 * significand - 1) (exponent - 1)
    high := ratio (2 * significand + 1) (exponent - 1)
    closed := significand % 2 == 0 }

/-- Whether a quotient lies in an interval. -/
def Interval.contains (i : Interval) (x : Nat × Nat) : Bool :=
  if i.closed then !ratioLt x i.low && !ratioLt i.high x else ratioLt i.low x && ratioLt x i.high

/-- A decimal `digits * 10 ^ power` as a quotient. -/
def decimalRatio (digits : Nat) (power : Int) : Nat × Nat :=
  if power < 0 then (digits, Nat.pow 10 (-power).toNat) else (digits * Nat.pow 10 power.toNat, 1)

/-- The power of ten such that a positive quotient is at least it and less than ten times it, found from a lower
bound. -/
def decimalExponent (x : Nat × Nat) : Int :=
  let guess : Int := (Nat.toDigits 10 x.1).length - (Nat.toDigits 10 x.2).length - 1
  if ratioLt x (decimalRatio 1 (guess + 1)) then guess else guess + 1

/-- The decimal with the given last place that is nearest to a quotient among those of an interval. -/
def nearest? (i : Interval) (x : Nat × Nat) (power : Int) : Option Nat :=
  let (num, den) := if power < 0 then (x.1 * Nat.pow 10 (-power).toNat, x.2) else (x.1, x.2 * Nat.pow 10 power.toNat)
  let below := num / den
  let rounded := roundDiv num den
  let other := if rounded == below then below + 1 else below
  if i.contains (decimalRatio rounded power) then some rounded
  else if i.contains (decimalRatio other power) then some other
  else none

/-- Tries one more digit at a time. -/
def search (i : Interval) (x : Nat × Nat) (top : Int) : Nat → Nat → Nat × Int
  | 0, count => (roundDiv (x.1 * Nat.pow 10 (count - 1)) x.2, top - count + 1)
  | tries + 1, count => match nearest? i x (top - count + 1) with
    | some digits => (digits, top - count + 1)
    | none => search i x top tries (count + 1)

/-- The digits of the shortest decimal of a positive number, and the power of ten of the last one. -/
def shortestDecimal (significand : Nat) (exponent : Int) : Nat × Int :=
  let x := ratio significand exponent
  search (interval significand exponent) x (decimalExponent x) 17 1

/-- Drops zeros at the end of a list of digits. -/
def dropTrailingZeros (digits : List Char) : List Char :=
  (digits.reverse.dropWhile (· == '0')).reverse

/-- A text of an exponent: a sign and at least two digits. -/
def exponentText (e : Int) : String :=
  let digits := toString e.natAbs
  (if e < 0 then "e-" else "e+") ++ (if digits.length < 2 then "0" ++ digits else digits)

/-- The text of a positive decimal with the given digits, of which the point stands after the first `point`
ones. -/
def layout (digits : List Char) (point : Int) : String :=
  if -4 < point && point ≤ 16 then
    if point ≤ 0 then
      "0." ++ String.ofList (List.replicate (-point).toNat '0' ++ digits)
    else
      let whole := digits.take point.toNat ++ List.replicate (point.toNat - digits.length) '0'
      let fraction := digits.drop point.toNat
      String.ofList whole ++ "." ++ (if fraction.isEmpty then "0" else String.ofList fraction)
  else
    let fraction := digits.drop 1
    String.ofList (digits.take 1) ++ (if fraction.isEmpty then "" else "." ++ String.ofList fraction) ++
      exponentText (point - 1)

/-- The shortest text of a number. -/
def text : Binary64 → String
  | .nan => "nan"
  | .infinite negative => if negative then "-inf" else "inf"
  | .finite negative significand exponent =>
    (if negative then "-" else "") ++
      if significand = 0 then "0.0"
      else
        let (digits, power) := shortestDecimal significand exponent
        let all := Nat.toDigits 10 digits
        layout (dropTrailingZeros all) (all.length + power)

end Deadwood.Binary64
