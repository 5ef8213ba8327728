/-
Binary floating-point numbers of 64 bits, as exact data.

A finite number is a sign, a significand of at most 53 bits and a power of two.
`ofRatio` rounds a quotient of natural numbers to the nearest such number, a tie
to the even significand; decimal numerals are read through it. Nothing here
depends on the arithmetic of the machine.
-/

namespace Deadwood

/-- A number `± significand * 2 ^ exponent`, an infinity, or no number. -/
inductive Binary64 where
  | nan
  | infinite (negative : Bool)
  | finite (negative : Bool) (significand : Nat) (exponent : Int)
  deriving DecidableEq, Repr

namespace Binary64

/-- The least exponent of a finite number. -/
def minExponent : Int := -1074

/-- The greatest exponent of a finite number. -/
def maxExponent : Int := 971

/-- A power of two times a quotient, as a quotient. -/
def scale (num den : Nat) (power : Int) : Nat × Nat :=
  if power < 0 then (num, den * Nat.pow 2 (-power).toNat) else (num * Nat.pow 2 power.toNat, den)

/-- The nearest natural number to a quotient, a tie to the even one. -/
def roundDiv (num den : Nat) : Nat :=
  let quotient := num / den
  let twice := 2 * (num % den)
  if twice < den || (twice == den && quotient % 2 == 0) then quotient else quotient + 1

/-- The exponent with which a positive quotient has a significand of 53 bits, but not below the least one. -/
def exponentOf (num den : Nat) : Int :=
  let guess : Int := (Nat.log2 num : Int) - (Nat.log2 den : Int) - 53
  let (n, d) := scale num den (-guess)
  let exponent := if n / d < Nat.pow 2 53 then guess else guess + 1
  max exponent minExponent

/-- Puts a rounded significand of up to 53 bits in range. -/
def ofRounded (negative : Bool) (significand : Nat) (exponent : Int) : Binary64 :=
  let (significand, exponent) :=
    if significand < Nat.pow 2 53 then (significand, exponent) else (significand / 2, exponent + 1)
  if maxExponent < exponent then .infinite negative else .finite negative significand exponent

/-- The number nearest to `± num / den`. -/
def ofRatio (negative : Bool) (num den : Nat) : Binary64 :=
  if num = 0 then .finite negative 0 minExponent
  else
    let exponent := exponentOf num den
    let (n, d) := scale num den (-exponent)
    ofRounded negative (roundDiv n d) exponent

/-- The number nearest to `± digits * 10 ^ power`. Powers beyond every finite number are cut off early. -/
def ofDecimal (negative : Bool) (digits : Nat) (power : Int) : Binary64 :=
  let magnitude : Int := (Nat.toDigits 10 digits).length + power
  if digits = 0 || magnitude < -400 then .finite negative 0 minExponent
  else if 400 < magnitude then .infinite negative
  else if power < 0 then ofRatio negative digits (Nat.pow 10 (-power).toNat)
  else ofRatio negative (digits * Nat.pow 10 power.toNat) 1

/-- The number nearest to an integer. -/
def ofInt (i : Int) : Binary64 :=
  ofRatio (i < 0) i.natAbs 1

/-- Whether a number is zero. -/
def isZero : Binary64 → Bool
  | .finite _ significand _ => significand == 0
  | _ => false

/-- The size of a finite number as a quotient. -/
def ratio (significand : Nat) (exponent : Int) : Nat × Nat :=
  scale significand 1 exponent

/-- The opposite number. -/
def negate : Binary64 → Binary64
  | .nan => .nan
  | .infinite negative => .infinite !negative
  | .finite negative significand exponent => .finite (!negative) significand exponent

/-- A number with a sign in front. -/
def signed (negative : Bool) (significand : Nat) (exponent : Int) : Int × Nat :=
  let (n, d) := ratio significand exponent
  (if negative then -(n : Int) else n, d)

/-- The nearest number to a sum of two finite numbers. -/
def add : Binary64 → Binary64 → Binary64
  | .finite n₁ s₁ e₁, .finite n₂ s₂ e₂ =>
    let (a, b) := signed n₁ s₁ e₁
    let (c, d) := signed n₂ s₂ e₂
    let sum := a * d + c * b
    ofRatio (if sum = 0 then n₁ && n₂ else sum < 0) sum.natAbs (b * d)
  | .nan, _ | _, .nan => .nan
  | .infinite n₁, .infinite n₂ => if n₁ == n₂ then .infinite n₁ else .nan
  | .infinite n, _ | _, .infinite n => .infinite n

/-- The nearest number to a product. An infinity times zero is no number. -/
def mul : Binary64 → Binary64 → Binary64
  | .finite n₁ s₁ e₁, .finite n₂ s₂ e₂ =>
    let (a, b) := ratio s₁ e₁
    let (c, d) := ratio s₂ e₂
    ofRatio (n₁ != n₂) (a * c) (b * d)
  | .nan, _ | _, .nan => .nan
  | .infinite n₁, .infinite n₂ => .infinite (n₁ != n₂)
  | .infinite n₁, .finite n₂ s _ | .finite n₁ s _, .infinite n₂ => if s = 0 then .nan else .infinite (n₁ != n₂)

/-- Why a number has no integer part. -/
inductive NoInteger where
  | infinite | nan
  deriving DecidableEq, Repr

/-- The integer part of a number, rounded toward zero. -/
def truncate : Binary64 → Except NoInteger Int
  | .nan => .error .nan
  | .infinite _ => .error .infinite
  | .finite negative significand exponent =>
    let (n, d) := ratio significand exponent
    .ok (if negative then -((n / d : Nat) : Int) else (n / d : Nat))

end Binary64

end Deadwood
