/-
Numbers written as text.
-/
import Deadwood.Number.Binary64
import Deadwood.Text.Blank
import Deadwood.Text.Digit
import Deadwood.Text.Quoted

namespace Deadwood.Numeral

/-- The most digits that a decimal integer may have, in a text that is read or shown. -/
def maxDigits : Nat := 4300

/-- Why a text is no integer. -/
inductive Fault where
  | malformed
  /-- It has too many decimal digits. -/
  | tooLong (digits : Nat)
  deriving DecidableEq, Repr

/-- The words for an integer with too many digits in a text. -/
def tooLongMessage (digits : Nat) : String :=
  s!"Exceeds the limit ({maxDigits} digits) for integer string conversion: value has {digits} digits; " ++
    "use sys.set_int_max_str_digits() to increase the limit"

/-- The words for an integer that has too many digits to be shown. -/
def unshowableMessage : String :=
  s!"Exceeds the limit ({maxDigits} digits) for integer string conversion; " ++
    "use sys.set_int_max_str_digits() to increase the limit"

/-- How much of a text that is no integer is shown, quotes included. -/
def shownLength : Nat := 200

/-- The words for a text that is no integer in a base. A long text is cut off. -/
def malformedMessage (base : Nat) (text : String) : String :=
  s!"invalid literal for int() with base {base}: " ++ String.ofList ((Text.quoted text).toList.take shownLength)

/-- Whether an integer has few enough digits to be shown. -/
def isShowable (n : Int) : Bool :=
  n.natAbs < Nat.pow 10 maxDigits

/-- The number with the given digits. -/
def ofDigits (base : Nat) (digits : List Nat) : Nat :=
  digits.foldl (fun n digit => n * base + digit) 0

/-- The value of a digit of a base: a decimal digit of any script, or a Latin letter. -/
def digitValue? (base : Nat) (c : Char) : Option Nat :=
  let letter := if 'a' ≤ c && c ≤ 'z' then some (c.toNat - 0x57)
    else if 'A' ≤ c && c ≤ 'Z' then some (c.toNat - 0x37) else none
  ((Text.digitValue? c).or letter).filter (· < base)

/-- The digits at the front of a text, with single underscores allowed between two of them, and what follows. -/
def digitsFront (base : Nat) : List Char → List Nat × List Char
  | [] => ([], [])
  | c :: rest => match digitValue? base c with
    | none => ([], c :: rest)
    | some digit => match rest with
      | '_' :: d :: after =>
        if (digitValue? base d).isSome then
          let (digits, rest) := digitsFront base (d :: after)
          (digit :: digits, rest)
        else ([digit], rest)
      | rest =>
        let (digits, rest) := digitsFront base rest
        (digit :: digits, rest)

/-- Drops the mark of a base, and an underscore behind it. Base ten has no mark. -/
def dropMark (base : Nat) (chars : List Char) : List Char :=
  let marks := match base with
    | 2 => ['b', 'B']
    | 8 => ['o', 'O']
    | 16 => ['x', 'X']
    | _ => []
  match chars with
  | '0' :: mark :: rest =>
    if marks.contains mark then
      match rest with
      | '_' :: rest => rest
      | rest => rest
    else chars
  | _ => chars

/-- The natural number of a numeral in a base. The number of digits is limited in base ten only, where it counts
before what follows them. -/
def natOf (base : Nat) (chars : List Char) : Except Fault Nat :=
  let (digits, rest) := digitsFront base (dropMark base chars)
  if base == 10 && maxDigits < digits.length then .error (.tooLong digits.length)
  else if digits.isEmpty || !rest.isEmpty then .error .malformed
  else .ok (ofDigits base digits)

/-- The integer of a numeral in a base, with an optional sign and blanks around it. -/
def intOf (base : Nat) (s : String) : Except Fault Int :=
  match Text.trimWhile Text.isNumeralBlank s.toList with
  | '-' :: rest => (natOf base rest).map fun n => -(n : Int)
  | '+' :: rest => (natOf base rest).map fun n => (n : Int)
  | cs => (natOf base cs).map fun n => (n : Int)

/-- The integer of a decimal numeral with an optional sign and blanks around it. -/
def int? (s : String) : Option Int :=
  (intOf 10 s).toOption

/-- A sign, if one follows: whether it is a minus. -/
def sign : List Char → Bool × List Char
  | '-' :: rest => (true, rest)
  | '+' :: rest => (false, rest)
  | rest => (false, rest)

/-- The values of the digits at the front of a text, without underscores. -/
def leadingDigits : List Char → List Nat × List Char
  | [] => ([], [])
  | c :: rest => match Text.digitValue? c with
    | some digit =>
      let (digits, after) := leadingDigits rest
      (digit :: digits, after)
    | none => ([], c :: rest)

/-- The exponent that a text consists of; an empty text is the exponent zero. -/
def exponent? : List Char → Option Int
  | [] => some 0
  | e :: rest =>
    let (negative, rest) := sign rest
    match leadingDigits rest with
    | (digit :: digits, []) =>
      let n : Int := ofDigits 10 (digit :: digits)
      if e == 'e' || e == 'E' then some (if negative then -n else n) else none
    | _ => none

/-- The float of a decimal numeral without a sign. -/
def unsignedFloat? (negative : Bool) (chars : List Char) : Option Binary64 :=
  match String.ofList chars with
  | "inf" | "infinity" => some (.infinite negative)
  | "nan" => some .nan
  | _ =>
    let (whole, rest) := leadingDigits chars
    let (fraction, rest) := match rest with
      | '.' :: rest => leadingDigits rest
      | _ => ([], rest)
    if whole.isEmpty && fraction.isEmpty then none
    else (exponent? rest).map fun power =>
      Binary64.ofDecimal negative (ofDigits 10 (whole ++ fraction)) (power - fraction.length)

/-- The float of a numeral in lower case, with an optional sign and blanks around it. -/
def float? (s : String) : Option Binary64 :=
  let (negative, rest) := sign (Text.trimWhile Text.isNumeralBlank s.toList)
  unsignedFloat? negative rest

end Deadwood.Numeral
