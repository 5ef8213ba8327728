/-
Numbers, dates and times of TOML.

Every recogniser looks at the front of a text and answers with what it found and
what follows, or with `none`; it takes as much as its form allows.
-/
import Deadwood.Number.Numeral
import Deadwood.Value.Basic

namespace Deadwood.Toml

/-- A decimal digit. -/
def isDigit (c : Char) : Bool :=
  '0' ≤ c && c ≤ '9'

/-- A digit of a base up to sixteen. -/
def isDigitOf (base : Nat) (c : Char) : Bool :=
  if base == 2 then c == '0' || c == '1'
  else if base == 8 then '0' ≤ c && c ≤ '7'
  else if base == 10 then isDigit c
  else isDigit c || ('a' ≤ c && c ≤ 'f') || ('A' ≤ c && c ≤ 'F')

/-- The value of a digit. -/
def digitValue (c : Char) : Nat :=
  if isDigit c then c.toNat - 0x30 else if 'a' ≤ c then c.toNat - 0x57 else c.toNat - 0x37

/-- The digits that follow, with single underscores between them, which are left out. -/
def moreDigits (base : Nat) : List Char → List Char × List Char
  | [] => ([], [])
  | '_' :: c :: rest =>
    if isDigitOf base c then
      let (digits, after) := moreDigits base rest
      (c :: digits, after)
    else ([], '_' :: c :: rest)
  | c :: rest =>
    if isDigitOf base c then
      let (digits, after) := moreDigits base rest
      (c :: digits, after)
    else ([], c :: rest)

/-- One or more digits. -/
def digits? (base : Nat) : List Char → Option (List Char × List Char)
  | c :: rest =>
    if isDigitOf base c then
      let (digits, after) := moreDigits base rest
      some (c :: digits, after)
    else none
  | [] => none

/-- The number that digits stand for. -/
def ofDigits (base : Nat) (digits : List Char) : Nat :=
  Numeral.ofDigits base (digits.map digitValue)

/-- An integer in base sixteen, two or eight. -/
def based? : List Char → Option (Value × List Char)
  | '0' :: 'x' :: rest => (digits? 16 rest).map fun (digits, after) => (.int (ofDigits 16 digits), after)
  | '0' :: 'b' :: rest => (digits? 2 rest).map fun (digits, after) => (.int (ofDigits 2 digits), after)
  | '0' :: 'o' :: rest => (digits? 8 rest).map fun (digits, after) => (.int (ofDigits 8 digits), after)
  | _ => none

/-- A sign, if one follows: whether it is a minus. -/
def sign : List Char → Bool × List Char
  | '-' :: rest => (true, rest)
  | '+' :: rest => (false, rest)
  | rest => (false, rest)

/-- The digits before a decimal point: no zero leads. -/
def whole? : List Char → Option (List Char × List Char)
  | '0' :: rest => some (['0'], rest)
  | rest => digits? 10 rest

/-- The digits after a decimal point, if there is one. -/
def fraction : List Char → Option (List Char) × List Char
  | '.' :: rest => match digits? 10 rest with
    | some (digits, after) => (some digits, after)
    | none => (none, '.' :: rest)
  | rest => (none, rest)

/-- An exponent, if there is one. -/
def exponent (chars : List Char) : Option Int × List Char :=
  match chars with
  | c :: rest =>
    if c == 'e' || c == 'E' then
      let (negative, rest) := sign rest
      match digits? 10 rest with
      | some (digits, after) =>
        let n : Int := ofDigits 10 digits
        (some (if negative then -n else n), after)
      | none => (none, chars)
    else (none, chars)
  | [] => (none, chars)

/-- A decimal number: a float if it has a fraction or an exponent. -/
def decimal? (chars : List Char) : Option (Value × List Char) := do
  let (negative, rest) := sign chars
  let (whole, rest) ← whole? rest
  let (fraction, rest) := fraction rest
  let (exponent, rest) := exponent rest
  match fraction, exponent with
  | none, none =>
    let n : Int := ofDigits 10 whole
    return (.int (if negative then -n else n), rest)
  | _, _ =>
    let after := fraction.getD []
    let power := exponent.getD 0 - after.length
    return (.float (Binary64.ofDecimal negative (ofDigits 10 (whole ++ after)) power), rest)

/-- How many digits a decimal integer at the front of a text has, if they are too many. -/
def longInteger? (chars : List Char) : Option Nat := do
  let (_, rest) := sign chars
  let (whole, rest) ← whole? rest
  let (fraction, rest) := fraction rest
  guard (fraction.isNone && (exponent rest).1.isNone && Numeral.maxDigits < whole.length)
  return whole.length

/-- An infinity or a float that is no number. -/
def special? (chars : List Char) : Option (Value × List Char) :=
  let (negative, rest) := sign chars
  if "inf".toList.isPrefixOf rest then some (.float (.infinite negative), rest.drop 3)
  else if "nan".toList.isPrefixOf rest then some (.float .nan, rest.drop 3)
  else none

/-- A number of exactly two digits within bounds. -/
def twoDigits? (least most : Nat) : List Char → Option (Nat × List Char)
  | a :: b :: rest =>
    let n := ofDigits 10 [a, b]
    if isDigit a && isDigit b && least ≤ n && n ≤ most then some (n, rest) else none
  | _ => none

/-- A character that must follow. -/
def exactly? (c : Char) : List Char → Option (List Char)
  | d :: rest => if c == d then some rest else none
  | [] => none

/-- A time of day. Of the digits of a second's fraction, six count. -/
def clock? (chars : List Char) : Option (Clock × List Char) := do
  let (hour, rest) ← twoDigits? 0 23 chars
  let (minute, rest) ← twoDigits? 0 59 (← exactly? ':' rest)
  let (second, rest) ← twoDigits? 0 59 (← exactly? ':' rest)
  match rest with
  | '.' :: tail =>
    let digits := tail.takeWhile isDigit
    if digits.isEmpty then return (⟨hour, minute, second, 0⟩, rest)
    let six := (digits ++ List.replicate 6 '0').take 6
    return (⟨hour, minute, second, ofDigits 10 six⟩, tail.dropWhile isDigit)
  | _ => return (⟨hour, minute, second, 0⟩, rest)

/-- A day, which need not exist. -/
def date? (chars : List Char) : Option (Date × List Char) := do
  let year := chars.take 4
  guard (year.length == 4 && year.all isDigit)
  let (month, rest) ← twoDigits? 1 12 (← exactly? '-' (chars.drop 4))
  let (day, rest) ← twoDigits? 1 31 (← exactly? '-' rest)
  return (⟨ofDigits 10 year, month, day⟩, rest)

/-- The distance from universal time, in seconds. -/
def offset? (chars : List Char) : Option (Int × List Char) :=
  match chars with
  | 'Z' :: rest | 'z' :: rest => some (0, rest)
  | c :: rest =>
    if c == '+' || c == '-' then do
      let (hours, rest) ← twoDigits? 0 23 rest
      let (minutes, rest) ← twoDigits? 0 59 (← exactly? ':' rest)
      let seconds : Int := hours * 3600 + minutes * 60
      return (if c == '-' then -seconds else seconds, rest)
    else none
  | [] => none

/-- The time of day that follows a day, if one does. -/
def clockAfter? : List Char → Option (Clock × List Char)
  | c :: rest => if c == 'T' || c == 't' || c == ' ' then clock? rest else none
  | [] => none

/-- A day, with a time of day and a distance from universal time if they follow. Answers `none` within if there is
no such day. -/
def dateOrMoment? (chars : List Char) : Option (Option Value × List Char) := do
  let (date, rest) ← date? chars
  let exists? := fun value => if date.fault?.isSome then none else some value
  match clockAfter? rest with
  | none => return (exists? (.date date), rest)
  | some (clock, rest) => match offset? rest with
    | none => return (exists? (.moment ⟨date, clock, none⟩), rest)
    | some (offset, rest) => return (exists? (.moment ⟨date, clock, some offset⟩), rest)

end Deadwood.Toml
