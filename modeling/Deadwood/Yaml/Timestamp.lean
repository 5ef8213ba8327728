/-
Dates and times of YAML.
-/
import Deadwood.Calendar
import Deadwood.Number.Numeral

namespace Deadwood.Yaml

/-- A date with its parts as written. The day and the time need not exist. -/
structure Timestamp where
  date : Date
  /-- Whether month and day have two digits each. -/
  isPadded : Bool
  clock : Option Clock := none
  offset : Option Int := none
  deriving Repr

namespace Timestamp

/-- An ASCII digit. -/
def isDigit (c : Char) : Bool :=
  '0' ≤ c && c ≤ '9'

/-- A blank within a line. -/
def isBlank (c : Char) : Bool :=
  c == ' ' || c == '\t'

/-- The number that digits stand for. -/
def number (digits : List Char) : Nat :=
  Numeral.ofDigits 10 (digits.map fun c => c.toNat - 0x30)

/-- Digits, between `least` and `most` of them. -/
def digits? (least most : Nat) (chars : List Char) : Option (List Char × List Char) :=
  let taken := (chars.take most).takeWhile isDigit
  if least ≤ taken.length then some (taken, chars.drop taken.length) else none

/-- A character that must follow. -/
def exactly? (c : Char) : List Char → Option (List Char)
  | d :: rest => if c == d then some rest else none
  | [] => none

/-- What stands between a day and a time of day. -/
def divider? : List Char → Option (List Char)
  | c :: rest =>
    if c == 'T' || c == 't' then some rest
    else if isBlank c then some (rest.dropWhile isBlank)
    else none
  | [] => none

/-- The fraction of a second, in microseconds. -/
def fraction : List Char → Nat × List Char
  | '.' :: rest =>
    let digits := rest.takeWhile isDigit
    (number ((digits ++ List.replicate 6 '0').take 6), rest.dropWhile isDigit)
  | rest => (0, rest)

/-- A distance from universal time, which must end the text. -/
def offset? : List Char → Option Int
  | ['Z'] => some 0
  | c :: rest => do
    guard (c == '+' || c == '-')
    let (hours, rest) ← digits? 1 2 rest
    let minutes ← match rest with
      | [] => some 0
      | ':' :: rest => do
        let (minutes, rest) ← digits? 2 2 rest
        guard rest.isEmpty
        some (number minutes)
      | _ => none
    let seconds : Int := number hours * 3600 + minutes * 60
    some (if c == '-' then -seconds else seconds)
  | [] => none

/-- The time of day and the distance from universal time that end a text. -/
def clockAndOffset? (chars : List Char) : Option (Clock × Option Int) := do
  let (hour, rest) ← digits? 1 2 chars
  let (minute, rest) ← digits? 2 2 (← exactly? ':' rest)
  let (second, rest) ← digits? 2 2 (← exactly? ':' rest)
  let (micro, rest) := fraction rest
  let clock : Clock := ⟨number hour, number minute, number second, micro⟩
  if rest.isEmpty then some (clock, none)
  else (offset? (rest.dropWhile isBlank)).map fun offset => (clock, some offset)

/-- Reads a text as a date or as a date with a time. -/
def parse? (chars : List Char) : Option Timestamp := do
  let (year, rest) ← digits? 4 4 chars
  let (month, rest) ← digits? 1 2 (← exactly? '-' rest)
  let (day, rest) ← digits? 1 2 (← exactly? '-' rest)
  let date : Date := ⟨number year, number month, number day⟩
  let isPadded := month.length == 2 && day.length == 2
  if rest.isEmpty then some { date, isPadded }
  else do
    let (clock, offset) ← clockAndOffset? (← divider? rest)
    some { date, isPadded, clock := some clock, offset }

end Timestamp

end Deadwood.Yaml
