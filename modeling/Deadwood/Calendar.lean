/-
Dates and times of day, as documents hold them.
-/

namespace Deadwood

/-- A day. -/
structure Date where
  year : Nat
  month : Nat
  day : Nat
  deriving DecidableEq, Repr

/-- A time of day. -/
structure Clock where
  hour : Nat
  minute : Nat
  second : Nat
  microsecond : Nat
  deriving DecidableEq, Repr

/-- A day with a time of day, and the distance from universal time in seconds if it is known. -/
structure Moment where
  date : Date
  clock : Clock
  offset : Option Int := none
  deriving DecidableEq, Repr

namespace Date

/-- Whether a year has 366 days. -/
def isLeap (year : Nat) : Bool :=
  year % 4 == 0 && (year % 100 != 0 || year % 400 == 0)

/-- The number of days in a month. -/
def daysIn (year month : Nat) : Nat :=
  if month == 2 then (if isLeap year then 29 else 28)
  else if month == 4 || month == 6 || month == 9 || month == 11 then 30
  else 31

/-- Why there is no such day or time. -/
inductive Fault where
  | year (n : Nat) | month | day | hour | minute | second | microsecond | offset (seconds : Int)
  deriving DecidableEq, Repr

/-- The constructor form of a span of time in seconds: whole days, which may be negative, and the rest. -/
def durationForm (seconds : Int) : String :=
  let days := seconds.fdiv 86400
  let rest := seconds - days * 86400
  let parts := (if days = 0 then [] else [s!"days={days}"]) ++ (if rest = 0 then [] else [s!"seconds={rest}"])
  "datetime.timedelta(" ++ ", ".intercalate parts ++ ")"

/-- The words for a fault. -/
def Fault.message : Fault → String
  | year n => s!"year {n} is out of range"
  | month => "month must be in 1..12"
  | day => "day is out of range for month"
  | hour => "hour must be in 0..23"
  | minute => "minute must be in 0..59"
  | second => "second must be in 0..59"
  | microsecond => "microsecond must be in 0..999999"
  | offset seconds => "offset must be a timedelta strictly between -timedelta(hours=24) and timedelta(hours=24), not " ++
    durationForm seconds ++ "."

/-- What is wrong with a day. -/
def fault? (date : Date) : Option Fault :=
  if date.year < 1 || 9999 < date.year then some (.year date.year)
  else if date.month < 1 || 12 < date.month then some .month
  else if date.day < 1 || daysIn date.year date.month < date.day then some .day
  else none

/-- The number of days up to a day, the first day of the year one included. -/
def ordinal (date : Date) : Nat :=
  let years := date.year - 1
  let months := (List.range (date.month - 1)).map fun month => daysIn date.year (month + 1)
  365 * years + years / 4 - years / 100 + years / 400 + months.foldl (· + ·) 0 + date.day

/-- A number with at least the given count of digits. -/
def padded (width n : Nat) : String :=
  let digits := Nat.toDigits 10 n
  String.ofList (List.replicate (width - digits.length) '0' ++ digits)

/-- The form `2001-02-03`. -/
def text (date : Date) : String :=
  s!"{padded 4 date.year}-{padded 2 date.month}-{padded 2 date.day}"

end Date

namespace Clock

open Date (padded)

/-- What is wrong with a time of day. -/
def fault? (clock : Clock) : Option Date.Fault :=
  if 23 < clock.hour then some .hour
  else if 59 < clock.minute then some .minute
  else if 59 < clock.second then some .second
  else if 999999 < clock.microsecond then some .microsecond
  else none

/-- The form `04:05:06`, with microseconds if there are any. -/
def text (clock : Clock) : String :=
  let whole := s!"{padded 2 clock.hour}:{padded 2 clock.minute}:{padded 2 clock.second}"
  if clock.microsecond = 0 then whole else s!"{whole}.{padded 6 clock.microsecond}"

/-- The microseconds since midnight. -/
def microseconds (clock : Clock) : Nat :=
  ((clock.hour * 60 + clock.minute) * 60 + clock.second) * 1000000 + clock.microsecond

/-- The parts that a constructor form shows: trailing zeros of seconds and microseconds are left out. -/
def shownParts (clock : Clock) : List Nat :=
  [clock.hour, clock.minute] ++
    if clock.microsecond != 0 then [clock.second, clock.microsecond]
    else if clock.second != 0 then [clock.second] else []

end Clock

namespace Moment

/-- What is wrong with a moment. The distance from universal time is less than a day. -/
def fault? (moment : Moment) : Option Date.Fault :=
  match moment.offset with
  | some seconds =>
    if 86400 ≤ seconds.natAbs then some (.offset seconds) else moment.date.fault?.or moment.clock.fault?
  | none => moment.date.fault?.or moment.clock.fault?

/-- The microseconds up to a moment, in universal time if it has the given distance from it. -/
def instant (moment : Moment) (offset : Int) : Int :=
  (moment.date.ordinal * 86400 - offset) * 1000000 + moment.clock.microseconds

/-- Whether two moments are at the same time. A moment whose distance from universal time is unknown cannot be compared
with one whose distance is known. -/
def isSame (a b : Moment) : Bool :=
  match a.offset, b.offset with
  | some x, some y => a.instant x == b.instant y
  | none, none => a == b
  | _, _ => false

/-- The form `+01:30` of a distance from universal time. -/
def offsetText (seconds : Int) : String :=
  let n := seconds.natAbs
  let base := s!"{Date.padded 2 (n / 3600)}:{Date.padded 2 (n / 60 % 60)}"
  (if seconds < 0 then "-" else "+") ++ if n % 60 = 0 then base else s!"{base}:{Date.padded 2 (n % 60)}"

/-- The form `2001-02-03 04:05:06+01:00`. -/
def text (moment : Moment) : String :=
  s!"{moment.date.text} {moment.clock.text}" ++ (moment.offset.elim "" offsetText)

end Moment

end Deadwood
