/-
The text of a document value.

A text shows as itself, and in quotes where it is part of another value. Lists,
tuples, sets and maps show their parts in brackets of their own kind.
-/
import Deadwood.Number.Numeral
import Deadwood.Number.Shortest
import Deadwood.Text.Quoted
import Deadwood.Value.Basic

namespace Deadwood.Value

/-- One byte between quotes. -/
def quoteByte (quote : Char) (b : UInt8) : String :=
  let c := Char.ofNat b.toNat
  if c == quote || c == '\\' then String.ofList ['\\', c]
  else if c == '\n' then "\\n"
  else if c == '\r' then "\\r"
  else if c == '\t' then "\\t"
  else if b < 0x20 || 0x7F ≤ b then "\\x" ++ Text.hexPadded 2 b.toNat
  else String.singleton c

/-- Bytes in quotes. -/
def quotedBytes (bs : List UInt8) : String :=
  let quote := Text.quoteFor (bs.map fun b => Char.ofNat b.toNat)
  "b" ++ String.singleton quote ++ String.join (bs.map (quoteByte quote)) ++ String.singleton quote

/-- A constructor form with its arguments. -/
def constructed (name : String) (arguments : List String) : String :=
  name ++ "(" ++ ", ".intercalate arguments ++ ")"

/-- The constructor form of a distance from universal time. -/
def offsetForm (seconds : Int) : String :=
  if seconds = 0 then "datetime.timezone.utc" else constructed "datetime.timezone" [Date.durationForm seconds]

/-- The arguments of the constructor form of a day. -/
def dateArguments (date : Date) : List String :=
  [toString date.year, toString date.month, toString date.day]

/-- The constructor form of a day. -/
def dateForm (date : Date) : String :=
  constructed "datetime.date" (dateArguments date)

/-- The constructor form of a time of day. -/
def clockForm (clock : Clock) : String :=
  constructed "datetime.time" (clock.shownParts.map toString)

/-- The constructor form of a moment. -/
def momentForm (moment : Moment) : String :=
  constructed "datetime.datetime" (dateArguments moment.date ++ moment.clock.shownParts.map toString ++
    moment.offset.elim [] fun seconds => ["tzinfo=" ++ offsetForm seconds])

mutual

/-- The text of a value as a part of another one. -/
def form : Value → String
  | .null => "None"
  | .bool b => if b then "True" else "False"
  | .int i => toString i
  | .float x => x.text
  | .text s => Text.quoted s
  | .bytes b => quotedBytes b
  | .date d => dateForm d
  | .clock c => clockForm c
  | .moment m => momentForm m
  | .list items => "[" ++ ", ".intercalate (forms items) ++ "]"
  | .tuple items => match forms items with
    | [only] => "(" ++ only ++ ",)"
    | texts => "(" ++ ", ".intercalate texts ++ ")"
  | .set items => match forms items with
    | [] => "set()"
    | texts => "\x7b" ++ ", ".intercalate texts ++ "\x7d"
  | .map entries => "\x7b" ++ ", ".intercalate (entryForms entries) ++ "\x7d"
  | .knot shown _ => shown

/-- The texts of several values. -/
def forms : List Value → List String
  | [] => []
  | item :: rest => form item :: forms rest

/-- The texts of several entries of a map. -/
def entryForms : List (Value × Value) → List String
  | [] => []
  | (key, value) :: rest => (form key ++ ": " ++ form value) :: entryForms rest

end

/-- Why a value cannot be shown. -/
inductive ShowFault where
  /-- An integer has too many digits. -/
  | longInteger
  /-- A part is nested too deeply. -/
  | tooDeep
  deriving DecidableEq, Repr

mutual

/-- The first thing for which a value cannot be shown, if its parts may be nested to a depth. -/
def fault? : Nat → Value → Option ShowFault
  | _, .int i => if Numeral.isShowable i then none else some .longInteger
  | depth, .list items | depth, .tuple items => faultAmong? depth items
  -- A set is shown as the list of its items, which is a level more.
  | depth, .set items => faultAmong? (depth - 1) items
  | depth, .map entries => entryFault? depth entries
  | depth, .knot _ content => fault? depth content
  | _, _ => none

/-- The first thing for which some parts of a value cannot be shown. -/
def faultAmong? : Nat → List Value → Option ShowFault
  | _, [] => none
  | 0, _ :: _ => some .tooDeep
  | depth + 1, item :: rest => (fault? depth item).or (faultAmong? (depth + 1) rest)

/-- The first thing for which some entries of a map cannot be shown. -/
def entryFault? : Nat → List (Value × Value) → Option ShowFault
  | _, [] => none
  | 0, _ :: _ => some .tooDeep
  | depth + 1, (key, value) :: rest =>
    ((fault? depth key).or (fault? depth value)).or (entryFault? (depth + 1) rest)

end

/-- The text of a value by itself. -/
def display : Value → String
  | .text s => s
  | .date d => d.text
  | .clock c => c.text
  | .moment m => m.text
  | value => form value

end Deadwood.Value
