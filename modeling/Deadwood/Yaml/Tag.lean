/-
Types of YAML nodes.

A tag names the type of a node. A plain scalar without a tag has the type that
its form suggests: `yes` is a truth value, `010` and `1:30` are integers, and
what has no other form is a text.
-/
import Deadwood.Text.Blank
import Deadwood.Yaml.Timestamp

namespace Deadwood.Yaml

/-- A type of nodes. -/
inductive Tag where
  | null | bool | int | float | binary | timestamp | text
  | sequence | mapping | set | orderedMap | pairs
  | merge | value
  | other (name : String)
  deriving DecidableEq, Repr

/-- What `!!` stands for. -/
def coreNamespace : String := "tag:yaml.org,2002:"

/-- The type that a full tag names. -/
def Tag.ofName (name : String) : Tag :=
  if coreNamespace.toList.isPrefixOf name.toList then
    match String.ofList (name.toList.drop coreNamespace.length) with
    | "null" => null
    | "bool" => bool
    | "int" => int
    | "float" => float
    | "binary" => binary
    | "timestamp" => timestamp
    | "str" => text
    | "seq" => sequence
    | "map" => mapping
    | "set" => set
    | "omap" => orderedMap
    | "pairs" => pairs
    | "merge" => merge
    | "value" => value
    | _ => other name
  else other name

namespace Plain

/-- The truth values, as they may be written. -/
def truthWords : List String :=
  ["yes", "Yes", "YES", "no", "No", "NO", "true", "True", "TRUE", "false", "False", "FALSE", "on", "On", "ON",
    "off", "Off", "OFF"]

/-- The spellings of nothing. -/
def nullWords : List String := ["", "~", "null", "Null", "NULL"]

/-- An ASCII digit. -/
def isDigit (c : Char) : Bool :=
  '0' ≤ c && c ≤ '9'

/-- A digit or an underscore. -/
def isDigitOrMark (c : Char) : Bool :=
  isDigit c || c == '_'

/-- Drops a sign. -/
def dropSign : List Char → List Char
  | '-' :: rest => rest
  | '+' :: rest => rest
  | rest => rest

/-- Whether a part after a colon is a number below sixty. -/
def isSixtieth : List Char → Bool
  | [a] => isDigit a
  | [a, b] => '0' ≤ a && a ≤ '5' && isDigit b
  | _ => false

/-- Whether a number is written in base sixty: digits, and one or more parts after colons. -/
def isBaseSixty (first : Char → Bool) (chars : List Char) : Bool :=
  match chars.splitOn ':' with
  | (c :: rest) :: part :: parts => first c && rest.all isDigitOrMark && (part :: parts).all isSixtieth
  | _ => false

/-- Whether a text is an integer. -/
def isInt (chars : List Char) : Bool :=
  let leading := fun c => '1' ≤ c && c ≤ '9'
  let unsigned := dropSign chars
  match unsigned with
  | ['0'] => true
  | '0' :: 'b' :: rest => !rest.isEmpty && rest.all fun c => c == '0' || c == '1' || c == '_'
  | '0' :: 'x' :: rest =>
    !rest.isEmpty && rest.all fun c => isDigitOrMark c || ('a' ≤ c && c ≤ 'f') || ('A' ≤ c && c ≤ 'F')
  | '0' :: rest => rest.all fun c => ('0' ≤ c && c ≤ '7') || c == '_'
  | c :: rest => (leading c && rest.all isDigitOrMark) || isBaseSixty leading unsigned
  | [] => false

/-- Whether a text is empty or a signed exponent. -/
def isExponent : List Char → Bool
  | [] => true
  | e :: sign :: digits =>
    (e == 'e' || e == 'E') && (sign == '-' || sign == '+') && !digits.isEmpty && digits.all isDigit
  | _ => false

/-- Whether a text is a float. A fraction without an integer part has no sign. -/
def isFloat (chars : List Char) : Bool :=
  let unsigned := dropSign chars
  let whole := unsigned.takeWhile (· != '.')
  let hasFraction := match unsigned.dropWhile (· != '.') with
    | '.' :: rest => isExponent (rest.dropWhile isDigitOrMark)
    | _ => false
  let hasPlainFraction := match unsigned.dropWhile (· != '.') with
    | '.' :: rest => rest.all isDigitOrMark
    | _ => false
  let startsWithDigit := match whole with
    | c :: rest => isDigit c && rest.all isDigitOrMark
    | [] => false
  let isBare := match chars with
    | '.' :: c :: rest => isDigit c && isExponent (rest.dropWhile isDigitOrMark)
    | _ => false
  (startsWithDigit && hasFraction) || isBare || (isBaseSixty isDigit whole && hasPlainFraction) ||
    [".inf", ".Inf", ".INF"].contains (String.ofList unsigned) ||
    [".nan", ".NaN", ".NAN"].contains (String.ofList chars)

/-- Whether a text is a timestamp. A date by itself has two digits for month and day. -/
def isTimestamp (chars : List Char) : Bool :=
  match Timestamp.parse? chars with
  | some stamp => stamp.clock.isSome || stamp.isPadded
  | none => false

/-- The type that the form of a scalar suggests. A line feed at the end of the text does not count. -/
def tag (text : String) : Tag :=
  let chars := if text == "\n" then text.toList else Text.dropFinalBreak text.toList
  let text := String.ofList chars
  if truthWords.contains text then .bool
  else if isFloat chars then .float
  else if isInt chars then .int
  else if text == "<<" then .merge
  else if nullWords.contains text then .null
  else if isTimestamp chars then .timestamp
  else if text == "=" then .value
  else if ["!", "&", "*"].contains text then .other (coreNamespace ++ "yaml")
  else .text

end Plain

end Deadwood.Yaml
