/-
Reading JSON.

`Json.parse?` accepts exactly one document, with blanks around it. Of two members
of an object with one name the later value counts, at the place of the first. The
words for numbers that are not finite are read as they are written.
-/
import Deadwood.Json.Basic
import Deadwood.OrderedMap
import Deadwood.Text.Point

namespace Deadwood.Json

/-- A blank of the JSON grammar. -/
def isSpace (c : Char) : Bool :=
  c == ' ' || c == '\n' || c == '\r' || c == '\t'

/-- Skips blanks. -/
def skip (cs : List Char) : List Char :=
  cs.dropWhile isSpace

/-- The value of a hexadecimal digit. -/
def hexDigit? (c : Char) : Option Nat :=
  if '0' ≤ c && c ≤ '9' then some (c.toNat - 48)
  else if 'a' ≤ c && c ≤ 'f' then some (c.toNat - 87)
  else if 'A' ≤ c && c ≤ 'F' then some (c.toNat - 55)
  else none

/-- The unit written with four hexadecimal digits. -/
def unit? : List Char → Option (Nat × List Char)
  | a :: b :: c :: d :: rest => do
    return (((← hexDigit? a) * 16 + (← hexDigit? b)) * 256 + (← hexDigit? c) * 16 + (← hexDigit? d), rest)
  | _ => none

/-- The code point of a `\u` escape: two units make one character beyond U+FFFF, and half of such a pair stands for
itself. -/
def unicodeEscape? (cs : List Char) : Option (Point × List Char) := do
  let (high, rest) ← unit? cs
  if 0xD800 ≤ high && high < 0xDC00 then
    match rest with
    | '\\' :: 'u' :: more => match unit? more with
      | some (low, rest') =>
        if 0xDC00 ≤ low && low < 0xE000 then
          return (.char (Char.ofNat (0x10000 + (high - 0xD800) * 0x400 + (low - 0xDC00))), rest')
        else return (.ofCode high, rest)
      | none => return (.ofCode high, rest)
    | _ => return (.ofCode high, rest)
  else return (.ofCode high, rest)

/-- The code point of an escape, from after the backslash. -/
def escaped? : List Char → Option (Point × List Char)
  | '"' :: rest => some (.char '"', rest)
  | '\\' :: rest => some (.char '\\', rest)
  | '/' :: rest => some (.char '/', rest)
  | 'n' :: rest => some (.char '\n', rest)
  | 'r' :: rest => some (.char '\r', rest)
  | 't' :: rest => some (.char '\t', rest)
  | 'b' :: rest => some (.char '\x08', rest)
  | 'f' :: rest => some (.char '\x0c', rest)
  | 'u' :: rest => unicodeEscape? rest
  | _ => none

/-- The rest of a text, from after its opening quote, with at most `fuel` characters. -/
def textTail? : Nat → List Char → Option (List Char × List Char)
  | 0, _ => none
  | fuel + 1, cs => match cs with
    | [] => none
    | '"' :: rest => some ([], rest)
    | '\\' :: rest => do
      let (point, rest) ← escaped? rest
      let (tail, rest) ← textTail? fuel rest
      return (point.chars ++ tail, rest)
    | c :: rest => if c.toNat < 0x20 then none else do
      let (tail, rest) ← textTail? fuel rest
      return ((Point.char c).chars ++ tail, rest)

/-- A decimal digit. -/
def isDigit (c : Char) : Bool :=
  '0' ≤ c && c ≤ '9'

/-- The number with the given decimal digits. -/
def natOf (digits : List Char) : Nat :=
  digits.foldl (fun n c => n * 10 + (c.toNat - 48)) 0

/-- The exponent of a number, if there is one. -/
def exponent? (cs : List Char) : Option (Option Int × List Char) :=
  match cs with
  | e :: rest =>
    if e == 'e' || e == 'E' then
      let (negative, rest) := match rest with
        | '-' :: rest => (true, rest)
        | '+' :: rest => (false, rest)
        | rest => (false, rest)
      let digits := rest.takeWhile isDigit
      if digits.isEmpty then none
      else some (some (if negative then -(natOf digits : Int) else natOf digits), rest.dropWhile isDigit)
    else some (none, cs)
  | [] => some (none, [])

/-- The fraction of a number, if there is one. -/
def fraction? (cs : List Char) : Option (Option (List Char) × List Char) :=
  match cs with
  | '.' :: rest =>
    let digits := rest.takeWhile isDigit
    if digits.isEmpty then none else some (some digits, rest.dropWhile isDigit)
  | cs => some (none, cs)

/-- A number. Without fraction and exponent it is an integer. -/
def number? (cs : List Char) : Option (Json × List Char) := do
  let (negative, cs) := match cs with
    | '-' :: rest => (true, rest)
    | cs => (false, cs)
  let whole := cs.takeWhile isDigit
  if whole.isEmpty || (whole.length > 1 && whole.head? == some '0') then none
  else
    let (fraction, rest) ← fraction? (cs.dropWhile isDigit)
    let (exponent, rest) ← exponent? rest
    if fraction.isNone && exponent.isNone then
      return (.int (if negative then -(natOf whole : Int) else natOf whole), rest)
    else
      let places := fraction.getD []
      return (.float (.ofDecimal negative (natOf (whole ++ places)) (exponent.getD 0 - places.length)), rest)

/-- The rest after a fixed word. -/
def afterWord? (word : String) (cs : List Char) : Option (List Char) :=
  if word.toList.isPrefixOf cs then some (cs.drop word.length) else none

mutual

/-- A document at the start of some characters, in at most `fuel` steps. -/
def value? (fuel : Nat) (cs : List Char) : Option (Json × List Char) :=
  match fuel with
  | 0 => none
  | fuel + 1 => match cs with
    | '"' :: rest => do
      let (s, rest) ← textTail? (rest.length + 1) rest
      return (.text (String.ofList s), rest)
    | '[' :: rest => match skip rest with
      | ']' :: rest => some (.list [], rest)
      | rest => do
        let (items, rest) ← items? fuel rest
        return (.list items, rest)
    | '\x7b' :: rest => match skip rest with
      | '\x7d' :: rest => some (.object [], rest)
      | rest => do
        let (members, rest) ← members? fuel rest
        return (.object (OrderedMap.ofList members).entries, rest)
    | 'n' :: _ => (afterWord? "null" cs).map (.null, ·)
    | 't' :: _ => (afterWord? "true" cs).map (.bool true, ·)
    | 'f' :: _ => (afterWord? "false" cs).map (.bool false, ·)
    | 'N' :: _ => (afterWord? "NaN" cs).map (.float .nan, ·)
    | 'I' :: _ => (afterWord? "Infinity" cs).map (.float (.infinite false), ·)
    | '-' :: 'I' :: _ => (afterWord? "-Infinity" cs).map (.float (.infinite true), ·)
    | _ => number? cs

/-- The items of a list up to its closing bracket. -/
def items? (fuel : Nat) (cs : List Char) : Option (List Json × List Char) :=
  match fuel with
  | 0 => none
  | fuel + 1 => do
    let (item, rest) ← value? fuel (skip cs)
    match skip rest with
    | ']' :: rest => return ([item], rest)
    | ',' :: rest =>
      let (items, rest) ← items? fuel rest
      return (item :: items, rest)
    | _ => none

/-- The members of an object up to its closing brace. -/
def members? (fuel : Nat) (cs : List Char) : Option (List (String × Json) × List Char) :=
  match fuel with
  | 0 => none
  | fuel + 1 => match skip cs with
    | '"' :: rest => do
      let (name, rest) ← textTail? (rest.length + 1) rest
      match skip rest with
      | ':' :: rest =>
        let (value, rest) ← value? fuel (skip rest)
        match skip rest with
        | '\x7d' :: rest => return ([(String.ofList name, value)], rest)
        | ',' :: rest =>
          let (members, rest) ← members? fuel rest
          return ((String.ofList name, value) :: members, rest)
        | _ => none
      | _ => none
    | _ => none

end

/-- The document of a text. -/
def parse? (s : String) : Option Json :=
  let cs := s.toList
  match value? (cs.length + 1) (skip cs) with
  | some (document, rest) => if (skip rest).isEmpty then some document else none
  | none => none

end Deadwood.Json
