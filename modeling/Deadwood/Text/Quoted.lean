/-
Texts in quotes, as messages show them.

A text is put in single quotes, or in double quotes if it holds a single quote
and no double one. Backslash, the quote in use and everything that is not
printable is escaped.
-/
import Deadwood.Text.Point
import Deadwood.Text.Printable

namespace Deadwood.Text

/-- A hexadecimal numeral in lower case, padded with zeros to a width. -/
def hexPadded (width n : Nat) : String :=
  let digits := Nat.toDigits 16 n
  String.ofList (List.replicate (width - digits.length) '0' ++ digits)

/-- The escape of a code point by its number. -/
def numbered (n : Nat) : String :=
  if n < 0x100 then "\\x" ++ hexPadded 2 n
  else if n < 0x10000 then "\\u" ++ hexPadded 4 n
  else "\\U" ++ hexPadded 8 n

/-- One character between quotes. -/
def quoteChar (quote c : Char) : String :=
  if c == quote || c == '\\' then String.ofList ['\\', c]
  else if c == '\n' then "\\n"
  else if c == '\r' then "\\r"
  else if c == '\t' then "\\t"
  else if isPrintable c then String.singleton c
  else numbered c.toNat

/-- One code point between quotes. -/
def quotePoint (quote : Char) : Point → String
  | .char c => quoteChar quote c
  | half => numbered half.code

/-- The quote that a text is put in. -/
def quoteFor (cs : List Char) : Char :=
  if cs.contains '\'' && !cs.contains '"' then '"' else '\''

/-- A text in quotes. -/
def quoted (s : String) : String :=
  let quote := quoteFor s.toList
  String.singleton quote ++ String.join ((points s).map (quotePoint quote)) ++ String.singleton quote

/-- Values between brackets, with a comma between two of them. -/
def bracketed (items : List String) : String :=
  "[" ++ ", ".intercalate items ++ "]"

end Deadwood.Text
