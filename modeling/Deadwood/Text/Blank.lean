/-
Blank characters, and the text operations that depend on them.

`isBlank` is the Unicode notion of white space together with the four
information separators U+001C to U+001F. A zero-width space is not blank.
-/

namespace Deadwood.Text

/-- White space, in the sense of every operation of this library that trims, drops or splits at blanks. -/
def isBlank (c : Char) : Bool :=
  let n := c.toNat
  (0x09 ≤ n && n ≤ 0x0D) || (0x1C ≤ n && n ≤ 0x20) || n == 0x85 || n == 0xA0 || n == 0x1680 ||
    (0x2000 ≤ n && n ≤ 0x200A) || n == 0x2028 || n == 0x2029 || n == 0x202F || n == 0x205F || n == 0x3000

/-- The text without any blank. -/
def dropBlanks (s : String) : String :=
  String.ofList (s.toList.filter fun c => !isBlank c)

/-- A blank that may stand around a numeral. The information separators may not. -/
def isNumeralBlank (c : Char) : Bool :=
  isBlank c && !(0x1C ≤ c.toNat && c.toNat ≤ 0x1F)

/-- The characters without those of a class at both ends. -/
def trimWhile (isDropped : Char → Bool) (cs : List Char) : List Char :=
  ((cs.dropWhile isDropped).reverse.dropWhile isDropped).reverse

/-- The characters without the blanks at both ends. -/
def trimChars (cs : List Char) : List Char :=
  trimWhile isBlank cs

/-- The text without the blanks at both ends. -/
def trim (s : String) : String :=
  String.ofList (trimChars s.toList)

/-- The characters without a line feed at their end. -/
def dropFinalBreak (cs : List Char) : List Char :=
  if cs.getLast? == some '\n' then cs.dropLast else cs

/-- Writes every line end as a line feed. -/
def unifyLineEnds : List Char → List Char
  | [] => []
  | '\r' :: '\n' :: rest => '\n' :: unifyLineEnds rest
  | '\r' :: rest => '\n' :: unifyLineEnds rest
  | c :: rest => c :: unifyLineEnds rest

/-- A character that ends a line. -/
def isLineBreak (c : Char) : Bool :=
  let n := c.toNat
  (0x0A ≤ n && n ≤ 0x0D) || (0x1C ≤ n && n ≤ 0x1E) || n == 0x85 || n == 0x2028 || n == 0x2029

/-- The characters without one line end at their end. A carriage return and a line feed are one line end. -/
def dropLineEnd (cs : List Char) : List Char :=
  match cs.reverse with
  | '\n' :: '\r' :: before => before.reverse
  | c :: before => if isLineBreak c then before.reverse else cs
  | [] => []

/-- The last line of a text. One line end at the end of the text belongs to it. -/
def lastLine (s : String) : String :=
  String.ofList ((dropLineEnd s.toList).reverse.takeWhile fun c => !isLineBreak c).reverse

/-- The first line of a text, or `none` when the text is empty. -/
def firstLine? (cs : List Char) : Option (List Char) :=
  if cs.isEmpty then none else some (cs.takeWhile fun c => !isLineBreak c)

end Deadwood.Text
