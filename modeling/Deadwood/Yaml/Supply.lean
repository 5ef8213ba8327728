/-
The text of a YAML file, as far as it can be read.

A file is decoded in blocks of bytes, and its characters are handed over in
portions, the first two of them at once. What is wrong with a block or a portion
shows only when it is asked for, so that a fault in the text before it comes
first.
-/
import Deadwood.Text.Blank
import Deadwood.Text.Utf8
import Deadwood.Yaml.Token

namespace Deadwood.Yaml

/-- A text up to where it can be read, and what is wrong behind that. -/
structure Supply where
  chars : List Char
  fault : Option Fault := none
  deriving Repr

namespace Supply

/-- The number of bytes of a block. -/
def blockSize : Nat := 8192

/-- The number of characters of a portion. -/
def portionSize : Nat := 4096

/-- Where the portion with a character begins. The first two portions count as one. -/
def portionStart (index : Nat) : Nat :=
  if index < 2 * portionSize then 0 else index / portionSize * portionSize

/-- A character that a text may hold. -/
def isAllowed (c : Char) : Bool :=
  let n := c.toNat
  c == '\t' || c == '\n' || c == '\r' || (0x20 ≤ n && n ≤ 0x7E) || n == 0x85 || (0xA0 ≤ n && n ≤ 0xFFFD) || 0x10000 ≤ n

/-- The byte that shows an ill-formed piece from a given byte on: the first one if no character begins with it, and
otherwise the one behind the piece. -/
def shownBy (start : Nat) (piece : List UInt8) : Nat :=
  match piece.map Utf8.lead with
  | [.bad] => start
  | _ => start + piece.length

/-- The characters that end within a number of bytes. -/
def charsWithin : Nat → List Char → List Char
  | _, [] => []
  | count, c :: rest => if c.utf8Size ≤ count then c :: charsWithin (count - c.utf8Size) rest else []

/-- The portion at which it shows that the bytes are ill-formed: the one for which the block is decoded. -/
def illFormedStart? (bytes : List UInt8) : Option Nat :=
  let pieces := Utf8.decode bytes
  let sound := (pieces.takeWhile (·.char?.isSome)).filterMap Utf8.Piece.char?
  match pieces.drop sound.length with
  | .bad piece :: _ =>
    let block := shownBy ((sound.map Char.utf8Size).foldl (· + ·) 0) piece / blockSize
    some (portionStart (Text.unifyLineEnds (charsWithin (block * blockSize) sound)).length)
  | _ => none

/-- The portion with the first character that a text may not hold, and the line of that character. -/
def unprintableStart? (chars : List Char) : Option (Nat × Nat) :=
  (chars.findIdx? fun c => !isAllowed c).map fun n => (portionStart n, (chars.take n).count '\n' + 1)

/-- The text of a file. Every kind of line end counts as a line feed. -/
def ofBytes (bytes : List UInt8) : Supply :=
  let chars := Text.unifyLineEnds (((Utf8.decode bytes).takeWhile (·.char?.isSome)).filterMap Utf8.Piece.char?)
  let upTo := fun start => Text.charsOf ((chars.take start).map .char)
  match illFormedStart? bytes, unprintableStart? chars with
  | none, none => ⟨upTo chars.length, none⟩
  | some start, none => ⟨upTo start, some .encoding⟩
  | none, some (start, line) => ⟨upTo start, some (.malformed .unprintable (some line))⟩
  | some start, some (start', line) =>
    if start ≤ start' then ⟨upTo start, some .encoding⟩
    else ⟨upTo start', some (.malformed .unprintable (some line))⟩

end Supply

end Deadwood.Yaml
