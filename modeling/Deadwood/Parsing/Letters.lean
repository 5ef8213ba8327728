/-
A text as an array of characters.

Readers walk over characters, while trees count bytes: `Letters` holds the
characters, the byte at which each of them starts, and the line it is on. A byte
that is part of no character counts as one character of its own.
-/
import Deadwood.Text.Utf8

namespace Deadwood.Parsing

/-- The characters of a text. `offsets` and `lines` have one entry more than `letters`, for the end of the text. -/
structure Letters where
  letters : Array Char
  /-- The byte at which each character starts. -/
  offsets : Array Nat
  /-- How many line feeds stand before each character. -/
  lines : Array Nat

namespace Letters

/-- The first character of a byte sequence and its length; a stray byte is read as U+FFFD. -/
def leading (bytes : List UInt8) : Char × Nat :=
  let whole? (length : Nat) : Option (Char × Nat) :=
    match Utf8.decode (bytes.take length) with
    | [.char c] => some (c, length)
    | _ => none
  ([1, 2, 3, 4].findSome? whole?).getD ('\ufffd', 1)

/-- Adds the characters of a byte sequence that starts at a given offset and line; its first `skip` bytes belong to
the character before. -/
def addBytes (skip offset line : Nat) (known : Letters) : List UInt8 → Letters
  | [] => { known with offsets := known.offsets.push offset, lines := known.lines.push line }
  | byte :: bytes => match skip with
    | skip + 1 => addBytes skip (offset + 1) line known bytes
    | 0 =>
      let (letter, length) := if byte < 0x80 then (Char.ofNat byte.toNat, 1) else leading (byte :: bytes.take 3)
      addBytes (length - 1) (offset + 1) (if letter == '\n' then line + 1 else line)
        ⟨known.letters.push letter, known.offsets.push offset, known.lines.push line⟩ bytes

/-- The characters of a byte sequence. -/
def ofBytes (bytes : List UInt8) : Letters :=
  addBytes 0 0 0 ⟨#[], #[], #[]⟩ bytes

/-- How many characters there are. -/
def size (text : Letters) : Nat :=
  text.letters.size

/-- The character at an index; U+0000 after the end. -/
def letter (text : Letters) (index : Nat) : Char :=
  text.letters.getD index '\x00'

/-- The byte at which a character starts. -/
def offset (text : Letters) (index : Nat) : Nat :=
  text.offsets.getD index 0

/-- How many line feeds stand before a character. -/
def line (text : Letters) (index : Nat) : Nat :=
  text.lines.getD index 0

/-- The same index, or the one after a byte order mark at the very beginning. -/
def skipMark (text : Letters) (index : Nat) : Nat :=
  if index == 0 && text.letter 0 == '\ufeff' then 1 else index

/-- The first index, from a given one on, whose character fails a test. -/
def scan (text : Letters) (test : Char → Bool) (index : Nat) : Nat :=
  if _h : index < text.size then
    if test (text.letter index) then text.scan test (index + 1) else index
  else index
termination_by text.size - index

end Letters

end Deadwood.Parsing
