/-
Patterns of tokens.

A pattern describes the spellings of a token. It is made of sets of characters,
and characters are told apart only as far as patterns need it: every ASCII
character is a kind of its own, and beyond ASCII there are three kinds, those
that may begin an identifier, those that may only go on in one, and all others.
-/
import Deadwood.Parsing.BitSet
import Deadwood.Text.Identifier

namespace Deadwood.Parsing

/-- A set of kinds of characters. -/
abbrev Charset := BitSet

namespace Charset

/-- The characters beyond ASCII that may begin an identifier. -/
def startKind : Nat := 128

/-- The characters beyond ASCII that may go on in an identifier but not begin one. -/
def partKind : Nat := 129

/-- All other characters beyond ASCII. -/
def otherKind : Nat := 130

/-- How many kinds there are. -/
def kinds : Nat := 131

/-- The kind of a character. -/
def kindOf (c : Char) : Nat :=
  if c.toNat < 128 then c.toNat
  else if Text.isIdentifierStart c.toNat then startKind
  else if Text.isIdentifierRest c.toNat then partKind
  else otherKind

/-- The ASCII characters of a text. -/
def ofText (s : String) : Charset :=
  BitSet.ofList (s.toList.map Char.toNat)

/-- The ASCII characters between two of them. -/
def range (first last : Char) : Charset :=
  BitSet.ofList ((List.range (last.toNat + 1)).drop first.toNat)

/-- All characters but those of a set. U+0000 is left out as well: no token goes on over it. -/
def except (s : Charset) : Charset :=
  (BitSet.below kinds).diff (s.insert 0)

/-- What may stand between two tokens: tab, line feed, vertical tab, form feed, carriage return and space. -/
def blank : Charset :=
  range '\t' '\r' |>.insert 32

/-- The decimal digits. -/
def digit : Charset := range '0' '9'

/-- The characters of ASCII words. -/
def word : Charset :=
  digit |>.union (range 'a' 'z') |>.union (range 'A' 'Z') |>.union (ofText "_")

/-- The characters that begin an identifier. -/
def identifierStart : Charset :=
  range 'a' 'z' |>.union (range 'A' 'Z') |>.union (ofText "_") |>.insert startKind

/-- The characters that go on in an identifier. -/
def identifierPart : Charset :=
  identifierStart |>.union digit |>.insert partKind

end Charset

/-- A set of texts. -/
inductive Pattern where
  /-- Only the empty text. -/
  | nothing
  /-- One character of a set. -/
  | char (set : Charset)
  /-- A text of the first pattern, then one of the second. -/
  | seq (first second : Pattern)
  /-- A text of one of the two patterns. -/
  | alt (first second : Pattern)
  /-- One or more texts of the pattern. -/
  | plus (body : Pattern)
  deriving DecidableEq, Inhabited

namespace Pattern

/-- One given text. -/
def text (s : String) : Pattern :=
  s.toList.foldr (fun c rest => seq (char (BitSet.single c.toNat)) rest) nothing

/-- The patterns one after the other. -/
def inOrder (patterns : List Pattern) : Pattern :=
  patterns.foldr seq nothing

/-- One of the patterns. -/
def oneOf : List Pattern → Pattern
  | [] => nothing
  | [pattern] => pattern
  | pattern :: rest => alt pattern (oneOf rest)

/-- The pattern or nothing. -/
def maybe (body : Pattern) : Pattern :=
  alt body nothing

/-- The pattern any number of times. -/
def star (body : Pattern) : Pattern :=
  maybe (plus body)

/-- The pattern a given number of times. -/
def times (count : Nat) (body : Pattern) : Pattern :=
  inOrder (List.replicate count body)

end Pattern

end Deadwood.Parsing
