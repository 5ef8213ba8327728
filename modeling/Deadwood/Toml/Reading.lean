/-
Reading TOML, character by character.

A reader consumes characters from the front of a text. It fails with a problem
and the number of characters that were left, from which the place of the problem
in the text is computed.
-/
import Deadwood.Number.Numeral

namespace Deadwood.Toml

/-- What can be wrong with a text. -/
inductive Problem where
  | statement
  | endOfLine
  | keyStart
  | equalsSign
  | bracket
  | character (c : Char)
  | unterminated
  | escape
  | codePoint
  | value
  | date
  | array
  | inlineTable
  | declaredTwice
  | overwritten
  | frozen
  /-- An integer has too many digits. -/
  | longInteger (digits : Nat)
  deriving DecidableEq, Repr

/-- The words for a problem. -/
def Problem.message : Problem → String
  | statement => "Invalid statement"
  | endOfLine => "Expected newline or end of document after a statement"
  | keyStart => "Invalid initial character for a key part"
  | equalsSign => "Expected '=' after a key in a key/value pair"
  | bracket => "Expected ']' at the end of a declaration"
  | character c => s!"Illegal character U+{String.ofList (Nat.toDigits 16 c.toNat)}"
  | unterminated => "Unterminated string"
  | escape => "Invalid escape in a string"
  | codePoint => "Escaped character is not a Unicode scalar value"
  | value => "Invalid value"
  | date => "Invalid date or time"
  | array => "Unclosed array"
  | inlineTable => "Unclosed inline table"
  | declaredTwice => "Cannot declare a table twice"
  | overwritten => "Cannot overwrite a value"
  | frozen => "Cannot change a finished value"
  | longInteger digits => Numeral.tooLongMessage digits

/-- A problem, and how many characters of the text follow it. -/
structure Fault where
  problem : Problem
  left : Nat
  deriving DecidableEq, Repr

/-- The problem and its place in a text. -/
def Fault.text (fault : Fault) (chars : List Char) : String :=
  let before := chars.take (chars.length - fault.left)
  let line := before.count '\n' + 1
  let column := (Text.pointsOf (before.reverse.takeWhile (· != '\n')).reverse).length + 1
  s!"{fault.problem.message} (at line {line}, column {column})"

/-- A reader. Its state is what follows. -/
abbrev Read := StateT (List Char) (Except Fault)

namespace Read

/-- Fails at the present place. -/
def fail (problem : Problem) : Read α := do
  throw ⟨problem, (← get).length⟩

/-- The next character. -/
def peek : Read (Option Char) := do
  return (← get).head?

/-- Skips a number of characters. -/
def skip (n : Nat) : Read Unit :=
  modify (List.drop n)

/-- The characters that pass a test, up to the first that does not. -/
def takeWhile (test : Char → Bool) : Read (List Char) := do
  let chars ← get
  set (chars.dropWhile test)
  return chars.takeWhile test

/-- Skips the characters that pass a test. -/
def skipWhile (test : Char → Bool) : Read Unit := do
  let _ ← takeWhile test

/-- Whether a text follows. -/
def follows (text : String) : Read Bool := do
  return text.toList.isPrefixOf (← get)

/-- Skips a text if it follows. -/
def accept (text : String) : Read Bool := do
  if ← follows text then
    skip text.length
    return true
  else return false

end Read

/-- A blank within a line. -/
def isBlank (c : Char) : Bool :=
  c == ' ' || c == '\t'

/-- A blank or the end of a line. -/
def isBlankOrBreak (c : Char) : Bool :=
  isBlank c || c == '\n'

/-- A control character other than a tab. -/
def isControl (c : Char) : Bool :=
  (c.toNat < 0x20 && c != '\t') || c.toNat == 0x7F

/-- A control character other than a tab and the end of a line. -/
def isControlInLines (c : Char) : Bool :=
  isControl c && c != '\n'

/-- Skips blanks. -/
def skipBlanks : Read Unit :=
  Read.skipWhile isBlank

/-- Fails at the first of some characters that may not stand there. -/
def refuse (illegal : Char → Bool) (chars : List Char) : Read Unit :=
  match chars.find? illegal with
  | some c => Read.fail (.character c)
  | none => pure ()

/-- Skips a comment if one follows. -/
def skipComment : Read Unit := do
  if ← Read.accept "#" then
    let body ← Read.takeWhile (· != '\n')
    refuse isControl body

/-- Skips blanks, line ends and comments. -/
def skipFiller : Read Unit := do
  go ((← get).length + 1)
where
  /-- Skips rounds of filler, up to the given number. -/
  go : Nat → Read Unit
    | 0 => pure ()
    | fuel + 1 => do
      let before := (← get).length
      Read.skipWhile isBlankOrBreak
      skipComment
      if (← get).length == before then pure () else go fuel

end Deadwood.Toml
