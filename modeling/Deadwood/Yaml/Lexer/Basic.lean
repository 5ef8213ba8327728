/-
The state of the lexer, and its primitive steps.

Besides the place in the text the lexer keeps the indentation of the open blocks
and, for every open bracket, the place where a key may have begun: whether it is
one is known only when a colon follows on the same line.
-/
import Deadwood.Yaml.Token

namespace Deadwood.Yaml

/-- A place where a key may have begun. -/
structure KeyStart where
  token : Nat
  required : Bool
  index : Nat
  line : Nat
  column : Nat
  deriving Repr

/-- The state of the lexer. `behind` is what is wrong with the text behind `rest`. `starts` belongs to the open brackets, innermost first, and then to the text outside
of all brackets. `tokens` is in reverse order. -/
structure LexState where
  rest : List Char
  behind : Option Fault := none
  index : Nat := 0
  line : Nat := 0
  column : Nat := 0
  indent : Int := -1
  indents : List Int := []
  depth : Nat := 0
  keyAllowed : Bool := true
  starts : List (Option KeyStart) := [none]
  tokens : List Token := []
  deriving Repr

/-- A step of the lexer. -/
abbrev Lexing := StateT LexState (Except Fault)

/-- The character that stands for the end of the text. No text holds it. -/
def endMark : Char := '\x00'

/-- A character that ends a line. -/
def isBreak (c : Char) : Bool :=
  c == '\n' || c == '\r' || c == '\x85' || c == '\u2028' || c == '\u2029'

/-- The end of a line or of the text. -/
def isBreakOrEnd (c : Char) : Bool :=
  isBreak c || c == endMark

/-- A space, the end of a line or of the text. -/
def isSpaceOrEnd (c : Char) : Bool :=
  isBreakOrEnd c || c == ' '

/-- A space, a tab, the end of a line or of the text. -/
def isBlankOrEnd (c : Char) : Bool :=
  isSpaceOrEnd c || c == '\t'

/-- A letter, a digit, a hyphen or an underscore. -/
def isWordChar (c : Char) : Bool :=
  ('0' ≤ c && c ≤ '9') || ('A' ≤ c && c ≤ 'Z') || ('a' ≤ c && c ≤ 'z') || c == '-' || c == '_'

/-- The value of a hexadecimal digit. -/
def hexDigit? (c : Char) : Option Nat :=
  if '0' ≤ c && c ≤ '9' then some (c.toNat - 0x30)
  else if 'a' ≤ c && c ≤ 'f' then some (c.toNat - 0x57)
  else if 'A' ≤ c && c ≤ 'F' then some (c.toNat - 0x37)
  else none

namespace LexState

/-- The state after the next character. The mark before another character does not count. -/
def next (state : LexState) : LexState :=
  match state.rest with
  | [] => state
  | c :: rest =>
    if c == Text.mark then { state with rest } else
    let state := { state with rest, index := state.index + 1 }
    if c != '\r' && isBreak c || c == '\r' && rest.head? != some '\n' then
      { state with line := state.line + 1, column := 0 }
    else if c == '\ufeff' then state
    else { state with column := state.column + 1 }

/-- The state after a number of characters. -/
def skip (state : LexState) : Nat → LexState
  | 0 => state
  | n + 1 => state.next.skip n

/-- A character that follows, counted from zero. -/
def ahead (state : LexState) (n : Nat) : Char :=
  (state.rest[n]?).getD endMark

end LexState

namespace Lexing

/-- Fails at the present line. -/
def fail (problem : Problem) : Lexing α := do
  throw (.malformed problem (some ((← get).line + 1)))

/-- Asks for the text behind the rest, which fails if something is wrong with it. -/
def demand : Lexing Unit := do
  if let some fault := (← get).behind then throw fault

/-- A character that follows, counted from zero. -/
def peekAt (n : Nat) : Lexing Char := do
  match (← get).rest[n]? with
  | some c => return c
  | none =>
    demand
    return endMark

/-- The next character. -/
def peek : Lexing Char :=
  peekAt 0

/-- Goes forward by a number of characters. More than one must be known after that. -/
def forward (n : Nat) : Lexing Unit := do
  let state := (← get).skip n
  set state
  match state.rest with
  | [] | [_] => demand
  | _ => pure ()

/-- The characters that pass a test, up to the first that does not. -/
def takeWhile (test : Char → Bool) : Lexing (List Char) := do
  let taken := (← get).rest.takeWhile test
  forward taken.length
  return taken

/-- Skips the characters that pass a test. -/
def skipWhile (test : Char → Bool) : Lexing Unit := do
  let _ ← takeWhile test

/-- How many steps a loop over the rest of the text can take. -/
def fuel : Lexing Nat := do
  return (← get).rest.length + 1

/-- The end of a line, if it follows. All ends but the two Unicode separators count as line feeds. -/
def lineBreak : Lexing (List Char) := do
  let c ← peek
  if c == '\u2028' || c == '\u2029' then
    forward 1
    return [c]
  else if isBreak c then
    forward (if c == '\r' && (← peekAt 1) == '\n' then 2 else 1)
    return ['\n']
  else return []

/-- Skips a comment and the blanks before it; then the line must end. -/
def restOfLine (problem : Problem) : Lexing Unit := do
  skipWhile (· == ' ')
  if (← peek) == '#' then skipWhile fun c => !isBreak c
  if !isBreakOrEnd (← peek) then fail problem
  let _ ← lineBreak

/-- Whether a line that separates documents follows. -/
def documentMark : Lexing Bool := do
  let three := (← get).rest.take 3
  return (three == ['-', '-', '-'] || three == ['.', '.', '.']) && isBlankOrEnd (← peekAt 3)

end Lexing

end Deadwood.Yaml
