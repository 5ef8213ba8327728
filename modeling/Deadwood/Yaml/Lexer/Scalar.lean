/-
Scalars of YAML: quoted, plain and in blocks.
-/
import Deadwood.Yaml.Lexer.Basic

namespace Deadwood.Yaml

open Lexing

/-! ### Quoted scalars -/

/-- The character that a one-letter escape stands for. -/
def escapeOf? : Char → Option Char
  | '0' => some '\x00'
  | 'a' => some '\x07'
  | 'b' => some '\x08'
  | 't' => some '\t'
  | '\t' => some '\t'
  | 'n' => some '\n'
  | 'v' => some '\x0b'
  | 'f' => some '\x0c'
  | 'r' => some '\r'
  | 'e' => some '\x1b'
  | ' ' => some ' '
  | '"' => some '"'
  | '\\' => some '\\'
  | '/' => some '/'
  | 'N' => some '\x85'
  | '_' => some '\xa0'
  | 'L' => some '\u2028'
  | 'P' => some '\u2029'
  | _ => none

/-- How many hexadecimal digits follow the letter of an escape. -/
def escapeDigits? : Char → Option Nat
  | 'x' => some 2
  | 'u' => some 4
  | 'U' => some 8
  | _ => none

/-- The number that a count of hexadecimal digits stands for. -/
def hexNumber (count : Nat) : Lexing Nat := do
  let _ ← peekAt (count - 1)
  match ((← get).rest.take count).mapM hexDigit? with
  | some digits =>
    if digits.length != count then fail .escape
    forward count
    return digits.foldl (fun n digit => n * 16 + digit) 0
  | none => fail .escape

/-- The code point with a number. It may be half of a character. -/
def escapedCode (code : Nat) : Except Fault Point :=
  if 0x7FFFFFFF < code then .error .hugeCode
  else if 0x10FFFF < code then .error .codePoint
  else .ok (.ofCode code)

/-- Blank lines within a quoted scalar. -/
def quotedBreaks : Nat → Lexing (List Char)
  | 0 => return []
  | fuel + 1 => do
    if ← documentMark then fail .documentInText
    skipWhile fun c => c == ' ' || c == '\t'
    if isBreak (← peek) then
      let here ← lineBreak
      return here ++ (← quotedBreaks fuel)
    else return []

/-- Blanks within a quoted scalar. A single line end is folded into a space. -/
def quotedSpaces : Lexing (List Char) := do
  let blanks ← takeWhile fun c => c == ' ' || c == '\t'
  let c ← peek
  if c == endMark then fail .endOfText
  if isBreak c then
    let here ← lineBreak
    let more ← quotedBreaks (← fuel)
    if here != ['\n'] then return here ++ more
    else if more.isEmpty then return [' '] else return more
  else return blanks

/-- What an escape stands for, after the backslash. -/
def escape : Lexing (List Char) := do
  let c ← peek
  match escapeOf? c, escapeDigits? c with
  | some d, _ =>
    forward 1
    return [d]
  | none, some count =>
    forward 1
    return (← escapedCode (← hexNumber count)).chars
  | none, none =>
    if isBreak c then
      let _ ← lineBreak
      quotedBreaks (← fuel)
    else fail .escape

/-- A run of a quoted scalar without blanks. -/
def quotedRun (quote : Char) : Nat → Lexing (List Char)
  | 0 => return []
  | fuel + 1 => do
    let plain ← takeWhile fun c => c != '\'' && c != '"' && c != '\\' && !isBlankOrEnd c
    let c ← peek
    if c == '\'' && quote == '\'' then
      if (← peekAt 1) == '\'' then
        forward 2
        return plain ++ '\'' :: (← quotedRun quote fuel)
      else return plain
    else if c == '\'' || (quote == '\'' && (c == '"' || c == '\\')) then
      forward 1
      return plain ++ c :: (← quotedRun quote fuel)
    else if c == '\\' then
      forward 1
      let chars ← escape
      return plain ++ chars ++ (← quotedRun quote fuel)
    else return plain

/-- The rest of a quoted scalar, with its closing quote. -/
def quotedRest (quote : Char) : Nat → Lexing (List Char)
  | 0 => fail .endOfText
  | steps + 1 => do
    let run ← quotedRun quote (← fuel)
    if (← peek) == quote then
      forward 1
      return run
    else
      let spaces ← quotedSpaces
      return run ++ spaces ++ (← quotedRest quote steps)

/-- A quoted scalar. -/
def quotedScalar : Lexing String := do
  let quote ← peek
  forward 1
  return String.ofList (← quotedRest quote (← fuel))

/-! ### Plain scalars -/

/-- Whether a plain scalar ends before a character, whose follower is known too. -/
def endsPlain (inBrackets : Bool) (c after : Char) : Bool :=
  isBlankOrEnd c ||
    (c == ':' && (isBlankOrEnd after || (inBrackets && [',', '[', ']', '\x7b', '\x7d'].contains after))) ||
    (inBrackets && [',', '?', '[', ']', '\x7b', '\x7d'].contains c)

/-- The length of the run of a plain scalar at the front of a text. -/
def plainLength (inBrackets : Bool) : List Char → Nat
  | [] => 0
  | c :: rest => if endsPlain inBrackets c (rest.headD endMark) then 0 else plainLength inBrackets rest + 1

/-- Blank lines within a plain scalar; `none` if a document ends there. -/
def plainBreaks : Nat → Lexing (Option (List Char))
  | 0 => return some []
  | fuel + 1 => do
    let c ← peek
    if c == ' ' then
      forward 1
      plainBreaks fuel
    else if isBreak c then
      let here ← lineBreak
      if ← documentMark then return none
      return (← plainBreaks fuel).map (here ++ ·)
    else return some []

/-- Blanks after a run of a plain scalar: what they stand for if the scalar goes on. Nothing means that it does
not. -/
def plainSpaces : Lexing (List Char) := do
  let blanks ← takeWhile (· == ' ')
  if isBreak (← peek) then
    let here ← lineBreak
    modify fun state => { state with keyAllowed := true }
    if ← documentMark then return []
    match ← plainBreaks (← fuel) with
    | none => return []
    | some more =>
      if here != ['\n'] then return here ++ more
      else if more.isEmpty then return [' '] else return more
  else return blanks

/-- The runs of a plain scalar, after blanks that stand for the given characters. -/
def plainRuns (spaces : List Char) : Nat → Lexing (List Char)
  | 0 => return []
  | fuel + 1 => do
    if (← peek) == '#' then return []
    let state ← get
    let length := plainLength (state.depth != 0) state.rest
    if length == 0 then return []
    let run := state.rest.take length
    forward length
    modify fun state => { state with keyAllowed := false }
    let after ← plainSpaces
    let state ← get
    if after.isEmpty || state.ahead 0 == '#' || (state.depth == 0 && (state.column : Int) < state.indent + 1) then
      return spaces ++ run
    return spaces ++ run ++ (← plainRuns after fuel)

/-- A plain scalar. -/
def plainScalar : Lexing String := do
  return String.ofList (← plainRuns [] (← fuel))

/-! ### Block scalars -/

/-- What happens to the line ends at the end of a block scalar. -/
inductive Chomping where
  | strip | clip | keep
  deriving DecidableEq

/-- The chomping mark, if it follows. -/
def chomping? : Lexing (Option Chomping) := do
  match ← peek with
  | '+' =>
    forward 1
    return some .keep
  | '-' =>
    forward 1
    return some .strip
  | _ => return none

/-- The indentation mark, if it follows. -/
def increment? : Lexing (Option Nat) := do
  let c ← peek
  if '0' ≤ c && c ≤ '9' then
    if c == '0' then fail .blockHeader
    forward 1
    return some (c.toNat - 0x30)
  else return none

/-- The marks in the header of a block scalar, in either order. -/
def blockMarks : Lexing (Chomping × Option Nat) := do
  let marks ← do
    match ← chomping? with
    | some chomping => pure (chomping, ← increment?)
    | none =>
      let increment ← increment?
      let chomping ← if increment.isSome then chomping? else pure none
      pure (chomping.getD .clip, increment)
  if !isSpaceOrEnd (← peek) then fail .blockHeader
  return marks

/-- Blank lines at the start of a block scalar, and the widest indentation seen. -/
def blockStart (widest : Nat) : Nat → Lexing (List Char × Nat)
  | 0 => return ([], widest)
  | fuel + 1 => do
    let c ← peek
    if c == ' ' then
      forward 1
      blockStart (max widest (← get).column) fuel
    else if isBreak c then
      let here ← lineBreak
      let (more, widest) ← blockStart widest fuel
      return (here ++ more, widest)
    else return ([], widest)

/-- Skips spaces up to a column. -/
def skipToColumn (column : Nat) : Nat → Lexing Unit
  | 0 => return
  | fuel + 1 => do
    if (← get).column < column && (← peek) == ' ' then
      forward 1
      skipToColumn column fuel

/-- Blank lines within a block scalar, up to the start of a line that is indented. -/
def blockBreaks (indent : Nat) : Nat → Lexing (List Char)
  | 0 => return []
  | steps + 1 => do
    skipToColumn indent (← fuel)
    if isBreak (← peek) then
      let here ← lineBreak
      return here ++ (← blockBreaks indent steps)
    else return []

/-- The lines of a block scalar, the last line end, and the blank lines behind it. -/
def blockLines (folded : Bool) (indent : Nat) (breaks : List Char) : Nat → Lexing (List Char × List Char × List Char)
  | 0 => return ([], [], breaks)
  | steps + 1 => do
    if (← get).column != indent || (← peek) == endMark then return ([], [], breaks)
    let isText := fun c => c != ' ' && c != '\t'
    let startsWithText := isText (← peek)
    let line ← takeWhile fun c => !isBreak c
    let here ← lineBreak
    let more ← blockBreaks indent (← fuel)
    if (← get).column == indent && (← peek) != endMark then
      let between :=
        if folded && here == ['\n'] && startsWithText && isText (← peek) then
          if more.isEmpty then [' '] else []
        else here
      let (rest, last, tail) ← blockLines folded indent more steps
      return (breaks ++ line ++ between ++ rest, last, tail)
    else return (breaks ++ line, here, more)

/-- A block scalar. -/
def blockScalar (folded : Bool) : Lexing String := do
  forward 1
  let (chomping, increment) ← blockMarks
  restOfLine .blockHeader
  let least := ((← get).indent + 1).toNat.max 1
  let (breaks, indent) ← match increment with
    | none => do
      let (breaks, widest) ← blockStart 0 (← fuel)
      pure (breaks, max least widest)
    | some n => do
      let indent := least + n - 1
      pure (← blockBreaks indent (← fuel), indent)
  let (lines, last, tail) ← blockLines folded indent breaks (← fuel)
  return String.ofList (lines ++ (if chomping == .strip then [] else last) ++ (if chomping == .keep then tail else []))

end Deadwood.Yaml
