/-
Quoted texts of TOML.
-/
import Deadwood.Toml.Reading

namespace Deadwood.Toml

/-- The value of a hexadecimal digit. -/
def hexDigit? (c : Char) : Option Nat :=
  if '0' ≤ c && c ≤ '9' then some (c.toNat - 0x30)
  else if 'a' ≤ c && c ≤ 'f' then some (c.toNat - 0x57)
  else if 'A' ≤ c && c ≤ 'F' then some (c.toNat - 0x37)
  else none

/-- The character with a code that is written in the given number of hexadecimal digits. -/
def hexChar (count : Nat) : Read (List Char) := do
  let written := (← get).take count
  match written.length == count, written.mapM hexDigit? with
  | true, some digits =>
    Read.skip count
    let code := digits.foldl (fun n digit => n * 16 + digit) 0
    if code.isValidChar then return (Point.char (Char.ofNat code)).chars else Read.fail .codePoint
  | _, _ => Read.fail .escape

/-- The end of a line within a text, and the blanks around it, after a backslash. -/
def continuation : Read Unit := do
  skipBlanks
  match ← Read.peek with
  | none => pure ()
  | some '\n' => Read.skipWhile isBlankOrBreak
  | some _ => Read.fail .escape

/-- What stands for an escape, after the backslash. -/
def escaped (inLines : Bool) : Read (List Char) := do
  match ← Read.peek with
  | some c =>
    if inLines && isBlankOrBreak c then
      continuation
      return []
    Read.skip 1
    match c with
    | 'b' => return ['\x08']
    | 't' => return ['\t']
    | 'n' => return ['\n']
    | 'f' => return ['\x0c']
    | 'r' => return ['\r']
    | '"' => return ['"']
    | '\\' => return ['\\']
    | 'u' => hexChar 4
    | 'U' => hexChar 8
    | _ => Read.fail .escape
  | none => Read.fail .escape

/-- The rest of a text in double quotes. A text of several lines ends at three quotes. -/
def doubleQuoted (inLines : Bool) : Nat → Read (List Char)
  | 0 => Read.fail .unterminated
  | fuel + 1 => do
    match ← Read.peek with
    | none => Read.fail .unterminated
    | some '"' =>
      if !inLines then
        Read.skip 1
        return []
      if ← Read.accept "\"\"\"" then return []
      Read.skip 1
      return '"' :: (← doubleQuoted inLines fuel)
    | some '\\' =>
      Read.skip 1
      let chars ← escaped inLines
      return chars ++ (← doubleQuoted inLines fuel)
    | some c =>
      if (if inLines then isControlInLines c else isControl c) then Read.fail (.character c)
      Read.skip 1
      return c :: (← doubleQuoted inLines fuel)

/-- The characters up to a closing text, which is skipped. -/
def upTo (closing : String) : Nat → Read (List Char)
  | 0 => Read.fail .unterminated
  | fuel + 1 => do
    if ← Read.accept closing then return []
    match ← Read.peek with
    | none => Read.fail .unterminated
    | some c =>
      Read.skip 1
      return c :: (← upTo closing fuel)

/-- At most two quotes that directly follow the three closing ones belong to the text. -/
def extraQuotes (quote : Char) : Read (List Char) := do
  let extra := ((← get).takeWhile (· == quote)).take 2
  Read.skip extra.length
  return extra

/-- A text of one line, from its opening quote on. -/
def lineText : Read String := do
  let fuel := (← get).length
  if ← Read.accept "'" then
    let body ← upTo "'" fuel
    refuse isControl body
    return String.ofList body
  Read.skip 1
  return String.ofList (← doubleQuoted false fuel)

/-- A quoted text, from its opening quotes on. A line end right after three opening quotes does not count. -/
def quotedText : Read String := do
  let fuel := (← get).length
  if ← Read.accept "'''" then
    let _ ← Read.accept "\n"
    let body ← upTo "'''" fuel
    refuse isControlInLines body
    return String.ofList (body ++ (← extraQuotes '\''))
  else if ← Read.accept "\"\"\"" then
    let _ ← Read.accept "\n"
    let body ← doubleQuoted true fuel
    return String.ofList (body ++ (← extraQuotes '"'))
  else lineText

end Deadwood.Toml
