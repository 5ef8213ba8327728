/-
Directives, anchors and tags of YAML.
-/
import Deadwood.Text.Utf8
import Deadwood.Yaml.Lexer.Basic

namespace Deadwood.Yaml

open Lexing

/-- A word that must not be empty. -/
def word (problem : Problem) : Lexing String := do
  let chars ← takeWhile isWordChar
  if chars.isEmpty then fail problem
  return String.ofList chars

/-- The name of an anchor or an alias, after its mark. -/
def anchorName : Lexing String := do
  forward 1
  let name ← word .anchor
  let c ← peek
  if isBlankOrEnd c || ['?', ':', ',', ']', '\x7d', '%', '@', '\x60'].contains c then return name
  else fail .anchor

/-- A character of a tag. -/
def isTagChar (c : Char) : Bool :=
  isWordChar c || ";/?:@&=+$,.!~*'()[]".toList.contains c

/-- Bytes that are written as a percent sign and two hexadecimal digits. -/
def tagBytes (problem : Problem) : Nat → Lexing (List UInt8)
  | 0 => return []
  | fuel + 1 => do
    if (← peek) == '%' then
      match hexDigit? (← peekAt 1), hexDigit? (← peekAt 2) with
      | some a, some b =>
        forward 3
        return UInt8.ofNat (a * 16 + b) :: (← tagBytes problem fuel)
      | _, _ => fail problem
    else return []

/-- The characters of a tag. -/
def tagChars (problem : Problem) : Nat → Lexing (List Char)
  | 0 => return []
  | steps + 1 => do
    let chars ← takeWhile isTagChar
    if (← peek) == '%' then
      let bytes ← tagBytes problem (← fuel)
      match Utf8.decode? bytes with
      | some text => return chars ++ text.toList ++ (← tagChars problem steps)
      | none => fail problem
    else return chars

/-- The text of a tag, which must not be empty. -/
def tagText (problem : Problem) : Lexing String := do
  let before := (← get).index
  let chars ← tagChars problem (← fuel)
  if (← get).index == before then fail problem
  return String.ofList chars

/-- A handle: an exclamation mark, or a word between two of them. -/
def tagHandle (problem : Problem) : Lexing String := do
  if (← peek) != '!' then fail problem
  forward 1
  if (← peek) == ' ' then return "!"
  let name ← takeWhile isWordChar
  if (← peek) != '!' then fail problem
  forward 1
  return "!" ++ String.ofList name ++ "!"

/-- Whether a second exclamation mark follows the first one of a tag. -/
def hasHandle : Lexing Bool := do
  let before := ((← get).rest.drop 1).takeWhile fun c => !isSpaceOrEnd c && c != '!'
  return (← peekAt (before.length + 1)) == '!'

/-- A tag. -/
def tagToken : Lexing Token := do
  let c ← peekAt 1
  let token ← do
    if c == '<' then
      forward 2
      let text ← tagText .tag
      if (← peek) != '>' then fail .tag
      forward 1
      pure (Token.tag none text)
    else if isBlankOrEnd c then
      forward 1
      pure (Token.tag none "!")
    else if ← hasHandle then
      let handle ← tagHandle .tag
      pure (Token.tag (some handle) (← tagText .tag))
    else
      forward 1
      pure (Token.tag (some "!") (← tagText .tag))
  if isSpaceOrEnd (← peek) then return token else fail .tag

/-- A number in a directive. -/
def versionNumber : Lexing Nat := do
  let digits ← takeWhile fun c => '0' ≤ c && c ≤ '9'
  if digits.isEmpty then fail .directive
  if Numeral.maxDigits < digits.length then throw (.longInteger digits.length)
  return digits.foldl (fun n c => n * 10 + (c.toNat - 0x30)) 0

/-- The body of a directive with a given name. -/
def directiveBody : String → Lexing Directive
  | "YAML" => do
    skipWhile (· == ' ')
    let major ← versionNumber
    if (← peek) != '.' then fail .directive
    forward 1
    let minor ← versionNumber
    if !isSpaceOrEnd (← peek) then fail .directive
    return .version major minor
  | "TAG" => do
    skipWhile (· == ' ')
    let handle ← tagHandle .directive
    if (← peek) != ' ' then fail .directive
    skipWhile (· == ' ')
    let expansion ← tagText .directive
    if !isSpaceOrEnd (← peek) then fail .directive
    return .handle handle expansion
  | _ => do
    skipWhile fun c => !isBreak c
    return .other

/-- A directive. -/
def directiveToken : Lexing Token := do
  forward 1
  let name ← word .directive
  if !isSpaceOrEnd (← peek) then fail .directive
  let directive ← directiveBody name
  restOfLine .directive
  return .directive directive

end Deadwood.Yaml
