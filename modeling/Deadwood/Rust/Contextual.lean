/-
Tokens of Rust that depend on where they stand.

The content of strings and comments, the marks around raw strings, and floats
cannot be told by their characters alone: a comment may hold other comments, a
raw string ends with as many hashes as it began with, and whether `1.` is a float
depends on what follows.
-/
import Deadwood.Parsing.Session
import Deadwood.Text.Letter

namespace Deadwood.Rust

open Parsing (Letters Contextual)

/-- The tokens that depend on where they stand. -/
inductive ContextualToken where
  | stringContent | rawStringStart | rawStringContent | rawStringEnd | floatLiteral
  | outerBlockMark | innerBlockMark | blockContent | lineContent
  deriving DecidableEq

namespace ContextualToken

/-- All of them, each with its name and whether it is shown. -/
def table : List (ContextualToken × String × Bool) := [
  (stringContent, "string_content", true), (rawStringStart, "raw_string_start", false),
  (rawStringContent, "raw_string_literal_content", true), (rawStringEnd, "raw_string_end", false),
  (floatLiteral, "float_literal", true), (outerBlockMark, "outer_block_doc_mark", false),
  (innerBlockMark, "inner_block_doc_mark", false), (blockContent, "block_comment_content", false),
  (lineContent, "line_doc_content", false)]

/-- The number of a token in the table. -/
def index (token : ContextualToken) : Nat :=
  (table.map (·.1)).idxOf token

end ContextualToken

/-- A token without a change in what is remembered. -/
def found (token : ContextualToken) (start stop memory : Nat) : Contextual :=
  ⟨token.index, start, stop, memory⟩

/-! ### Strings -/

/-- The content of a string up to a quote or a backslash. It is not empty, and the text does not end with it. -/
def stringContent? (text : Letters) (memory position : Nat) : Option Contextual :=
  let stop := text.scan (fun c => c != '"' && c != '\\') position
  if stop < text.size && position < stop then some (found .stringContent position stop memory) else none

/-- How many hashes can be remembered. -/
def hashModulus : Nat := 256

/-- The start of a raw string. The number of its hashes is remembered. -/
def rawStringStart? (text : Letters) (position : Nat) : Option Contextual :=
  let afterMark := if text.letter position == 'r' then position else position + 1
  if text.letter afterMark == 'r' then
    let quote := text.scan (· == '#') (afterMark + 1)
    if text.letter quote == '"' then
      some (found .rawStringStart position (quote + 1) ((quote - (afterMark + 1)) % hashModulus))
    else none
  else none

/-- Where up to `limit` hashes from an index on end. -/
def skipHashes (text : Letters) (index : Nat) : Nat → Nat
  | 0 => index
  | limit + 1 => if text.letter index == '#' then skipHashes text (index + 1) limit else index

/-- The first quote from an index on with enough hashes after it. -/
def rawStringStop? (text : Letters) (hashes index : Nat) : Option Nat :=
  if _h : index < text.size then
    if text.letter index == '"' && skipHashes text (index + 1) hashes == index + 1 + hashes then some index
    else rawStringStop? text hashes (index + 1)
  else none
termination_by text.size - index

/-- The content of a raw string. -/
def rawStringContent? (text : Letters) (hashes position : Nat) : Option Contextual :=
  (rawStringStop? text hashes position).map fun stop => found .rawStringContent position stop hashes

/-- The end of a raw string. -/
def rawStringEnd (text : Letters) (hashes position : Nat) : Contextual :=
  found .rawStringEnd position (min (position + 1 + hashes) text.size) hashes

/-! ### Floats -/

/-- The characters of a decimal number. -/
def isNumeral (c : Char) : Bool :=
  c.isDigit || c == '_'

/-- Where the type at the end of a float stops, if there is one. -/
def floatTypeStop (text : Letters) (position : Nat) : Nat :=
  let letter := text.letter position
  if (letter == 'u' || letter == 'i' || letter == 'f') && (text.letter (position + 1)).isDigit then
    text.scan Char.isDigit (position + 1)
  else position

/-- Where the exponent stops that begins with a letter at a position, unless it lacks digits. -/
def exponentStop? (text : Letters) (position : Nat) : Option Nat :=
  let sign := text.letter (position + 1)
  let digits := if sign == '+' || sign == '-' then position + 2 else position + 1
  if isNumeral (text.letter digits) then some (text.scan isNumeral digits) else none

/-- A float: a number with a point, an exponent or both, and maybe a type. A point does not belong to the number if
a letter or another point follows. A number stops before a letter `e` without digits. -/
def float? (text : Letters) (memory position : Nat) : Option Contextual :=
  let whole := text.scan isNumeral (position + 1)
  let next := text.letter (whole + 1)
  let hasPoint := text.letter whole == '.'
  if hasPoint && (Text.isLetter next || next == '.') then none
  else
    let mantissa := if hasPoint then text.scan isNumeral (whole + 1) else whole
    let mark := text.letter mantissa
    let stop? := if mark == 'e' || mark == 'E' then
        some (match exponentStop? text mantissa with
          | some stop => floatTypeStop text stop
          | none => mantissa)
      else if hasPoint then some (floatTypeStop text mantissa)
      else none
    stop?.map fun stop => found .floatLiteral position stop memory

/-! ### Comments -/

/-- The content of a documenting comment up to the end of the line. -/
def lineContent (text : Letters) (memory position : Nat) : Contextual :=
  found .lineContent position (min (text.scan (· != '\n') position + 1) text.size) memory

/-- What a reader of a block comment has just seen. -/
inductive Seen where
  | slash | star | other
  deriving DecidableEq

/-- The characters of block comments are told apart by their last eight bits. -/
def isMark (mark c : Char) : Bool :=
  c.toNat % 256 == mark.toNat

/-- Reads a block comment that holds `depth` open comments. Answers where its content stops: before the star of the
last mark, or, if the text ends, at the last place that could have been such a star. -/
def blockStop (text : Letters) (depth : Nat) (seen : Seen) (stop : Option Nat) (index : Nat) : Nat :=
  if _h : index < text.size ∧ depth ≠ 0 then
    let letter := text.letter index
    let isSlash := isMark '/' letter
    let isStar := isMark '*' letter
    let newDepth := match seen with
      | .slash => if isStar then depth + 1 else depth
      | .star => if isSlash then depth - 1 else depth
      | .other => depth
    let newSeen := match seen with
      | .slash => .other
      | .star => if isStar then .star else .other
      | .other => if isSlash then .slash else if isStar then .star else .other
    let stop := match seen with
      | .slash => stop
      | .star => if isStar then some index else stop
      | .other => some index
    let stop := if isSlash && newDepth != 0 then some (index + 1) else stop
    blockStop text newDepth newSeen stop (index + 1)
  else stop.getD index
termination_by text.size - index

/-- A token after the opening of a block comment: a mark that the comment documents something, or its content. -/
def blockComment? (text : Letters) (isWanted : ContextualToken → Bool) (memory position : Nat) : Option Contextual :=
  let first := text.letter position
  let next := min (position + 1) text.size
  let second := text.letter next
  let isStar := isMark '*' first
  let isOuter := isWanted .outerBlockMark && isStar
  if isWanted .innerBlockMark && isMark '!' first then some (found .innerBlockMark position next memory)
  else if isOuter && second != '*' then
    if second == '/' then none else some (found .outerBlockMark position next memory)
  else if isWanted .blockContent then
    if isStar && second == '/' then none
    else
      let seen : Seen := if isStar then .star else if isMark '/' first then .slash else .other
      some (found .blockContent position (blockStop text 1 seen (if isOuter then some next else none) next) memory)
  else none

/-! ### All tokens -/

/-- What may stand before the tokens that follow blanks. -/
def isSpace (c : Char) : Bool :=
  let n := c.toNat
  (9 ≤ n && n ≤ 13) || n == 32 || n == 0x1680 || (0x2000 ≤ n && n ≤ 0x2006) || (0x2008 ≤ n && n ≤ 0x200A)
    || n == 0x2028 || n == 0x2029 || n == 0x205F || n == 0x3000

/-- Looks for a token that is wanted. -/
def contextual? (text : Letters) (isWantedIndex : Nat → Bool) (memory position : Nat) : Option Contextual :=
  let isWanted (token : ContextualToken) : Bool := isWantedIndex token.index
  if isWanted .blockContent || isWanted .innerBlockMark || isWanted .outerBlockMark then
    blockComment? text isWanted memory position
  else if isWanted .stringContent && !isWanted .floatLiteral then stringContent? text memory position
  else if isWanted .lineContent then some (lineContent text memory position)
  else
    let start := text.scan isSpace position
    let letter := text.letter start
    if isWanted .rawStringStart && (letter == 'r' || letter == 'b' || letter == 'c') then rawStringStart? text start
    else if isWanted .rawStringContent then rawStringContent? text memory start
    else if isWanted .rawStringEnd && letter == '"' then some (rawStringEnd text memory start)
    else if isWanted .floatLiteral && letter.isDigit then float? text memory start
    else none

end Deadwood.Rust
