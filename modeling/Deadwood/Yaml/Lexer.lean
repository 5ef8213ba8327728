/-
The tokens of a YAML text.
-/
import Deadwood.Yaml.Lexer.Property
import Deadwood.Yaml.Lexer.Scalar
import Deadwood.Yaml.Supply

namespace Deadwood.Yaml

open Lexing

namespace Lexing

/-- Adds a token at the end. -/
def emit (token : Token) : Lexing Unit :=
  modify fun state => { state with tokens := token :: state.tokens }

/-- Adds a token in front of the token with a given number. -/
def emitAt (number : Nat) (token : Token) : Lexing Unit :=
  modify fun state =>
    let later := state.tokens.length - number
    { state with tokens := state.tokens.take later ++ token :: state.tokens.drop later }

/-- Sets whether a key may begin at the next token. -/
def allowKey (allowed : Bool) : Lexing Unit :=
  modify fun state => { state with keyAllowed := allowed }

/-- The longest distance between the start of a key and its colon. -/
def maxKeyLength : Nat := 1024

/-- Drops the places from which no key can begin any more. -/
def dropStaleStarts : Lexing Unit := do
  let state ← get
  let stale := fun (start : KeyStart) => start.line != state.line || maxKeyLength < state.index - start.index
  if (state.starts.filterMap id).any fun start => stale start && start.required then fail .keyWithoutValue
  set { state with starts := state.starts.map (Option.filter fun start => !stale start) }

/-- Drops the place where a key may have begun within the present brackets. -/
def dropStart : Lexing Unit := do
  let state ← get
  match state.starts with
  | some start :: rest =>
    if start.required then fail .keyWithoutValue
    set { state with starts := none :: rest }
  | _ => pure ()

/-- Notes that a key may begin here. -/
def noteStart : Lexing Unit := do
  if (← get).keyAllowed then
    dropStart
    modify fun state =>
      let start : KeyStart :=
        { token := state.tokens.length, required := state.depth == 0 && state.indent == (state.column : Int)
          index := state.index, line := state.line, column := state.column }
      { state with starts := some start :: state.starts.drop 1 }

/-- Closes the blocks that are indented more than a column. Within brackets indentation does not count. -/
def closeBlocks (column : Int) : Lexing Unit := do
  let state ← get
  if state.depth == 0 then go column state.indents.length
where
  /-- Closes blocks, up to a number of them. -/
  go (column : Int) : Nat → Lexing Unit
    | 0 => pure ()
    | n + 1 => do
      let state ← get
      if column < state.indent then
        set { state with
          indent := state.indents.headD (-1), indents := state.indents.drop 1, tokens := .blockEnd :: state.tokens }
        go column n

/-- Opens a block at a column, if it is indented more than the present one. -/
def openBlock (column : Nat) : Lexing Bool := do
  let state ← get
  if state.indent < column then
    set { state with indents := state.indent :: state.indents, indent := (column : Int) }
    return true
  else return false

/-- Ends all blocks, before something that belongs to no block. -/
def leaveBlocks : Lexing Unit := do
  closeBlocks (-1)
  dropStart
  allowKey false

/-- Skips blanks, comments and line ends. -/
def skipFiller : Nat → Lexing Unit
  | 0 => pure ()
  | fuel + 1 => do
    skipWhile (· == ' ')
    if (← peek) == '#' then skipWhile fun c => !isBreak c
    if (← lineBreak).isEmpty then pure ()
    else
      if (← get).depth == 0 then allowKey true
      skipFiller fuel

/-- An opening bracket. -/
def openBracket (token : Token) : Lexing Unit := do
  noteStart
  modify fun state => { state with depth := state.depth + 1, starts := none :: state.starts, keyAllowed := true }
  forward 1
  emit token

/-- A closing bracket. -/
def closeBracket (token : Token) : Lexing Unit := do
  dropStart
  if (← get).depth == 0 then fail .unexpected
  modify fun state => { state with depth := state.depth - 1, starts := state.starts.drop 1, keyAllowed := false }
  forward 1
  emit token

/-- A mark that begins an item or a key of a block, at the present column. -/
def blockMark (opening token : Token) (problem : Problem) (allowed : Bool) : Lexing Unit := do
  let state ← get
  if state.depth == 0 then
    if !state.keyAllowed then fail problem
    if ← openBlock state.column then emit opening
  allowKey allowed
  dropStart
  forward 1
  emit token

/-- The colon before a value. What came before it on the line may turn out to be a key. -/
def valueMark : Lexing Unit := do
  let state ← get
  match state.starts with
  | some start :: rest =>
    set { state with starts := none :: rest }
    emitAt start.token .key
    if state.depth == 0 then
      if ← openBlock start.column then emitAt start.token .blockMapping
    allowKey false
    forward 1
    emit .value
  | _ => blockMark .blockMapping .value .valueHere (state.depth == 0)

/-- A token that may begin a key. -/
def keyLike (read : Lexing Token) : Lexing Unit := do
  noteStart
  allowKey false
  emit (← read)

/-- Whether a plain scalar begins with the next character. -/
def startsPlain (state : LexState) : Bool :=
  let c := state.ahead 0
  (!isBlankOrEnd c && !"-?:,[]\x7b\x7d#&*!|>'\"%@\x60".toList.contains c) ||
    (!isBlankOrEnd (state.ahead 1) && (c == '-' || (state.depth == 0 && (c == '?' || c == ':'))))

/-- The next token and the tokens that its place calls for. Answers whether the text goes on. -/
def step : Lexing Bool := do
  skipFiller (← fuel)
  dropStaleStarts
  -- A line that is indented less ends the blocks that are indented more.
  closeBlocks (← get).column
  let state ← get
  let c := state.ahead 0
  let spaced := isBlankOrEnd (state.ahead 1)
  let inBrackets := state.depth != 0
  if c == endMark then
    leaveBlocks
    emit .streamEnd
    return false
  if c == '%' && state.column == 0 then
    leaveBlocks
    emit (← directiveToken)
  else if ← (if state.column == 0 && (c == '-' || c == '.') then documentMark else return false) then
    leaveBlocks
    forward 3
    emit (if c == '-' then .documentStart else .documentEnd)
  else if c == '[' then openBracket .sequenceOpen
  else if c == '\x7b' then openBracket .mappingOpen
  else if c == ']' then closeBracket .sequenceClose
  else if c == '\x7d' then closeBracket .mappingClose
  else if c == ',' then
    allowKey true
    dropStart
    forward 1
    emit .comma
  else if c == '-' && spaced then blockMark .blockSequence .item .itemHere true
  else if c == '?' && (inBrackets || spaced) then blockMark .blockMapping .key .keyHere (!inBrackets)
  else if c == ':' && (inBrackets || spaced) then valueMark
  else if c == '*' then keyLike (return .reference (← anchorName))
  else if c == '&' then keyLike (return .anchor (← anchorName))
  else if c == '!' then keyLike tagToken
  else if (c == '|' || c == '>') && !inBrackets then
    allowKey true
    dropStart
    emit (.scalar (← blockScalar (c == '>')) false)
  else if c == '\'' || c == '"' then keyLike (return .scalar (← quotedScalar) false)
  else if startsPlain state then keyLike (return .scalar (← plainScalar) true)
  else fail (.noToken c)
  return true

/-- How many tokens are certain. From the first place on where a key may have begun, a mark for it may still come
in front of the others. -/
def certain (state : LexState) : Nat :=
  (state.starts.filterMap id).foldl (fun count start => min count start.token) state.tokens.length

/-- All tokens of the rest of the text. A fault leaves those that were certain before. -/
def run : Nat → LexState → Tokens
  | 0, state => ⟨state.tokens.reverse, none⟩
  | fuel + 1, state =>
    let next : Lexing Bool := do
      let goesOn ← step
      if goesOn then dropStaleStarts
      return goesOn
    match StateT.run next state with
    | .ok (true, state) => run fuel state
    | .ok (false, state) => ⟨state.tokens.reverse, none⟩
    | .error fault => ⟨state.tokens.reverse.take (certain state), some fault⟩

end Lexing

/-- The tokens of a text. A byte order mark at its start does not count. -/
def tokens (text : Supply) : Tokens :=
  let chars := match text.chars with
    | '\ufeff' :: rest => rest
    | chars => chars
  Lexing.run (chars.length + 2) { rest := chars, behind := text.fault }

end Deadwood.Yaml
