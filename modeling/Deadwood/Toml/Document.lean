/-
TOML documents.

A document is read statement by statement into a tree of tables. Which tables may
still be opened or extended is remembered beside the tree: a value written in one
piece is *frozen* with everything below it, and a table that was declared, or
that a dotted key went through, is *closed* to another declaration.
-/
import Deadwood.Toml.Scalar
import Deadwood.Toml.Text

namespace Deadwood.Toml

/-- A dotted key. -/
abbrev Key := List String

/-- The entries of a table. -/
abbrev Entries := List (Value × Value)

/-- Changes the table at the end of a key, making the tables on the way. A list of tables stands for its last
one, if `throughLists` is set. Answers `none` if another value stands in the way. -/
def changeTable (throughLists : Bool) (change : Entries → Option Entries) : Key → Entries → Option Entries
  | [], entries => change entries
  | name :: rest, entries =>
    match Value.lookup? entries name with
    | none => (changeTable throughLists change rest []).map fun table =>
      Value.insertEntry (.text name) (.map table) entries
    | some (.map table) => (changeTable throughLists change rest table).map fun table =>
      Value.insertEntry (.text name) (.map table) entries
    | some (.list items) => match throughLists, items.getLast? with
      | true, some (.map table) => (changeTable throughLists change rest table).map fun table =>
        Value.insertEntry (.text name) (.list (items.dropLast ++ [.map table])) entries
      | _, _ => none
    | some _ => none

/-- Adds an entry to a table. A key has one value. -/
def addEntry (name : String) (value : Value) (entries : Entries) : Option Entries :=
  match Value.lookup? entries name with
  | some _ => none
  | none => some (entries ++ [(.text name, value)])

/-- Adds an empty table to a list of tables. -/
def addTable (name : String) (entries : Entries) : Option Entries :=
  match Value.lookup? entries name with
  | none => some (entries ++ [(.text name, .list [.map []])])
  | some (.list items) => some (Value.insertEntry (.text name) (.list (items ++ [.map []])) entries)
  | some _ => none

/-- Whether a value is a table or a list. -/
def isNested : Value → Bool
  | .map _ | .list _ => true
  | _ => false

/-- Whether a key lies at or below one of several keys. -/
def isBelow (keys : List Key) (key : Key) : Bool :=
  keys.any fun top => top.isPrefixOf key

/-- A character of a key without quotes. -/
def isKeyChar (c : Char) : Bool :=
  ('a' ≤ c && c ≤ 'z') || ('A' ≤ c && c ≤ 'Z') || isDigit c || c == '-' || c == '_'

/-- One part of a key. -/
def keyPart : Read String := do
  match ← Read.peek with
  | some c =>
    if isKeyChar c then return String.ofList (← Read.takeWhile isKeyChar)
    else if c == '\'' || c == '"' then lineText
    else Read.fail .keyStart
  | none => Read.fail .keyStart

/-- The parts of a key that follow its first part. -/
def keyRest : Nat → Read Key
  | 0 => return []
  | fuel + 1 => do
    skipBlanks
    if ← Read.accept "." then
      skipBlanks
      let part ← keyPart
      return part :: (← keyRest fuel)
    else return []

/-- A key with the blanks after it. -/
def key : Read Key := do
  let first ← keyPart
  return first :: (← keyRest (← get).length)

/-- What a recogniser finds at the present place. -/
def found? (recognise : List Char → Option (α × List Char)) : Read (Option α) := do
  match recognise (← get) with
  | some (value, rest) =>
    set rest
    return some value
  | none => return none

/-- A truth value, a date, a time or a number. -/
def scalar : Read Value := do
  if ← Read.accept "true" then return .bool true
  if ← Read.accept "false" then return .bool false
  let before ← get
  match ← found? dateOrMoment? with
  | some (some value) => return value
  | some none =>
    set before
    Read.fail .date
  | none => match ← found? clock? with
    | some clock => return .clock clock
    | none =>
      match longInteger? before with
      | some digits => Read.fail (.longInteger digits)
      | none =>
        match ← found? fun chars => (based? chars).or ((decimal? chars).or (special? chars)) with
        | some value => return value
        | none => Read.fail .value

mutual

/-- A value. -/
def value : Nat → Read Value
  | 0 => Read.fail .value
  | fuel + 1 => do
    match ← Read.peek with
    | some '"' | some '\'' => return .text (← quotedText)
    | some '[' =>
      Read.skip 1
      skipFiller
      if ← Read.accept "]" then return .list [] else return .list (← items fuel)
    | some '\x7b' =>
      Read.skip 1
      skipBlanks
      if ← Read.accept "\x7d" then return .map [] else return .map (← members fuel [] [])
    | _ => scalar

/-- The items of a list, from the first to the closing bracket. -/
def items : Nat → Read (List Value)
  | 0 => Read.fail .array
  | fuel + 1 => do
    let item ← value fuel
    skipFiller
    if ← Read.accept "]" then return [item]
    if !(← Read.accept ",") then Read.fail .array
    skipFiller
    if ← Read.accept "]" then return [item] else return item :: (← items fuel)

/-- The entries of an inline table, from the first to the closing brace. -/
def members (fuel : Nat) (frozen : List Key) (entries : Entries) : Read Entries :=
  match fuel with
  | 0 => Read.fail .inlineTable
  | fuel + 1 => do
    let (name, item) ← pair fuel
    if isBelow frozen name then Read.fail .frozen
    match changeTable false (addEntry (name.getLastD "") item) name.dropLast entries with
    | none => Read.fail .overwritten
    | some entries =>
      skipBlanks
      if ← Read.accept "\x7d" then return entries
      if !(← Read.accept ",") then Read.fail .inlineTable
      skipBlanks
      members fuel (if isNested item then name :: frozen else frozen) entries

/-- A key and its value. -/
def pair : Nat → Read (Key × Value)
  | 0 => Read.fail .value
  | fuel + 1 => do
    let name ← key
    if !(← Read.accept "=") then Read.fail .equalsSign
    skipBlanks
    return (name, ← value fuel)

end

/-- A document that is being read: its entries, the table that statements belong to, the keys that are frozen or
closed, and those that will be closed when the next table is declared. -/
structure Draft where
  entries : Entries := []
  header : Key := []
  frozen : List Key := []
  closed : List Key := []
  pending : List Key := []

namespace Draft

/-- Forgets what is known about a key and everything below it. -/
def release (draft : Draft) (name : Key) : Draft :=
  { draft with frozen := draft.frozen.filter fun other => !name.isPrefixOf other
               closed := draft.closed.filter fun other => !name.isPrefixOf other }

/-- Closes the keys that wait for it. -/
def settle (draft : Draft) : Draft :=
  { draft with closed := draft.pending ++ draft.closed, pending := [] }

/-- A key with its value. -/
def addPair (draft : Draft) : Read Draft := do
  let (name, item) ← pair ((← get).length + 2)
  -- The tables that a dotted key goes through count as declared from the next header on.
  let passed := (List.range (name.length - 1)).map fun n => draft.header ++ name.take (n + 1)
  if passed.any draft.closed.contains then Read.fail .declaredTwice
  let parent := draft.header ++ name.dropLast
  if isBelow draft.frozen parent then Read.fail .frozen
  match changeTable true (addEntry (name.getLastD "") item) parent draft.entries with
  | none => Read.fail .overwritten
  | some entries =>
    return { draft with
      entries
      pending := passed ++ draft.pending
      frozen := if isNested item then (draft.header ++ name) :: draft.frozen else draft.frozen }

/-- The declaration of a table, after its opening bracket. -/
def declareTable (draft : Draft) : Read Draft := do
  skipBlanks
  let name ← key
  if draft.closed.contains name || isBelow draft.frozen name then Read.fail .declaredTwice
  match changeTable true some name draft.entries with
  | none => Read.fail .overwritten
  | some entries =>
    if !(← Read.accept "]") then Read.fail .bracket
    return { draft with entries, closed := name :: draft.closed, header := name }

/-- The declaration of one more table of a list, after its opening brackets. -/
def declareItem (draft : Draft) : Read Draft := do
  skipBlanks
  let name ← key
  if isBelow draft.frozen name then Read.fail .frozen
  let draft := draft.release name
  match changeTable true (addTable (name.getLastD "")) name.dropLast draft.entries with
  | none => Read.fail .overwritten
  | some entries =>
    if !(← Read.accept "]]") then Read.fail .bracket
    return { draft with entries, closed := name :: draft.closed, header := name }

/-- A statement that starts with the given character. -/
def statement (draft : Draft) (first : Char) : Read Draft := do
  if isKeyChar first || first == '"' || first == '\'' then draft.addPair
  else if first == '[' then
    let draft := draft.settle
    if ← Read.accept "[[" then draft.declareItem
    else
      Read.skip 1
      draft.declareTable
  else if first == '#' then return draft
  else Read.fail .statement

/-- The statements up to the end of the text. -/
def statements (draft : Draft) : Nat → Read Draft
  | 0 => return draft
  | fuel + 1 => do
    skipBlanks
    match ← Read.peek with
    | none => return draft
    | some '\n' =>
      Read.skip 1
      draft.statements fuel
    | some first =>
      let draft ← draft.statement first
      skipBlanks
      skipComment
      match ← Read.peek with
      | none => return draft
      | some '\n' =>
        Read.skip 1
        draft.statements fuel
      | some _ => Read.fail .endOfLine

end Draft

/-- Writes a carriage return with a line feed as a line feed. -/
def joinLineEnds : List Char → List Char
  | [] => []
  | '\r' :: '\n' :: rest => '\n' :: joinLineEnds rest
  | c :: rest => c :: joinLineEnds rest

/-- Why a text gives no document. -/
inductive Refusal where
  /-- It is not well-formed, in these words. -/
  | malformed (detail : String)
  /-- It is, up to an integer with too many digits. -/
  | longInteger (digits : Nat)
  deriving DecidableEq, Repr

/-- The entries of a document. -/
def parse (text : String) : Except Refusal Entries :=
  let chars := joinLineEnds text.toList
  match (Draft.statements {} (chars.length + 1)).run chars with
  | .ok (draft, _) => .ok draft.entries
  | .error ⟨.longInteger digits, _⟩ => .error (.longInteger digits)
  | .error fault => .error (.malformed (fault.text chars))

end Deadwood.Toml
