/-
JSON documents and their text.

`Json.pretty` writes a document over several lines, two blanks deeper at each
level; characters beyond ASCII are written as they are.
-/
import Deadwood.Number.Shortest
import Deadwood.Text.Quoted
import Deadwood.Value.Basic

namespace Deadwood

/-- A JSON document. -/
inductive Json where
  | null
  | bool (value : Bool)
  | int (value : Int)
  | float (value : Binary64)
  | text (value : String)
  | list (items : List Json)
  | object (members : List (String × Json))
  deriving Repr, Inhabited

namespace Json

/-- The JSON list of some texts. -/
def texts (items : List String) : Json :=
  .list (items.map .text)

/-- The JSON form of a value that may be absent. -/
def ofOption (convert : α → Json) : Option α → Json
  | none => .null
  | some value => convert value

/-- One character of a text. -/
def escape (c : Char) : List Char :=
  if c == '"' then ['\\', '"']
  else if c == '\\' then ['\\', '\\']
  else if c == '\n' then ['\\', 'n']
  else if c == '\r' then ['\\', 'r']
  else if c == '\t' then ['\\', 't']
  else if c == '\x08' then ['\\', 'b']
  else if c == '\x0c' then ['\\', 'f']
  else if c.toNat < 0x20 then '\\' :: 'u' :: (Text.hexPadded 4 c.toNat).toList
  else [c]

/-- A text in quotes. -/
def quoteChars (cs : List Char) : List Char :=
  '"' :: (cs.flatMap escape ++ ['"'])

/-- A text in quotes. -/
def quote (s : String) : String :=
  String.ofList (quoteChars s.toList)

/-- The text of a number. -/
def floatText : Binary64 → String
  | .nan => "NaN"
  | .infinite negative => if negative then "-Infinity" else "Infinity"
  | x => x.text

/-- A new line at a given depth. -/
def newLine (depth : Nat) : List Char :=
  '\n' :: List.replicate (2 * depth) ' '

mutual

/-- The characters of a document at a given depth. -/
def write (depth : Nat) : Json → List Char
  | .null => "null".toList
  | .bool b => (if b then "true" else "false").toList
  | .int i => (toString i).toList
  | .float x => (floatText x).toList
  | .text s => quoteChars s.toList
  | .list items => match writeItems (depth + 1) items with
    | [] => ['[', ']']
    | rows => '[' :: (rows ++ newLine depth ++ [']'])
  | .object members => match writeMembers (depth + 1) members with
    | [] => ['\x7b', '\x7d']
    | rows => '\x7b' :: (rows ++ newLine depth ++ ['\x7d'])

/-- The items of a list, each on a line of its own, with a comma after all but the last. -/
def writeItems (depth : Nat) : List Json → List Char
  | [] => []
  | [item] => newLine depth ++ write depth item
  | item :: rest => newLine depth ++ write depth item ++ ',' :: writeItems depth rest

/-- The members of an object, each on a line of its own, with a comma after all but the last. -/
def writeMembers (depth : Nat) : List (String × Json) → List Char
  | [] => []
  | [(name, value)] => newLine depth ++ quoteChars name.toList ++ ':' :: ' ' :: write depth value
  | (name, value) :: rest =>
    newLine depth ++ quoteChars name.toList ++ ':' :: ' ' :: write depth value ++ ',' :: writeMembers depth rest

end

/-- The text of a document. -/
def pretty (document : Json) : String :=
  String.ofList (write 0 document)

mutual

/-- The document as a value of a configuration. -/
def toValue : Json → Value
  | .null => .null
  | .bool b => .bool b
  | .int i => .int i
  | .float x => .float x
  | .text s => .text s
  | .list items => .list (toValues items)
  | .object members => .map (toEntries members)

/-- Several documents as values. -/
def toValues : List Json → List Value
  | [] => []
  | item :: rest => toValue item :: toValues rest

/-- The members of an object as entries of a map. -/
def toEntries : List (String × Json) → List (Value × Value)
  | [] => []
  | (name, value) :: rest => (.text name, toValue value) :: toEntries rest

end

end Json

end Deadwood
