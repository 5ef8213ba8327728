/-
The text behind a syntax tree.

Nodes refer to a source by byte positions. A `Source` answers with the text of a
node, the point at which it stands, and the words for its first syntax error.
-/
import Deadwood.Syntax.Node
import Deadwood.Text.Blank
import Deadwood.Text.Utf8

namespace Deadwood.Syntax

/-- A range of positions, in lines and columns counted from one; columns count bytes. -/
structure Span where
  startLine : Int
  startColumn : Int
  stopLine : Int
  stopColumn : Int
  deriving DecidableEq, Repr, Inhabited

/-- The form `1:2-3:4`. -/
def Span.text (span : Span) : String :=
  s!"{span.startLine}:{span.startColumn}-{span.stopLine}:{span.stopColumn}"

/-- The bytes of one file. -/
structure Source where
  bytes : List UInt8
  deriving Repr

namespace Source

/-- The source that holds a text. -/
def ofText (s : String) : Source :=
  ⟨Utf8.encode s⟩

/-- The text between two byte positions. -/
def slice (source : Source) (start stop : Nat) : String :=
  Utf8.decodeLossy ((source.bytes.drop start).take (stop - start))

/-- The text of a node. -/
def text (source : Source) (node : Node) : String :=
  source.slice node.start node.stop

/-- The text of the node that fills a field. -/
def fieldText? (source : Source) (node : Node) (field : String) : Option String :=
  (node.child? field).map source.text

/-- The line and the column after a number of bytes, if the first of them has the given ones. -/
def pointAfter (line column : Nat) : Nat → List UInt8 → Nat × Nat
  | 0, _ => (line, column)
  | _, [] => (line, column)
  | count + 1, byte :: bytes =>
    if byte == 10 then pointAfter (line + 1) 1 count bytes else pointAfter line (column + 1) count bytes

/-- The line and the column of a byte position, counted from one. -/
def point (source : Source) (position : Nat) : Nat × Nat :=
  pointAfter 1 1 position source.bytes

/-- The span of a node. -/
def span (source : Source) (node : Node) : Span :=
  let (startLine, startColumn) := source.point node.start
  let (stopLine, stopColumn) := source.point node.stop
  ⟨startLine, startColumn, stopLine, stopColumn⟩

/-- The line and the column of the first syntax error in a node. -/
def faultPoint? (source : Source) (node : Node) : Option (Nat × Nat) :=
  node.firstFault?.map fun fault => source.point fault.start

/-- How many code points of an unexpected text a message shows. -/
def excerptLength : Nat := 40

/-- What is wrong at the first syntax error in a node. -/
def faultText (source : Source) (node : Node) : String :=
  match node.firstFault? with
  | none => "syntax error"
  | some fault =>
    if fault.missing then s!"missing `{fault.kind.name}`"
    else match Text.firstLine? (Text.trimChars (source.text fault).toList) with
      | none => "syntax error"
      | some line => s!"unexpected `{Text.ofPoints ((Text.pointsOf line).take excerptLength)}`"

end Source

end Deadwood.Syntax
