/-
What the analysis has to say about a file it could not read in full.

In the tolerant mode a syntax error becomes a `Diagnostic`; in the strict mode it
is a `SyntaxError`, which fails the whole run.
-/
import Deadwood.Syntax.Source

namespace Deadwood

open Syntax

/-- A remark on a file, at a line where one is known. -/
structure Diagnostic where
  file : String
  message : String
  line : Option Int := none
  deriving DecidableEq, Repr

namespace Diagnostic

/-- The form `file:line: message`. -/
def text (diagnostic : Diagnostic) : String :=
  match diagnostic.line with
  | none => s!"{diagnostic.file}: {diagnostic.message}"
  | some line => s!"{diagnostic.file}:{line}: {diagnostic.message}"

/-- The line of the first syntax error in a node. -/
def faultLine? (source : Source) (node : Node) : Option Int :=
  (source.faultPoint? node).map fun point => (point.1 : Int)

/-- A function that was left out. -/
def skipped (file : String) (source : Source) (node : Node) (name : Option String) : Diagnostic :=
  let label := match name with
    | some name => if name = "" then "function" else s!"`{name}`"
    | none => "function"
  ⟨file, s!"skipped {label}: {source.faultText node}", faultLine? source node⟩

/-- A syntax error that no function explains. -/
def outsideFunctions (file : String) (source : Source) (root : Node) : Diagnostic :=
  ⟨file, s!"syntax error outside any function: {source.faultText root}", faultLine? source root⟩

/-- A file that is not readable text. -/
def unreadable (file : String) : Diagnostic :=
  ⟨file, "file could not be read", none⟩

end Diagnostic

/-- A syntax error that ends the analysis. -/
structure SyntaxError where
  file : String
  message : String
  line : Option Int := none
  column : Option Int := none
  deriving DecidableEq, Repr

namespace SyntaxError

/-- The text of the error; a missing column counts as zero. -/
def text (e : SyntaxError) : String :=
  match e.line with
  | none => s!"Parse error in {e.file}: {e.message}"
  | some line => s!"Parse error in {e.file}:{line}:{e.column.getD 0}: {e.message}"

/-- The first syntax error of a tree. -/
def first? (file : String) (source : Source) (root : Node) : Option SyntaxError :=
  if root.hasError then
    let point := source.faultPoint? root
    some ⟨file, source.faultText root, point.map fun p => (p.1 : Int), point.map fun p => (p.2 : Int)⟩
  else none

end SyntaxError

end Deadwood
