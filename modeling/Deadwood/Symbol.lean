/-
Functions of a project.

A `Symbol` is one declared function. Its `Key` is the file together with the full
path: equal paths in different files are different functions.
-/
import Deadwood.Syntax.Source
import Deadwood.ModulePath
import Deadwood.Visibility

namespace Deadwood

/-- The identity of a function. -/
structure Key where
  file : String
  path : String
  deriving DecidableEq, Repr, Inhabited

namespace Key

/-- The order of keys: by file, then by path, both by code points. -/
def le (a b : Key) : Bool :=
  a.file < b.file || (a.file == b.file && a.path ≤ b.path)

/-- Keys in their order. -/
def sort (keys : List Key) : List Key :=
  keys.mergeSort le

end Key

/-- Whether a function belongs to a type or trait. -/
inductive SymbolKind where
  | function | method
  deriving DecidableEq, Repr

/-- The word for a kind of function. -/
def SymbolKind.name : SymbolKind → String
  | function => "function"
  | method => "method"

/-- A declared function. `owner` is the type or trait of a method, `traitName` the trait it implements, and
`order` its place among the functions of its file. -/
structure Symbol where
  name : String
  fullPath : String
  visibility : Visibility
  file : String
  span : Syntax.Span
  kind : SymbolKind := .function
  owner : Option String := none
  traitName : Option String := none
  isTest : Bool := false
  isForeign : Bool := false
  order : Int := 0
  deriving DecidableEq, Repr

namespace Symbol

/-- The identity of a function. -/
def key (symbol : Symbol) : Key :=
  ⟨symbol.file, symbol.fullPath⟩

/-- Whether the function belongs to a type or trait. -/
def isMethod (symbol : Symbol) : Bool :=
  symbol.kind == .method

end Symbol

end Deadwood
