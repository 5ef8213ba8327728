/-
Names of files.

A path is a list of names, below the working directory or below a root. Empty
names and `.` say nothing and are left out; `..` is kept, since what it means
depends on the tree (see `Deadwood.Files.Tree`). In the end a path is made of
bytes, and half of a character may stand for a byte. The length of a path and
that of its names are limited.
-/
import Deadwood.Text.Utf8

namespace Deadwood

/-- A path. `root` is empty for a path below the working directory. -/
structure Path where
  root : String := ""
  names : List String := []
  deriving DecidableEq, Repr, Inhabited

namespace Path

/-- The root that a text begins with: one slash, or two slashes if there are exactly two. -/
def rootOf (chars : List Char) : String :=
  match chars.takeWhile (· == '/') with
  | [] => ""
  | ['/', '/'] => "//"
  | _ => "/"

/-- The path that a text names. -/
def ofText (text : String) : Path :=
  { root := rootOf text.toList
    names := ((text.toList.splitOn '/').map String.ofList).filter fun name => name != "" && name != "." }

/-- The text of a path. The working directory is `.`. -/
def text (path : Path) : String :=
  if path.root == "" && path.names.isEmpty then "." else path.root ++ "/".intercalate path.names

/-- The last name of a path. -/
def name (path : Path) : String :=
  path.names.getLastD ""

/-- The end of a name from its last dot on, if the dot neither begins nor ends the name. -/
def suffixOf (name : String) : String :=
  let tail := name.toList.reverse.takeWhile (· != '.')
  let before := (name.toList.reverse.dropWhile (· != '.')).drop 1
  if tail.isEmpty || before.isEmpty then "" else String.ofList ('.' :: tail.reverse)

/-- The suffix of the last name. -/
def suffix (path : Path) : String :=
  suffixOf path.name

/-- The path without its last name. -/
def parent (path : Path) : Path :=
  { path with names := path.names.dropLast }

/-- The path of an entry below another path. -/
def below (path : Path) (names : List String) : Path :=
  { path with names := path.names ++ names }

/-- The names that lead from a second path to this one. -/
def namesFrom? (path base : Path) : Option (List String) :=
  if path.root == base.root && base.names.isPrefixOf path.names then some (path.names.drop base.names.length) else none

/-- The text of a path as seen from another one; the whole path if it is not below. -/
def textFrom (path base : Path) : String :=
  match path.namesFrom? base with
  | some names => text { names }
  | none => path.text

/-- A path with those that lead to it, the shortest first. -/
def lineage (path : Path) : List Path :=
  (List.range path.names.length).map fun n => { path with names := path.names.take (n + 1) }

/-- The bytes of a name or a path. There are none if half of a character stands for no byte. -/
def bytes? (text : String) : Option (List UInt8) :=
  Utf8.encodeKept? text

/-- The number of bytes of a name or a path. -/
def byteCount (text : String) : Nat :=
  ((bytes? text).getD []).length

/-- The text that is read back from the bytes of a name. Two names with the same bytes are one. -/
def settled (name : String) : String :=
  Utf8.decodeKeeping ((bytes? name).getD [])

/-- The greatest number of bytes of a name. -/
def nameLimit : Nat := 255

/-- The greatest number of bytes of a path. -/
def limit : Nat := 4095

/-- What paths are ordered by: the root, if there is one, and the names. -/
def components (path : Path) : List String :=
  if path.root == "" then path.names else path.root :: path.names

/-- Paths are ordered name by name, and names by code points. -/
def le (a b : Path) : Bool :=
  !decide (b.components < a.components)

end Path

end Deadwood
