/-
Reading source files.

A file is read as text: it must be well-formed UTF-8, and every kind of line end
counts as one line feed. A file that cannot be read is set aside.
-/
import Deadwood.Files.Tree
import Deadwood.OrderedMap
import Deadwood.Syntax.Source

namespace Deadwood

/-- The text of a file. -/
def Entry.text? : Entry → Option String
  | .file bytes => (Utf8.decode? bytes).map fun s => String.ofList (Text.unifyLineEnds s.toList)
  | .folder _ => none

/-- A file that could not be read, and the name under which it is known. -/
structure UnreadFile where
  path : Path
  id : String
  deriving DecidableEq, Repr

/-- The sources that were read, by the names under which they are known, and the files that were not. -/
structure LoadedSources where
  sources : OrderedMap String Syntax.Source := .empty
  unread : List UnreadFile := []
  deriving Repr

namespace LoadedSources

/-- The name under which a file is known: its path from the base, if there is a base and the file is below. -/
def idOf (base : Option Path) (file : Path) : String :=
  match base with
  | some base => file.textFrom base
  | none => file.text

/-- Reads one more file. A path that has no bytes is no path of a file and is refused. -/
def add (tree : Tree) (base : Option Path) (loaded : LoadedSources) (file : Path) :
    Except PathError LoadedSources :=
  let id := idOf base file
  let unread := { loaded with unread := loaded.unread ++ [⟨file, id⟩] }
  match tree.lookup file with
  | .ok entry => match entry.text? with
    | some text => .ok { loaded with sources := loaded.sources.insert id (.ofText text) }
    | none => .ok unread
  | .error .nullCharacter => .error .nullCharacter
  | .error .byteless => .error .byteless
  | .error _ => .ok unread

end LoadedSources

/-- Reads files in order. -/
def Tree.load (tree : Tree) (files : List Path) (base : Option Path) : Except PathError LoadedSources :=
  files.foldlM (LoadedSources.add tree base) {}

end Deadwood
