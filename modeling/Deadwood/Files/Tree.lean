/-
Trees of files.

The world that the program reads and writes is a value: the working directory
with the files and the folders below it. Looking up a path walks from the
working directory, and `..` leads back up from a folder. Of what is outside the
working directory nothing is known: it counts as one folder, which is its own
parent and is empty at first.
-/
import Deadwood.Files.Path

namespace Deadwood

/-- What a name in a folder stands for. -/
inductive Entry where
  | file (bytes : List UInt8)
  | folder (entries : List (String × Entry))
  deriving Repr, Inhabited

/-- Why a path leads to no entry. -/
inductive PathError where
  /-- Nothing stands there. -/
  | missing
  /-- A file stands where the path goes on. -/
  | throughFile
  /-- The path or one of its names is too long. -/
  | tooLong
  /-- The path holds a null character. -/
  | nullCharacter
  /-- The path holds half of a character that stands for no byte. -/
  | byteless
  deriving DecidableEq, Repr

/-- The words for a null character in a path. -/
def PathError.nullMessage : String := "embedded null byte"

/-- Why the tree was not changed. -/
inductive WriteError where
  /-- A folder stands where a file is to be written. -/
  | isFolder
  /-- A file stands where a folder is to be made. -/
  | isFile
  /-- There is no way to the place. -/
  | path (error : PathError)
  deriving DecidableEq, Repr

/-- What is wrong with a path whatever the tree is. -/
def Path.fault? (path : Path) : Option PathError :=
  match bytes? path.text with
  | none => some .byteless
  | some bytes =>
    if bytes.contains 0 then some .nullCharacter
    else if bytes.length > limit then some .tooLong
    else none

namespace Entry

/-- Whether an entry is a folder. -/
def isFolder : Entry → Bool
  | folder _ => true
  | file _ => false

/-- The entry that a folder has under a name. -/
def child? (name : String) : Entry → Option Entry
  | folder entries => (entries.find? fun entry => entry.1 == name).map (·.2)
  | file _ => none

/-- The entry that a list of names leads to. -/
def get? (entry : Entry) : List String → Option Entry
  | [] => some entry
  | name :: rest => (entry.child? name).bind fun child => child.get? rest

/-- Sets the entry of a name in a list of entries. -/
def setIn (name : String) (value : Entry) : List (String × Entry) → List (String × Entry)
  | [] => [(name, value)]
  | entry :: rest => if entry.1 == name then (name, value) :: rest else entry :: setIn name value rest

/-- Puts an entry at the end of a list of names; folders on the way are made. A file on the way gives way. -/
def set (value : Entry) : List String → Entry → Entry
  | [], _ => value
  | name :: rest, entry =>
    let entries := match entry with
      | folder entries => entries
      | file _ => []
    folder (setIn name (set value rest ((child? name entry).getD (folder []))) entries)

end Entry

/-- A working directory, and what is outside. -/
structure Tree where
  top : Entry := .folder []
  outside : Entry := .folder []
  deriving Repr, Inhabited

/-- A place in a tree: the names, without `..`, that lead to it from the working directory or from outside. -/
structure Tree.Place where
  isOutside : Bool := false
  names : List String := []
  deriving DecidableEq, Repr

/-- The place of the folder that holds a place. -/
def Tree.Place.up (place : Tree.Place) : Tree.Place :=
  if place.names.isEmpty then { isOutside := true } else { place with names := place.names.dropLast }

/-- The place of an entry of a folder. -/
def Tree.Place.down (place : Tree.Place) (name : String) : Tree.Place :=
  { place with names := place.names ++ [name] }

/-- Where a path starts. -/
def Path.start (path : Path) : Tree.Place :=
  { isOutside := path.root != "" }

namespace Tree

/-- The entry at a place. -/
def entryAt? (tree : Tree) (place : Place) : Option Entry :=
  (if place.isOutside then tree.outside else tree.top).get? place.names

/-- Goes from a folder to one of its entries, which need not be there, or back up. -/
def step (tree : Tree) (place : Place) (name : String) : Except PathError Place :=
  match tree.entryAt? place with
  | none => .error .missing
  | some (.file _) => .error .throughFile
  | some (.folder _) =>
    if name == ".." then .ok place.up
    else if Path.byteCount name > Path.nameLimit then .error .tooLong
    else .ok (place.down (Path.settled name))

/-- The place of a path. Everything before the last name must be there. -/
def locate (tree : Tree) (path : Path) : Except PathError Place :=
  match path.fault? with
  | some error => .error error
  | none => path.names.foldlM tree.step path.start

/-- The entry at a path, or why there is none. -/
def lookup (tree : Tree) (path : Path) : Except PathError Entry := do
  match tree.entryAt? (← tree.locate path) with
  | some entry => return entry
  | none => throw .missing

/-- The entry at a path. -/
def get? (tree : Tree) (path : Path) : Option Entry :=
  (tree.lookup path).toOption

/-- What stands at a path, if anything. It cannot be told of a path that is too long. -/
def probe (tree : Tree) (path : Path) : Except PathError (Option Entry) :=
  match tree.lookup path with
  | .error .tooLong => .error .tooLong
  | found => .ok found.toOption

/-- Whether a folder stands at a path. -/
def hasFolder (tree : Tree) (path : Path) : Bool :=
  (tree.get? path).any Entry.isFolder

/-- Adds an entry and the folders that lead to it. -/
def add (tree : Tree) (names : List String) (entry : Entry) : Tree :=
  { tree with top := Entry.set entry names tree.top }

/-- Puts an entry at a place. -/
def put (tree : Tree) (place : Place) (entry : Entry) : Tree :=
  if place.isOutside then { tree with outside := Entry.set entry place.names tree.outside }
  else tree.add place.names entry

/-- Writes a file into a folder that is there. -/
def write (tree : Tree) (path : Path) (bytes : List UInt8) : Except WriteError Tree := do
  let place ← (tree.locate path).mapError WriteError.path
  match tree.entryAt? place with
  | some (.folder _) => throw .isFolder
  | _ => return tree.put place (.file bytes)

/-- Makes a folder in one that is there, unless it is there itself. -/
def makeFolder (tree : Tree) (path : Path) : Except WriteError Tree := do
  let place ← (tree.locate path).mapError WriteError.path
  match tree.entryAt? place with
  | some (.folder _) => return tree
  | some (.file _) => throw .isFile
  | none => return tree.put place (.folder [])

/-- Why a folder cannot be made even if those that lead to it are. -/
def obstacle? (tree : Tree) (path : Path) : Option PathError :=
  match tree.locate path with
  | .ok _ | .error .missing => none
  | .error error => some error

end Tree

end Deadwood
