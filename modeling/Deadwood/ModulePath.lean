/-
Paths of modules and functions.

A path is a list of segments; its text joins them with `::` and never starts with
`crate`. Empty segments do not count, in either direction: `join` leaves them out
and `split` drops them.

`ofFile` says where a file stands in the module tree of its crate, by its place
in the directory tree alone.
-/

namespace Deadwood.ModulePath

/-- What stands between two segments. -/
def separator : String := "::"

/-- The name that stands for the body of a module where a function is expected. -/
def moduleBody : String := "<module>"

/-- The text of a path. -/
def join (segments : List String) : String :=
  separator.intercalate (segments.filter (· != ""))

/-- Puts a character in front of the first of several pieces. -/
def consFirst (c : Char) : List (List Char) → List (List Char)
  | [] => [[c]]
  | piece :: rest => (c :: piece) :: rest

/-- The pieces between the separators, found from left to right. -/
def pieces : List Char → List (List Char)
  | [] => [[]]
  | ':' :: ':' :: rest => [] :: pieces rest
  | c :: rest => consFirst c (pieces rest)

/-- The texts between the separators, empty ones included. -/
def parts (path : String) : List String :=
  (pieces path.toList).map String.ofList

/-- The segments of a path. -/
def split (path : String) : List String :=
  (parts path).filter (· != "")

/-- The text after the last separator. -/
def lastPart (path : String) : String :=
  (parts path).getLastD ""

/-- The last two parts of a path: an owner and a name. -/
def shortName (path : String) : String :=
  let all := parts path
  separator.intercalate (all.drop (all.length - 2))

/-- Whether a path ends with the given segments' text, at a separator. -/
def endsWith (path tail : String) : Bool :=
  (separator ++ tail).toList.isSuffixOf path.toList

/-- Whether a path stands for the body of a module. -/
def isModuleBody (path : String) : Bool :=
  path == moduleBody || endsWith path moduleBody

/-- Files that stand for the directory they are in. -/
def directoryFiles : List String := ["lib.rs", "main.rs", "mod.rs"]

/-- Directories in which every entry is the root of a crate. -/
def crateDirectories : List String := ["bin", "tests", "examples", "benches"]

/-- The components of a file name, with either kind of slash between them. A name that begins with exactly two
slashes has `//` as its first component; `/`, `.` and `..` do not count. -/
def components (file : String) : List String :=
  let chars := file.toList.map fun c => if c = '\\' then '/' else c
  let network := chars.take 2 = ['/', '/'] ∧ chars[2]? ≠ some '/'
  let names := ((chars.splitOn '/').map String.ofList).filter fun s => s != "" && s != "." && s != ".."
  if network then "//" :: names else names

/-- What follows the last component `src`, if there is one. -/
def afterSrc? (names : List String) : Option (List String) :=
  if names.contains "src" then some (names.reverse.takeWhile (· != "src")).reverse else none

/-- The components from the first crate directory on; all of them if none stands before the last component. -/
def fromCrateDirectory (names : List String) : List String :=
  if names.dropLast.any crateDirectories.contains then
    names.dropWhile fun name => !crateDirectories.contains name
  else names

/-- The components of a file below the root of its crate. -/
def inCrate (names : List String) : List String :=
  match afterSrc? names with
  | some rest => rest
  | none => fromCrateDirectory names

/-- The name of a file without `.rs`. -/
def stem (name : String) : String :=
  if ['.', 'r', 's'].isSuffixOf name.toList then String.ofList (name.toList.take (name.length - 3)) else name

/-- The module of a file whose directories and own name are given. -/
def ofNames : List String → List String
  | [] => []
  | [name] => if directoryFiles.contains name then [] else [stem name]
  | directory :: rest => directory :: ofNames rest

/-- The module segments of a file. A direct child of a crate directory is the root of a crate; deeper files
are modules of the crate named by the second component. -/
def ofFile (file : String) : List String :=
  match inCrate (components file) with
  | [] => []
  | first :: rest =>
    if crateDirectories.contains first then
      match rest with
      | [] => ofNames [first]
      | [_] => []
      | _ :: rest => ofNames rest
    else ofNames (first :: rest)

end Deadwood.ModulePath
