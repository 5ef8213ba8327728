/-
The program on the files of the machine.

The working directory is read into a tree, the run is computed from the tree and
the arguments, and the files that the run changed are written back. Only the
contents of files that a run may look into are read, and nothing is read or
written outside the working directory.
-/
import Deadwood.CommandLine.Run

namespace Deadwood.Machine

/-- A text as the machine takes it. Halves of characters are left out. -/
def plain (text : String) : String :=
  String.ofList ((Text.points text).filterMap fun
    | .char c => some c
    | .half _ => none)

/-- Whether a run may look into a file with this name. -/
def isReadable (name : String) : Bool :=
  [".rs", ".toml", ".yaml", ".yml"].contains (Text.lower (Path.suffixOf name)) || name == ".rs"

/-- Reads what stands at an entry of a folder. -/
partial def readEntry (place : IO.FS.DirEntry) : IO Entry := do
  if ← place.path.isDir then
    let entries ← place.path.readDir
    return .folder (← entries.toList.mapM fun entry => return (Text.ofChars entry.fileName.toList, ← readEntry entry))
  else if isReadable place.fileName then return .file (← IO.FS.readBinFile place.path).toList
  else return .file []

/-- Reads the working directory. -/
def readTree : IO Tree := do
  return { top := ← readEntry ⟨".", "."⟩ }

/-- Writes the files below an entry that are new or differ from those of an earlier tree. -/
partial def writeChanges (before : Tree) (names : List String) : Entry → IO Unit
  | .folder entries => for (name, entry) in entries do writeChanges before (names ++ [name]) entry
  | .file bytes => do
    let changed := match before.top.get? names with
      | some (.file old) => old != bytes
      | _ => true
    if changed then
      let path : Path := { names }
      IO.FS.createDirAll (plain path.parent.text)
      IO.FS.writeBinFile (plain path.text) ⟨bytes.toArray⟩

/-- The words for a path that leads nowhere. -/
def describePath : PathError → String
  | .missing => "no such file or directory"
  | .throughFile => "not a directory"
  | .tooLong => "file name too long"
  | .nullCharacter => PathError.nullMessage
  | .byteless => "a file name holds half of a character"

/-- The words for a failure that the program does not expect. -/
def describe : CommandLine.Failure → String
  | .load .infiniteWorkers => "the number of workers is infinite"
  | .load (.unshowable .tooDeep) => "a value is nested too deeply"
  | .load (.scalar fault) => fault.message
  | .load .notTable | .load .notSearchable => "malformed manifest"
  | .load .notText => "a configuration file is not a text in UTF-8"
  | .load .isFolder | .write .isFolder => "is a directory"
  | .write .isFile => "file exists"
  | .load (.path error) | .project (.path error) | .write (.path error) => describePath error
  | .project (.analysis (.tooFewWorkers workers)) => s!"workers must be at least 1, got {workers}"
  | .project (.analysis (.resolution .emptyPath)) => "a call without a path"
  | .project (.analysis (.resolution (.unknownKey key))) | .unknownFunction key => s!"unknown function {key.path}"
  | .noGraph => CommandLine.noGraphMessage
  | .valueless _ => "an option has no value"
  | .halfCharacter => "a text holds half of a character"
  | failure => (failure.refusal?).getD "failed"

end Deadwood.Machine

/-- Runs the program in the working directory. -/
def main (arguments : List String) : IO UInt32 := do
  let tree ← Deadwood.Machine.readTree
  let result := Deadwood.CommandLine.run tree (arguments.map fun argument => Deadwood.Text.ofChars argument.toList)
  (← IO.getStdout).putStr (Deadwood.Machine.plain result.stdout)
  (← IO.getStderr).putStr (Deadwood.Machine.plain result.stderr)
  Deadwood.Machine.writeChanges tree [] result.tree.top
  if let .folder (_ :: _) := result.tree.outside then
    (← IO.getStderr).putStrLn s!"{Deadwood.CommandLine.programName}: cannot write outside the working directory"
    return 1
  match result.status with
  | .ok status => return status.toUInt32
  | .error failure =>
    let words := Deadwood.Machine.plain (Deadwood.Machine.describe failure)
    (← IO.getStderr).putStrLn s!"{Deadwood.CommandLine.programName}: {words}"
    return 1
