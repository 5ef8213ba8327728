/-
Finding and reading configuration files.

A file is looked for under six names in a folder; a cargo manifest counts only if
it has a table for this program. The suffix of a file says how it is written. How
documents are decoded, and how deep the values are that can be shown, is left to a
reader (`Config.Reader`).
-/
import Deadwood.Config.Decode
import Deadwood.Files.Load
import Deadwood.Toml.Document
import Deadwood.Yaml.Document

namespace Deadwood

/-- Why a file gives no configuration. -/
inductive LoadError where
  | refused (error : ConfigError)
  /-- The number of workers is infinite. -/
  | infiniteWorkers
  /-- A value cannot be shown. -/
  | unshowable (fault : Value.ShowFault)
  /-- An integer has too many digits to be read. -/
  | longInteger (digits : Nat)
  /-- A scalar does not have the form of its type. -/
  | scalar (fault : Yaml.Fault)
  /-- A part of a manifest should be a table. -/
  | notTable
  /-- A part of a manifest cannot have a table for this program. -/
  | notSearchable
  /-- A file is not well-formed UTF-8. -/
  | notText
  | isFolder
  /-- A path cannot be looked up. -/
  | path (error : PathError)
  deriving Repr

namespace Config

/-- The name of cargo's manifest. -/
def manifestName : String := "Cargo.toml"

/-- The names of configuration files, in the order of precedence. -/
def fileNames : List String :=
  ["deadfn.yaml", "deadfn.yml", ".deadfn.yaml", ".deadfn.yml", "deadfn.toml", manifestName]

/-- The key of this program in a manifest. -/
def manifestKey : String := "deadfn"

/-- What reading a configuration rests on. -/
structure Reader where
  /-- The document in a YAML file. -/
  yaml : List UInt8 → Except Yaml.Fault Value
  /-- The entries of a TOML document. -/
  toml : String → Except Toml.Refusal Entries
  /-- How deep the parts of a value may be nested for it to be shown. -/
  depth : Nat

/-- The reader in use. -/
def Reader.standard : Reader where
  yaml := Yaml.parse
  toml := Toml.parse
  depth := 980

/-- The configuration in a document that comes from a file. -/
def decodeAt (depth : Nat) (path : Path) (value : Value) : Except LoadError Config :=
  match ofValue depth value with
  | .ok config => .ok config
  | .error (.fault fault) => .error (.refused ⟨path.text, fault⟩)
  | .error .infiniteWorkers => .error .infiniteWorkers
  | .error (.unshowable fault) => .error (.unshowable fault)

/-- The value of a key of a manifest's table; a missing one counts as an empty table. -/
def tableAt (key : String) : Value → Except LoadError Value
  | .map entries => .ok ((Value.lookup? entries key).getD (.map []))
  | _ => .error .notTable

/-- The part of a manifest that is left to other programs. -/
def metadata (manifest : Value) : Except LoadError Value := do
  tableAt "metadata" (← tableAt "package" manifest)

/-- Whether a text occurs in another. -/
def occursIn (part : List Char) : List Char → Bool
  | [] => part.isEmpty
  | c :: rest => part.isPrefixOf (c :: rest) || occursIn part rest

/-- Whether a manifest mentions this program. -/
def isMentioned (manifest : Value) : Except LoadError Bool := do
  match ← metadata manifest with
  | .map entries => return (Value.lookup? entries manifestKey).isSome
  | .list items => return items.any fun item => Value.sameKey item (.text manifestKey)
  | .text s => return occursIn manifestKey.toList s.toList
  | _ => .error .notSearchable

/-- The bytes of a file as text. -/
def decodeUtf8 (bytes : List UInt8) : Except LoadError String :=
  match Utf8.decode? bytes with
  | some text => .ok text
  | none => .error .notText

/-- What stands at a path, if anything. -/
def probe (tree : Tree) (path : Path) : Except LoadError (Option Entry) :=
  (tree.probe path).mapError LoadError.path

/-- The bytes of an entry that is read as a file. -/
def bytesOf : Entry → Except LoadError (List UInt8)
  | .file bytes => .ok bytes
  | .folder _ => .error .isFolder

/-- Whether a folder's manifest has a table for this program. One that cannot be read has none. -/
def manifestCounts (reader : Reader) : Entry → Except LoadError Bool
  | .file bytes => do
    match reader.toml (← decodeUtf8 bytes) with
    | .ok entries => isMentioned (.map entries)
    | .error (.malformed _) => return false
    | .error (.longInteger digits) => .error (.longInteger digits)
  | .folder _ => return false

/-- Whether a candidate is a configuration file. -/
def counts (reader : Reader) (tree : Tree) (path : Path) : Except LoadError Bool := do
  match ← probe tree path with
  | none => return false
  | some entry => if path.name == manifestName then manifestCounts reader entry else return true

/-- The first of several candidates that is a configuration file. -/
def firstOf (reader : Reader) (tree : Tree) : List Path → Except LoadError (Option Path)
  | [] => .ok none
  | path :: rest => do if ← counts reader tree path then return some path else firstOf reader tree rest

/-- The configuration file in a folder, or in the folder of a file. -/
def find (reader : Reader) (tree : Tree) (start : Path) : Except LoadError (Option Path) := do
  let folder := match ← probe tree start with
    | some (.file _) => start.parent
    | _ => start
  firstOf reader tree (fileNames.map fun name => folder.below [name])

/-- A configuration written in YAML. An empty document gives the default one. -/
def ofYaml (reader : Reader) (path : Path) (bytes : List UInt8) : Except LoadError Config := do
  match reader.yaml bytes with
  | .ok value => if value.isTruthy then decodeAt reader.depth path value else return {}
  | .error .encoding => .error .notText
  | .error (.malformed problem line) => .error (.refused ⟨path.text, .invalidYaml (problem.text line)⟩)
  | .error fault => .error (.scalar fault)

/-- A configuration written in TOML, by itself or in a manifest. -/
def ofToml (reader : Reader) (path : Path) (bytes : List UInt8) : Except LoadError Config := do
  let text ← decodeUtf8 bytes
  match reader.toml text with
  | .error (.malformed detail) => .error (.refused ⟨path.text, .invalidToml detail⟩)
  | .error (.longInteger digits) => .error (.longInteger digits)
  | .ok entries =>
    if path.name == manifestName then
      decodeAt reader.depth path (← tableAt manifestKey (← metadata (.map entries)))
    else decodeAt reader.depth path (.map entries)

/-- The configuration in a file. -/
def read (reader : Reader) (tree : Tree) (path : Path) : Except LoadError Config := do
  match ← probe tree path with
  | none => throw (.refused ⟨path.text, .missingFile⟩)
  | some entry =>
    let suffix := Text.lower path.suffix
    let config ←
      if suffix == ".yaml" || suffix == ".yml" then ofYaml reader path (← bytesOf entry)
      else if suffix == ".toml" then ofToml reader path (← bytesOf entry)
      else throw (.refused ⟨path.text, .unknownSuffix suffix⟩)
    return { config with source := some path }

/-- The configuration in a file, or in the file that is found from a start, or the default one. -/
def load (reader : Reader) (tree : Tree) (path : Option Path) (start : Path) : Except LoadError Config := do
  match path with
  | some path => read reader tree path
  | none => match ← find reader tree start with
    | some path => read reader tree path
    | none => return {}

end Config

end Deadwood
