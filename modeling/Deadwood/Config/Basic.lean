/-
Configurations of an analysis.
-/
import Deadwood.Files.Path
import Deadwood.Policy
import Deadwood.Text.Quoted

namespace Deadwood

/-- How the dead functions are printed. -/
inductive Format where
  | plain | json | report
  deriving DecidableEq, Repr

namespace Format

/-- All formats. -/
def all : List Format := [plain, json, report]

/-- The name of a format. -/
def name : Format → String
  | plain => "plain"
  | json => "json"
  | report => "report"

/-- The format with a given name. -/
def ofName? (name : String) : Option Format :=
  all.find? fun format => format.name == name

end Format

/-- A configuration. The names of visibilities are checked when a policy is made of them. -/
structure Config where
  paths : List String := ["."]
  excluded : List String := []
  format : Format := .report
  output : Option String := none
  strict : Bool := false
  workers : Option Int := none
  keepAlive : List String := []
  ignored : List String := []
  visibilities : List String := ["public"]
  entryNames : List String := ["main"]
  includeTests : Bool := true
  includeForeign : Bool := true
  includeTraitImpls : Bool := true
  source : Option Path := none
  deriving DecidableEq, Repr

/-- What can be wrong with a configuration. -/
inductive ConfigFault where
  | notMapping
  | notTexts (key : String)
  | unknownFormat (name : String)
  | workersNotInteger
  | workersTooFew
  | unknownVisibility (name : String)
  | missingFile
  | unknownSuffix (suffix : String)
  | invalidYaml (detail : String)
  | invalidToml (detail : String)
  deriving DecidableEq, Repr

/-- The names of all formats in one text. -/
def Format.allNames : String :=
  ", ".intercalate (all.map name)

/-- The words for a fault. -/
def ConfigFault.message : ConfigFault → String
  | notMapping => "top level must be a mapping"
  | notTexts key => s!"'{key}' must be a list of strings"
  | unknownFormat name => s!"unknown format {Text.quoted name} (expected one of {Format.allNames})"
  | workersNotInteger => "'workers' must be an integer"
  | workersTooFew => "'workers' must be at least 1"
  | unknownVisibility name => s!"unknown visibility {Text.quoted name}"
  | missingFile => "config file does not exist"
  | unknownSuffix suffix => "unsupported config format: " ++ if suffix == "" then "<none>" else suffix
  | invalidYaml detail => s!"invalid YAML: {detail}"
  | invalidToml detail => s!"invalid TOML: {detail}"

/-- A refused configuration: the file it comes from, and what is wrong. -/
structure ConfigError where
  place : String
  fault : ConfigFault
  deriving DecidableEq, Repr

/-- The words for a refused configuration, with a message of its own. -/
def ConfigError.describe (place message : String) : String :=
  s!"Config error at {place}: {message}"

/-- The words for a refused configuration. -/
def ConfigError.text (error : ConfigError) : String :=
  describe error.place error.fault.message

namespace Config

/-- The name of the place that a configuration comes from. -/
def place (config : Config) : String :=
  match config.source with
  | some path => path.text
  | none => "<config>"

/-- The categories that the configured names stand for. -/
def visibilityList (config : Config) : Except ConfigError (List Visibility) :=
  config.visibilities.mapM fun name =>
    match Visibility.ofNameOrLabel? (Text.trim name) with
    | some visibility => .ok visibility
    | none => .error ⟨config.place, .unknownVisibility name⟩

/-- The policy on entry points. -/
def policy (config : Config) : Except ConfigError Policy := do
  return { visibilities := ← config.visibilityList
           entryNames := config.entryNames
           includeTests := config.includeTests
           includeForeign := config.includeForeign
           includeTraitImpls := config.includeTraitImpls
           keepAlive := config.keepAlive
           ignored := config.ignored }

end Config

end Deadwood
