/-
Reading a configuration from a document.

Every option has a key at the top level of the document. The options on entry
points may also stand in a mapping `roots`, which has precedence. Other keys do
not count. The keys are looked at in a fixed order, so of several faults always
the same one is reported.
-/
import Deadwood.Config.Basic
import Deadwood.Number.Numeral
import Deadwood.Text.LowerCase
import Deadwood.Value.Display

namespace Deadwood

/-- Why a document gives no configuration. -/
inductive DecodeError where
  | fault (fault : ConfigFault)
  /-- The number of workers is infinite. -/
  | infiniteWorkers
  /-- A value cannot be shown. -/
  | unshowable (fault : Value.ShowFault)
  deriving DecidableEq, Repr

namespace Config

/-- The entries of a mapping. -/
abbrev Entries := List (Value × Value)

/-- The value of an option: what its entry says, or else a default. -/
def option (entries : Entries) (key : String) (default : α) (decode : Value → Except DecodeError α) :
    Except DecodeError α :=
  match Value.lookup? entries key with
  | some value => decode value
  | none => .ok default

/-- The text of a value whose parts may be nested to a depth. -/
def display (depth : Nat) (value : Value) : Except DecodeError String :=
  match value.fault? depth with
  | none => .ok value.display
  | some fault => .error (.unshowable fault)

/-- How many levels fewer there are for an item of a list than for a value that is shown by itself. -/
def itemLevels : Nat := 2

/-- A list of texts. A single text stands for a list of one, and items of other types for their texts. -/
def decodeTexts (depth : Nat) (key : String) (value : Value) : Except DecodeError (List String) :=
  match value.content with
  | .text s => .ok [s]
  | .list items => items.mapM (display (depth - itemLevels))
  | _ => .error (.fault (.notTexts key))

/-- The option with a list of texts. -/
def texts (depth : Nat) (entries : Entries) (key : String) (default : List String) :
    Except DecodeError (List String) :=
  option entries key default (decodeTexts depth key)

/-- A format. Blanks around its name and the case of letters do not count. -/
def decodeFormat (depth : Nat) (value : Value) : Except DecodeError Format := do
  let name := Text.lower (Text.trim (← display depth value))
  match Format.ofName? name with
  | some format => return format
  | none => .error (.fault (.unknownFormat name))

/-- A text, or nothing. -/
def decodeText (depth : Nat) : Value → Except DecodeError (Option String)
  | .null => .ok none
  | value => (display depth value).map some

/-- The text of bytes that can be a numeral. -/
def numeralText? (bytes : List UInt8) : Option String :=
  if bytes.all fun b => b < 0x80 && (0x20 ≤ b || (0x09 ≤ b && b ≤ 0x0D)) then
    some (String.ofList (bytes.map fun b => Char.ofNat b.toNat))
  else none

/-- The integer that a value stands for. A float is cut off. -/
def decodeInteger (value : Value) : Except DecodeError Int :=
  let found : Option Int → Except DecodeError Int := fun
    | some n => .ok n
    | none => .error (.fault .workersNotInteger)
  match value with
  | .int n => .ok n
  | .bool b => .ok (if b then 1 else 0)
  | .float x => match x.truncate with
    | .ok n => .ok n
    | .error .infinite => .error .infiniteWorkers
    | .error .nan => .error (.fault .workersNotInteger)
  | .text s => found (Numeral.int? s)
  | .bytes b => found ((numeralText? b).bind Numeral.int?)
  | _ => .error (.fault .workersNotInteger)

/-- A number of workers, or nothing. -/
def decodeWorkers : Value → Except DecodeError (Option Int)
  | .null => .ok none
  | value => do
    let n ← decodeInteger value
    if n < 1 then .error (.fault .workersTooFew) else return some n

/-- The switch of an option. -/
def switch (entries : Entries) (key : String) (default : Bool) : Bool :=
  match Value.lookup? entries key with
  | some value => value.isTruthy
  | none => default

/-- The entries of the mapping `roots`. -/
def rootEntries (entries : Entries) : Entries :=
  match (Value.lookup? entries "roots").map Value.content with
  | some (.map roots) => roots
  | _ => []

/-- The configuration that the entries of a document give. Values are shown whose parts are nested to a depth. -/
def ofEntries (depth : Nat) (entries : Entries) : Except DecodeError Config := do
  let default : Config := {}
  let paths ← texts depth entries "paths" default.paths
  let excluded ← texts depth entries "exclude" default.excluded
  let keepAlive ← texts depth entries "keep_alive" default.keepAlive
  let ignored ← texts depth entries "ignore" default.ignored
  let visibilities ← texts depth entries "root_visibilities" default.visibilities
  let entryNames ← texts depth entries "entry_names" default.entryNames
  let format ← option entries "format" default.format (decodeFormat depth)
  let output ← option entries "output" default.output (decodeText depth)
  let workers ← option entries "workers" default.workers decodeWorkers
  let roots := rootEntries entries
  let visibilities ← texts depth roots "root_visibilities" visibilities
  let entryNames ← texts depth roots "entry_names" entryNames
  let keepAlive ← texts depth roots "keep_alive" keepAlive
  let visibilities ← texts depth roots "visibilities" visibilities
  return { paths, excluded, format, output, workers, keepAlive, ignored, visibilities, entryNames
           strict := switch entries "strict" default.strict
           includeTests := switch roots "include_tests" (switch entries "include_tests" default.includeTests)
           includeForeign := switch roots "include_ffi" (switch entries "include_ffi" default.includeForeign)
           includeTraitImpls :=
             switch roots "include_trait_impls" (switch entries "include_trait_impls" default.includeTraitImpls) }

/-- The configuration that a document gives. -/
def ofValue (depth : Nat) (value : Value) : Except DecodeError Config :=
  match value.content with
  | .map entries => ofEntries depth entries
  | _ => .error (.fault .notMapping)

end Config

end Deadwood
