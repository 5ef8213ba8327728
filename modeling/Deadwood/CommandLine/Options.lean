/-
The options of the command line.

An argument that starts with a hyphen is an option; a long option may be cut
short as long as only one option begins like it, its value may follow after `=`,
and short options may share one hyphen. Everything after `--` is a path. The
paths must stand together: only the first run of them is taken. The mark `--` is
never a value: an option with `=--` is given without one.
-/
import Deadwood.Config.Basic
import Deadwood.Number.Numeral

namespace Deadwood.CommandLine

/-- An option without a value. -/
inductive Switch where
  | help | json | strict | init | force | verbose
  deriving DecidableEq, Repr

/-- An option with a value. -/
inductive Setting where
  | config | format | keepAlive | ignore | dot | graphFile | output | explain | workers
  deriving DecidableEq, Repr

/-- An option. -/
inductive Choice where
  | switch (switch : Switch)
  | setting (setting : Setting)
  deriving DecidableEq, Repr

/-- The names of the options, in the order in which they are listed. -/
def names : List (String × Choice) := [
  ("-h", .switch .help), ("--help", .switch .help),
  ("--config", .setting .config),
  ("--format", .setting .format),
  ("--json", .switch .json),
  ("--strict", .switch .strict),
  ("--keep-alive", .setting .keepAlive),
  ("--ignore", .setting .ignore),
  ("--dot", .setting .dot),
  ("--export-callgraph", .setting .graphFile),
  ("--output", .setting .output),
  ("--explain", .setting .explain),
  ("--workers", .setting .workers),
  ("--init", .switch .init),
  ("--force", .switch .force),
  ("-v", .switch .verbose), ("--verbose", .switch .verbose)]

/-- All names of an option in one text. -/
def Choice.label (choice : Choice) : String :=
  "/".intercalate ((names.filter fun entry => entry.2 == choice).map (·.1))

/-- What is wrong with a command line. -/
inductive UsageError where
  | ambiguous (argument : String) (candidates : List String)
  | noValue (choice : Choice)
  | unusedValue (choice : Choice) (value : String)
  | badWorkers (value : String)
  | tooFewWorkers (workers : Int)
  | badFormat (value : String)
  | unknown (arguments : List String)
  deriving Repr

/-- The words for a fault that concerns one option. -/
def Choice.complaint (choice : Choice) (message : String) : String :=
  s!"argument {choice.label}: {message}"

/-- The words for an error. -/
def UsageError.message : UsageError → String
  | ambiguous argument candidates => s!"ambiguous option: {argument} could match " ++ ", ".intercalate candidates
  | noValue choice => choice.complaint "expected one argument"
  | unusedValue choice value => choice.complaint s!"ignored explicit argument {Text.quoted value}"
  | badWorkers value => (Choice.setting .workers).complaint s!"invalid int value: {Text.quoted value}"
  | tooFewWorkers workers => (Choice.setting .workers).complaint s!"must be at least 1, got {workers}"
  | badFormat value => (Choice.setting .format).complaint
    (s!"invalid choice: {Text.quoted value} (choose from " ++
      ", ".intercalate (Format.all.map fun format => Text.quoted format.name) ++ ")")
  | unknown arguments => "unrecognized arguments: " ++ " ".intercalate arguments

/-- What a command line asks for. The options that may be repeated have an entry `none` for each time that they are
given without a value, and so has the number of workers. -/
structure Options where
  paths : List String := []
  config : Option String := none
  format : Option Format := none
  json : Bool := false
  strict : Bool := false
  keepAlive : List (Option String) := []
  ignored : List (Option String) := []
  dot : Option String := none
  graphFile : Option String := none
  output : Option String := none
  explain : Option String := none
  workers : Option (Option Int) := none
  init : Bool := false
  force : Bool := false
  verbose : Bool := false
  deriving Repr

/-! ### Kinds of arguments -/

/-- What an argument is. An option may be followed by more in the same argument: after an equals sign, or directly if
it is short. -/
inductive Argument where
  | word (text : String)
  | divider
  | unknown (text : String)
  | option (name : String) (choice : Choice) (attached : Option String)
  deriving Repr

/-- The option with exactly a given name. -/
def choice? (name : String) : Option Choice :=
  names.lookup name

/-- The text before the first equals sign, and the text after it if there is one. -/
def cutAtEquals (text : String) : String × Option String :=
  let chars := text.toList
  match chars.dropWhile (· != '=') with
  | [] => (text, none)
  | _ :: value => (String.ofList (chars.takeWhile (· != '=')), some (String.ofList value))

/-- Whether an argument is a negative number and so no option. A line feed at its end does not count. -/
def isNegativeNumber (text : String) : Bool :=
  let isDigit := fun c => (Text.digitValue? c).isSome
  match Text.dropFinalBreak text.toList with
  | '-' :: rest =>
    let whole := rest.takeWhile isDigit
    match rest.dropWhile isDigit with
    | [] => !whole.isEmpty
    | '.' :: fraction => !fraction.isEmpty && fraction.all isDigit
    | _ => false
  | _ => false

/-- The options that a shortened argument may stand for. -/
def candidates (text : String) : List (String × Choice × Option String) :=
  match text.toList with
  | '-' :: '-' :: _ =>
    let (start, value) := cutAtEquals text
    (names.filter fun entry => start.toList.isPrefixOf entry.1.toList).map fun entry => (entry.1, entry.2, value)
  | '-' :: c :: rest =>
    (names.filter fun entry => entry.1 == String.ofList ['-', c]).map fun entry =>
      (entry.1, entry.2, some (String.ofList rest))
  | _ => []

/-- What an argument that starts with a hyphen is, if it is no option in full. -/
def classifyShortened (text : String) : Except UsageError Argument :=
  match candidates text with
  | [(name, choice, attached)] => .ok (.option name choice attached)
  | [] => .ok (if isNegativeNumber text || text.toList.contains ' ' then .word text else .unknown text)
  | several => .error (.ambiguous text (several.map (·.1)))

/-- What an argument is. -/
def classify (text : String) : Except UsageError Argument :=
  match text.toList with
  -- A single hyphen is a word.
  | '-' :: _ :: _ => match choice? text with
    | some choice => .ok (.option text choice none)
    | none => match cutAtEquals text with
      | (name, some value) => match choice? name with
        | some choice => .ok (.option name choice (some value))
        | none => classifyShortened text
      | (_, none) => classifyShortened text
  | _ => .ok (.word text)

/-- What the arguments of a command line are. -/
def classifyAll : List String → Except UsageError (List Argument)
  | [] => .ok []
  | text :: rest =>
    if text == "--" then .ok (.divider :: rest.map .word)
    else do return (← classify text) :: (← classifyAll rest)

/-! ### Reading -/

/-- Why reading stops early. -/
inductive Stop where
  | help
  | wrong (error : UsageError)
  deriving Repr

/-- Where the paths stand: before, in or after the run of paths that is taken. -/
inductive PathStage where
  | before | inside | after
  deriving DecidableEq, Repr

/-- What was read so far. -/
structure Progress where
  options : Options := {}
  stage : PathStage := .before
  extra : List String := []
  deriving Repr

namespace Progress

/-- Sets a switch. -/
def set (progress : Progress) (switch : Switch) : Except Stop Progress :=
  let options := progress.options
  let changed : Except Stop Options := match switch with
    | .help => .error .help
    | .json => .ok { options with json := true }
    | .strict => .ok { options with strict := true }
    | .init => .ok { options with init := true }
    | .force => .ok { options with force := true }
    | .verbose => .ok { options with verbose := true }
  changed.map fun options => { progress with options }

/-- The number of workers. -/
def workersOf (value : String) : Except Stop Int :=
  match Numeral.int? value with
  | none => .error (.wrong (.badWorkers value))
  | some n => if n < 1 then .error (.wrong (.tooFewWorkers n)) else .ok n

/-- The value that is written in one argument with its option. -/
def attachedValue (text : String) : Option String :=
  if text == "--" then none else some text

/-- Gives a value to an option, or none. -/
def assign (progress : Progress) (setting : Setting) (value : Option String) : Except Stop Progress := do
  let options := progress.options
  let options : Options ← match setting with
    | .config => pure { options with config := value }
    | .format => match value.map fun value => (value, Format.ofName? value) with
      | some (value, none) => .error (.wrong (.badFormat value))
      | some (_, format) => pure { options with format }
      | none => pure { options with format := none }
    | .keepAlive => pure { options with keepAlive := options.keepAlive ++ [value] }
    | .ignore => pure { options with ignored := options.ignored ++ [value] }
    | .dot => pure { options with dot := value }
    | .graphFile => pure { options with graphFile := value }
    | .output => pure { options with output := value }
    | .explain => pure { options with explain := value }
    | .workers => pure { options with workers := some (← value.mapM workersOf) }
  return { progress with options }

/-- Adds a word that is no value of an option. -/
def addWord (progress : Progress) (text : String) : Progress :=
  if progress.stage == .after then { progress with extra := progress.extra ++ [text] }
  else { progress with
    stage := .inside, options := { progress.options with paths := progress.options.paths ++ [text] } }

/-- Adds the mark `--`. -/
def addDivider (progress : Progress) : Progress :=
  if progress.stage == .after then { progress with extra := progress.extra ++ ["--"] }
  else { progress with stage := .inside }

/-- Ends the run of paths. -/
def endPaths (progress : Progress) : Progress :=
  if progress.stage == .inside then { progress with stage := .after } else progress

/-- A switch and those that share its hyphen, given what follows it in the argument. -/
def cluster (switch : Switch) : List Char → Except UsageError (List Switch)
  | [] => .ok [switch]
  | c :: rest =>
    match choice? (String.ofList ['-', c]) with
    | some (.switch next) => return switch :: (← cluster next rest)
    | _ => .error (.unusedValue (.switch switch) (String.ofList (c :: rest)))

/-- A switch that is written in one argument with more. Only short ones may share a hyphen. -/
def setAttached (progress : Progress) (name : String) (switch : Switch) (attached : String) :
    Except Stop Progress := do
  let isLong := name.toList[1]? == some '-'
  if isLong || attached.isEmpty then
    throw (.wrong (.unusedValue (.switch switch) attached))
  let switches ← (cluster switch attached.toList).mapError Stop.wrong
  switches.foldlM set progress

/-- Reads the arguments. -/
def read (progress : Progress) : List Argument → Except Stop Progress
  | [] => .ok progress
  | .word text :: rest => (progress.addWord text).read rest
  | .divider :: rest => progress.addDivider.read rest
  | .unknown text :: rest =>
    let progress := progress.endPaths
    { progress with extra := progress.extra ++ [text] }.read rest
  | .option name (.switch switch) attached :: rest => do
    let progress := progress.endPaths
    let progress ← match attached with
      | none => progress.set switch
      | some attached => progress.setAttached name switch attached
    progress.read rest
  | .option _ (.setting setting) (some attached) :: rest => do
    let progress ← progress.endPaths.assign setting (attachedValue attached)
    progress.read rest
  | .option _ (.setting setting) none :: .word value :: rest => do
    let progress ← progress.endPaths.assign setting (some value)
    progress.read rest
  | .option _ (.setting setting) none :: _ => .error (.wrong (.noValue (.setting setting)))

end Progress

/-- Reads a command line. -/
def parse (arguments : List String) : Except Stop Options := do
  let arguments ← (classifyAll arguments).mapError Stop.wrong
  let progress ← Progress.read {} arguments
  if progress.extra.isEmpty then return progress.options
  else throw (.wrong (.unknown progress.extra))

end Deadwood.CommandLine
