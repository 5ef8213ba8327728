/-
The values of YAML documents.

Values are made from the nodes of a document in rounds. Scalars are read as soon
as they are met, while the parts of a collection wait for the next round. So of
several faults the least deep one counts, and among those of one depth the first.
-/
import Deadwood.Number.Numeral
import Deadwood.Text.Base64
import Deadwood.Text.LowerCase
import Deadwood.Value.Display
import Deadwood.Value.Seating
import Deadwood.Yaml.Lexer
import Deadwood.Yaml.Node

namespace Deadwood.Yaml

/-! ### Scalars -/

/-- The integer of a numeral in a base. -/
def basedInteger (base : Nat) (chars : List Char) : Except Fault Int :=
  match Numeral.intOf base (String.ofList chars) with
  | .ok n => .ok n
  | .error .malformed => .error (.noInteger base (String.ofList chars))
  | .error (.tooLong digits) => .error (.longInteger digits)

/-- An integer without a sign: in base two, sixteen, eight, sixty or ten. -/
def unsignedInteger (chars : List Char) : Except Fault Int :=
  match chars with
  | [] => .error .emptyNumber
  | ['0'] => .ok 0
  | '0' :: 'b' :: rest => basedInteger 2 rest
  | '0' :: 'x' :: rest => basedInteger 16 rest
  | '0' :: _ => basedInteger 8 chars
  | _ =>
    if chars.contains ':' then do
      let parts ← (chars.splitOn ':').mapM (basedInteger 10)
      return parts.foldl (fun n part => n * 60 + part) 0
    else basedInteger 10 chars

/-- The integer of a scalar. Underscores do not count. -/
def integer (text : String) : Except Fault Int :=
  match text.toList.filter (· != '_') with
  | [] => .error .emptyNumber
  | '-' :: rest => (unsignedInteger rest).map fun n => -n
  | '+' :: rest => unsignedInteger rest
  | chars => unsignedInteger chars

/-- The float of a decimal numeral. -/
def decimalFloat (chars : List Char) : Except Fault Binary64 :=
  match Numeral.float? (String.ofList chars) with
  | some x => .ok x
  | none => .error (.noFloat (String.ofList chars))

/-- The unit of a place in base sixty, counted from the last one. -/
def unitOfPlace (place : Nat) : Except Fault Binary64 :=
  match Binary64.ofInt (Nat.pow 60 place) with
  | .infinite _ => .error .tooManyParts
  | unit => .ok unit

/-- The sum of parts in base sixty, the last part first. Every unit, product and sum is rounded. -/
def sumOfSixties (parts : List Binary64) : Except Fault Binary64 :=
  parts.reverse.zipIdx.foldlM (fun sum (part, place) =>
    return sum.add (part.mul (← unitOfPlace place))) (Binary64.ofInt 0)

/-- A float without a sign. -/
def unsignedFloat (chars : List Char) : Except Fault Binary64 :=
  if chars == ".inf".toList then .ok (.infinite false)
  else if chars == ".nan".toList then .ok .nan
  else if chars.contains ':' then ((chars.splitOn ':').mapM decimalFloat).bind sumOfSixties
  else decimalFloat chars

/-- The float of a scalar. Underscores and the case of letters do not count. -/
def floating (text : String) : Except Fault Binary64 :=
  match (Text.lower text).toList.filter (· != '_') with
  | [] => .error .emptyNumber
  | '-' :: rest => (unsignedFloat rest).map Binary64.negate
  | '+' :: rest => unsignedFloat rest
  | chars => unsignedFloat chars

/-- Whether the text of a float names the value that is no number. The numeral `nan` does not name it. -/
def namesNan (text : String) : Bool :=
  (Numeral.sign ((Text.lower text).toList.filter (· != '_'))).2 == ".nan".toList

/-- The truth value of a scalar. The case of letters does not count. -/
def truthValue (text : String) : Except Fault Bool :=
  match Text.lower text with
  | "yes" | "true" | "on" => .ok true
  | "no" | "false" | "off" => .ok false
  | _ => .error .noTruthValue

/-- The date or the moment of a scalar. A line feed at its end does not count. -/
def timestamp (text : String) : Except Fault Value :=
  match Timestamp.parse? (Text.dropFinalBreak text.toList) with
  | none => .error .noTimestamp
  | some stamp => match stamp.clock with
    | none => match stamp.date.fault? with
      | some fault => .error (.noSuchDate fault)
      | none => .ok (.date stamp.date)
    | some clock =>
      let moment : Moment := ⟨stamp.date, clock, stamp.offset⟩
      match moment.fault? with
      | some fault => .error (.noSuchDate fault)
      | none => .ok (.moment moment)

/-- The bytes of a scalar. -/
def binary (text : String) : Except Fault (List UInt8) :=
  let refused := Fault.malformed .binary none
  if text.toList.all fun c => c.toNat < 0x80 then
    match Base64.decode? text.toList with
    | some bytes => .ok bytes
    | none => .error refused
  else .error refused

/-- The value of a scalar of a given type. -/
def scalarValue (tag : Tag) (text : String) : Except Fault Value :=
  match tag with
  | .null => .ok .null
  | .bool => (truthValue text).map .bool
  | .int => (integer text).map .int
  | .float => (floating text).map .float
  | .binary => (binary text).map .bytes
  | .timestamp => timestamp text
  | _ => .ok (.text text)

/-! ### Collections -/

/-- What has been made of a node. The parts of a collection are the numbers of their nodes. -/
inductive Made where
  | scalar (value : Value)
  | list (items : List Nat)
  | map (entries : List (Nat × Nat))
  | set (items : List Nat)
  | pairs (entries : List (Nat × Nat))
  deriving Inhabited

/-- The state of making values: the nodes, whose merge keys are replaced on the way, what has been made of them, and
the collections that wait for their parts. -/
structure Workshop where
  nodes : Array Node
  made : Array (Option Made)
  waiting : Array Nat

/-- A step of making values. -/
abbrev Making := StateT Workshop (Except Fault)

namespace Making

/-- Fails because of the shape of a node. -/
def fail {α : Type} (problem : Problem) : Making α :=
  throw (.malformed problem none)

/-- A node by its number. -/
def node (number : Nat) : Making Node := do
  return (← get).nodes.getD number default

/-- Changes a node. -/
def setNode (number : Nat) (node : Node) : Making Unit :=
  modify fun shop => { shop with nodes := shop.nodes.set! number node }

/-- What has been made of a node. -/
def madeOf (number : Nat) : Making (Option Made) := do
  return (← get).made.getD number none

/-- Notes what has been made of a node. -/
def setMade (number : Nat) (made : Made) : Making Unit :=
  modify fun shop => { shop with made := shop.made.set! number (some made) }

/-- The scalar text of a node. A mapping has that of its entry `=`. -/
def scalarText : Nat → Nat → Making String
  | 0, _ => fail .wrongShape
  | fuel + 1, number => do
    match (← node number).content with
    | .scalar text => return text
    | .sequence _ => fail .wrongShape
    | .mapping entries =>
      let found ← entries.findM? fun (key, _) => return (← node key).tag == .value
      match found with
      | some (_, value) => scalarText fuel value
      | none => fail .wrongShape

/-- Makes a scalar at once, and an empty collection that waits for its parts. -/
def make (number : Nat) : Making Unit := do
  if (← madeOf number).isSome then return
  let start := fun (made : Made) => do
    setMade number made
    modify fun shop => { shop with waiting := shop.waiting.push number }
  match (← node number).tag with
  | .sequence => start (.list [])
  | .mapping => start (.map [])
  | .set => start (.set [])
  | .orderedMap | .pairs => start (.pairs [])
  | .merge | .value | .other _ => fail .noConstruct
  | tag =>
    let text ← scalarText (← get).nodes.size number
    if tag == .timestamp && (← node number).content.isMapping then throw .timestampMapping
    match scalarValue tag text with
    | .ok value => setMade number (.scalar value)
    | .error fault => throw fault

/-! ### Merge keys -/

/-- The entries of a mapping. -/
def entriesOf (number : Nat) : Making (Option (List (Nat × Nat))) := do
  match (← node number).content with
  | .mapping entries => return some entries
  | _ => return none

/-- Changes the entries of a mapping. -/
def setEntries (number : Nat) (entries : List (Nat × Nat)) : Making Unit := do
  setNode number { ← node number with content := .mapping entries }

/-- Replaces the merge keys of a mapping, from an index on, by the entries of the mappings they name. These come first
and so give way; of several mappings in one merge the first has precedence. A key `=` becomes a text. -/
def flatten : Nat → Nat → Nat → List (Nat × Nat) → Making Unit
  | 0, _, _, _ => fail .merge
  | fuel + 1, number, index, merged => do
    let entries := (← entriesOf number).getD []
    match entries[index]? with
    | none => unless merged.isEmpty do setEntries number (merged ++ entries)
    | some (key, value) =>
      let keyNode ← node key
      match keyNode.tag with
      | .merge =>
        setEntries number (entries.eraseIdx index)
        let named ← match (← node value).content with
          | .mapping _ => pure [value]
          | .sequence items => pure items.reverse
          | .scalar _ => fail .merge
        for inner in named.reverse do
          if (← entriesOf inner).isNone then fail .merge
          flatten fuel inner 0 []
        let parts ← named.mapM fun inner => return (← entriesOf inner).getD []
        flatten fuel number index (merged ++ parts.flatten)
      | .value =>
        setNode key { keyNode with tag := .text }
        flatten fuel number (index + 1) merged
      | _ => flatten fuel number (index + 1) merged

/-- More steps than it takes to replace the merge keys of a document. -/
def flattenLimit : Nat := 1000000

/-! ### Parts -/

/-- A key of a mapping: its node, its value, and a number that two keys share only if they are one object. -/
structure Key where
  number : Nat
  value : Value
  object : Nat

/-- Whether two keys are the same: one object, or of the same value. -/
def Key.isSame (a b : Key) : Bool :=
  a.object == b.object || Value.sameKey a.value b.value

/-- The key that has been made of a node, unless it may not be a key. All keys that name the value that is no number
are one object. -/
def keyOf (number : Nat) : Making Key := do
  match ← madeOf number with
  | some (.scalar (.float .nan)) =>
    let count := (← get).nodes.size
    return ⟨number, .float .nan, if namesNan (← scalarText count number) then count else number⟩
  | some (.scalar value) => return ⟨number, value, number⟩
  | _ => fail .unhashable

/-- Adds an entry. Of two entries with one key the later value counts. -/
def insertEntry (key : Key) (value : Nat) : List (Key × Nat) → List (Key × Nat)
  | [] => [(key, value)]
  | (other, old) :: rest =>
    if other.isSame key then (other, value) :: rest else (other, old) :: insertEntry key value rest

/-- Makes the entries of a mapping. -/
def makeEntries (number : Nat) : Making (List (Nat × Nat)) := do
  if (← entriesOf number).isNone then fail .wrongShape
  flatten flattenLimit number 0 []
  let mut done := []
  for (node, value) in (← entriesOf number).getD [] do
    make node
    let key ← keyOf node
    make value
    done := insertEntry key value done
  return done.map fun (key, value) => (key.number, value)

/-- Makes the pair of a mapping with one entry. -/
def makePair (number : Nat) : Making (Nat × Nat) := do
  match ← entriesOf number with
  | some [(key, value)] =>
    make key
    make value
    return (key, value)
  | _ => fail .wrongShape

/-- Makes the parts of a collection. -/
def makeParts (number : Nat) : Making Unit := do
  match ← madeOf number with
  | some (.list _) => match (← node number).content with
    | .sequence items =>
      items.forM make
      setMade number (.list items)
    | _ => fail .wrongShape
  | some (.map _) => setMade number (.map (← makeEntries number))
  | some (.set _) => setMade number (.set ((← makeEntries number).map (·.1)))
  | some (.pairs _) => match (← node number).content with
    | .sequence items => setMade number (.pairs (← items.mapM makePair))
    | _ => fail .wrongShape
  | _ => pure ()

/-- Makes the parts of the collections that wait, round by round. Each node waits at most once. -/
def makeRounds : Nat → Making Unit
  | 0 => pure ()
  | fuel + 1 => do
    let waiting := (← get).waiting
    if waiting.isEmpty then return
    modify fun shop => { shop with waiting := #[] }
    waiting.forM makeParts
    makeRounds fuel

end Making

/-- What is made of the nodes of a document. -/
def Nodes.make (nodes : Nodes) : Except Fault (Array (Option Made)) := do
  let shop : Workshop := ⟨nodes.nodes, nodes.nodes.map fun _ => none, #[]⟩
  let work : Making Unit := do
    Making.make nodes.root
    Making.makeRounds (nodes.nodes.size + 1)
  return (← work.run shop).2.made

/-! ### Values -/

namespace Made

/-- The parts of a collection. -/
def parts : Made → List Nat
  | scalar _ => []
  | list items | set items => items
  | map entries | pairs entries => entries.flatMap fun (key, value) => [key, value]

/-- The value with the given parts, from which the values of the parts are taken. -/
def value (valueOf : Nat → Value) : Made → Value
  | scalar value => value
  | list items => .list (items.map valueOf)
  | set items => .set (Value.seated (items.map valueOf))
  | map entries => .map (entries.map fun (key, value) => (valueOf key, valueOf value))
  | pairs entries => .list (entries.map fun (key, value) => .tuple [valueOf key, valueOf value])

/-- The text of a collection within itself. -/
def mark : Made → String
  | map _ | set _ => "\x7b...\x7d"
  | _ => "[...]"

end Made

/-- The finished objects of a document. -/
abbrev Objects := Array (Option Made)

namespace Objects

/-- What has been made of a node. -/
def made (objects : Objects) (number : Nat) : Made :=
  (objects.getD number none).getD (.scalar .null)

/-- The value of a node in a document without loops. The values of nodes that have been met are kept. -/
def plainValue (objects : Objects) : Nat → Nat → StateM (Array (Option Value)) Value
  | 0, _ => return .null
  | fuel + 1, number => do
    match (← get).getD number none with
    | some value => return value
    | none =>
      let made := objects.made number
      for part in made.parts do
        let _ ← plainValue objects fuel part
      let known ← get
      let value := made.value fun part => (known.getD part none).getD .null
      modify fun known => known.set! number (some value)
      return value

/-- Adds the nodes that can be reached from some nodes to those found before. -/
def reach (objects : Objects) : Nat → List Nat → List Nat → List Nat
  | 0, _, found => found
  | _, [], found => found
  | fuel + 1, number :: pending, found =>
    if found.contains number then reach objects fuel pending found
    else reach objects fuel ((objects.made number).parts ++ pending) (number :: found)

/-- Whether a collection holds itself. -/
def holdsItself (objects : Objects) (number : Nat) : Bool :=
  let total := objects.foldl (fun total made => total + 1 + ((made.map Made.parts).getD []).length) 1
  (objects.reach total (objects.made number).parts []).contains number

/-- The text of a node within the collections on the way to it. -/
def text (objects : Objects) : Nat → List Nat → Nat → String
  | 0, _, _ => ""
  | fuel + 1, path, number =>
    let made := objects.made number
    if path.contains number then made.mark
    else
      let inner := fun part => Value.knot (objects.text fuel (number :: path) part) .null
      (made.value inner).form

/-- How many levels of collections that hold themselves are written out. -/
def loopDepth : Nat := 4

/-- The value of a node in a document with loops. `depth` is how many more collections that hold themselves are
written out, and `fuel` bounds the nesting of all others. -/
def loopedValue (objects : Objects) (loops : Nat → Bool) : Nat → Nat → Nat → Value
  | 0, _, _ => .null
  | fuel + 1, depth, number =>
    let made := objects.made number
    if loops number then
      let shown := objects.text (objects.size + 1) [] number
      match depth with
      | 0 => .knot shown (made.value fun _ => .null)
      | depth + 1 => .knot shown (made.value (objects.loopedValue loops fuel depth))
    else made.value (objects.loopedValue loops fuel depth)

end Objects

/-- The value of the only document of a file. A file without a document has the value `null`. -/
def parse (bytes : List UInt8) : Except Fault Value := do
  match ← Nodes.ofTokens (tokens (.ofBytes bytes)) with
  | none => return .null
  | some nodes =>
    let objects ← nodes.make
    if nodes.hasLoops then
      let looping := objects.mapIdx fun number _ => Objects.holdsItself objects number
      return Objects.loopedValue objects (fun number => looping.getD number false)
        ((Objects.loopDepth + 1) * (objects.size + 1)) Objects.loopDepth nodes.root
    else
      return (Objects.plainValue objects (objects.size + 1) nodes.root |>.run (objects.map fun _ => none)).1

end Deadwood.Yaml
