/-
Document values: what a configuration file or a JSON text holds.
-/
import Deadwood.Calendar
import Deadwood.Number.Binary64

namespace Deadwood

/-- A value of a document. Entries of a map are in the order of the document, with each key once. -/
inductive Value where
  | null
  | bool (value : Bool)
  | int (value : Int)
  | float (value : Binary64)
  | text (value : String)
  | bytes (value : List UInt8)
  | date (value : Date)
  | clock (value : Clock)
  | moment (value : Moment)
  | list (items : List Value)
  | tuple (items : List Value)
  | set (items : List Value)
  | map (entries : List (Value × Value))
  /-- A collection that holds itself, with its text. It has been written out for some levels. -/
  | knot (text : String) (content : Value)
  deriving Repr, Inhabited

namespace Value

/-- Whether two keys of a map are the same. Numbers and truth values are compared by size, and moments by the time they
stand for. -/
def sameKey : Value → Value → Bool
  | .null, .null => true
  | .text a, .text b => a == b
  | .bytes a, .bytes b => a == b
  | .date a, .date b => a == b
  | .clock a, .clock b => a == b
  | .moment a, .moment b => a.isSame b
  | .tuple a, .tuple b => sameKeys a b
  | a, b => match number? a, number? b with
    | some x, some y => x == y
    | _, _ => false
where
  /-- The binary number that a numeric value is the same as. -/
  number? : Value → Option (Int ⊕ Binary64)
    | .bool b => some (.inl (if b then 1 else 0))
    | .int i => some (.inl i)
    | .float x => match x with
      | .nan => none
      | _ => match x.truncate with
        | .ok i => if Binary64.ofInt i == x || x.isZero then some (.inl i) else some (.inr x)
        | .error _ => some (.inr x)
    | _ => none
  /-- Whether two lists of keys are the same. -/
  sameKeys : List Value → List Value → Bool
    | a :: as, b :: bs => sameKey a b && sameKeys as bs
    | [], [] => true
    | _, _ => false

/-- The value of a text key in a list of entries. -/
def lookup? (entries : List (Value × Value)) (key : String) : Option Value :=
  (entries.find? fun entry => sameKey entry.1 (.text key)).map (·.2)

/-- Sets the value of a key in a list of entries, in its place if the key is there. -/
def insertEntry (key value : Value) : List (Value × Value) → List (Value × Value)
  | [] => [(key, value)]
  | entry :: rest =>
    if sameKey entry.1 key then (entry.1, value) :: rest else entry :: insertEntry key value rest

/-- Whether a value counts as true: it is not null, false, zero or empty. -/
def isTruthy : Value → Bool
  | .null => false
  | .bool b => b
  | .int i => i != 0
  | .float x => !x.isZero
  | .text s => s != ""
  | .bytes b => !b.isEmpty
  | .date _ | .clock _ | .moment _ => true
  | .list items | .tuple items | .set items => !items.isEmpty
  | .map entries => !entries.isEmpty
  | .knot _ _ => true

/-- The value itself, without the text of a collection that holds itself. -/
def content : Value → Value
  | .knot _ content => content
  | value => value

end Value

end Deadwood
