/-
Tokens of YAML, and what can be wrong with a text.

Indentation is written as tokens: a block sequence or mapping begins with a token
of its own and ends with `blockEnd`. A key stands behind `key`, a value behind
`value`, also where the text has no mark for them.
-/
import Deadwood.Calendar
import Deadwood.Number.Numeral
import Deadwood.Text.Quoted

namespace Deadwood.Yaml

/-- A line that starts with `%`. -/
inductive Directive where
  | version (major minor : Nat)
  | handle (handle expansion : String)
  | other
  deriving DecidableEq, Repr

/-- A token. -/
inductive Token where
  | directive (directive : Directive)
  | documentStart
  | documentEnd
  | streamEnd
  | blockSequence
  | blockMapping
  | blockEnd
  | sequenceOpen
  | sequenceClose
  | mappingOpen
  | mappingClose
  | item
  | comma
  | key
  | value
  | reference (name : String)
  | anchor (name : String)
  | tag (handle : Option String) (rest : String)
  | scalar (text : String) (plain : Bool)
  deriving DecidableEq, Repr

/-- What can be wrong with a text. -/
inductive Problem where
  | unprintable
  | noToken (c : Char)
  | keyWithoutValue
  | itemHere
  | keyHere
  | valueHere
  | directive
  | anchor
  | tag
  | blockHeader
  | escape
  | endOfText
  | documentInText
  | unexpected
  | version
  | repeatedDirective
  | handle
  | unknownAlias
  | repeatedAnchor
  | severalDocuments
  | noConstruct
  | wrongShape
  | unhashable
  | merge
  | binary
  deriving DecidableEq, Repr

/-- The words for a problem. -/
def Problem.message : Problem → String
  | unprintable => "special characters are not allowed"
  | noToken c => s!"found character {c} that cannot start any token"
  | keyWithoutValue => "could not find expected ':'"
  | itemHere => "sequence entries are not allowed here"
  | keyHere => "mapping keys are not allowed here"
  | valueHere => "mapping values are not allowed here"
  | directive => "malformed directive"
  | anchor => "malformed anchor or alias"
  | tag => "malformed tag"
  | blockHeader => "malformed header of a block scalar"
  | escape => "unknown escape in a quoted scalar"
  | endOfText => "found unexpected end of stream"
  | documentInText => "found unexpected document separator"
  | unexpected => "found an unexpected token"
  | version => "found incompatible YAML document (version 1.* is required)"
  | repeatedDirective => "found duplicate directive"
  | handle => "found undefined tag handle"
  | unknownAlias => "found undefined alias"
  | repeatedAnchor => "found duplicate anchor"
  | severalDocuments => "expected a single document in the stream"
  | noConstruct => "could not determine a constructor for a tag"
  | wrongShape => "found a node of another shape than its tag asks for"
  | unhashable => "found unhashable key"
  | merge => "expected a mapping or list of mappings for merging"
  | binary => "failed to decode base64 data"

/-- Why a text gives no value. Besides a text that is not well-formed there are scalars that do not have the form
of the type they are tagged with. -/
inductive Fault where
  | malformed (problem : Problem) (line : Option Nat)
  /-- The bytes are not well-formed UTF-8. -/
  | encoding
  | codePoint
  /-- The code of an escape does not fit into 31 bits. -/
  | hugeCode
  | noSuchDate (fault : Date.Fault)
  | noInteger (base : Nat) (text : String)
  /-- An integer has too many digits. -/
  | longInteger (digits : Nat)
  | noFloat (text : String)
  /-- A number in base sixty has so many parts that the first ones are beyond every float. -/
  | tooManyParts
  | emptyNumber
  | noTruthValue
  | noTimestamp
  /-- A timestamp is written as a mapping. -/
  | timestampMapping
  deriving DecidableEq, Repr

/-- The tokens of a text, up to a fault if there is one. -/
structure Tokens where
  tokens : List Token
  fault : Option Fault
  deriving Repr

/-- The words for a problem at a line. -/
def Problem.text (problem : Problem) : Option Nat → String
  | some line => s!"{problem.message}, line {line}"
  | none => problem.message

/-- The words for a fault. -/
def Fault.message : Fault → String
  | malformed problem line => problem.text line
  | encoding => "not well-formed UTF-8"
  | codePoint => "chr() arg not in range(0x110000)"
  | hugeCode => "the code of a character is too large"
  | noSuchDate fault => fault.message
  | noInteger base text => Numeral.malformedMessage base text
  | longInteger digits => Numeral.tooLongMessage digits
  | noFloat text => s!"could not convert string to float: {Text.quoted text}"
  | tooManyParts => "int too large to convert to float"
  | emptyNumber => "a number without digits"
  | noTruthValue => "not a truth value"
  | noTimestamp => "not a timestamp"
  | timestampMapping => "a timestamp is no mapping"

end Deadwood.Yaml
