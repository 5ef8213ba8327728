/-
Who may call a function, as its visibility modifier says.
-/
import Deadwood.Text.Blank

namespace Deadwood

/-- The five categories of visibility. -/
inductive Visibility where
  | everyone | inCrate | inParent | inPath | inModule
  deriving DecidableEq, Repr

namespace Visibility

/-- All categories, in the order of reports. -/
def all : List Visibility := [everyone, inCrate, inParent, inPath, inModule]

theorem mem_all (v : Visibility) : v ∈ all := by
  cases v <;> decide

/-- The name of a category in documents. -/
def name : Visibility → String
  | everyone => "public"
  | inCrate => "crate-visible"
  | inParent => "parent-visible"
  | inPath => "restricted-path"
  | inModule => "private"

/-- The spelling of a category in source. -/
def label : Visibility → String
  | everyone => "pub"
  | inCrate => "pub(crate)"
  | inParent => "pub(super)"
  | inPath => "pub(restricted)"
  | inModule => "private"

/-- The category with a given name. -/
def ofName? (name : String) : Option Visibility :=
  all.find? fun v => v.name == name

/-- The category with a given name or spelling. -/
def ofNameOrLabel? (text : String) : Option Visibility :=
  all.find? fun v => v.name == text || v.label == text

/-- Whether everyone may call. -/
def isPublic (v : Visibility) : Bool :=
  v == everyone

/-- The category of what stands between the parentheses of `pub(...)`. -/
def ofRestriction (inner : List Char) : Visibility :=
  if inner = "crate".toList then inCrate
  else if inner = "super".toList then inParent
  else if inner = "self".toList then inModule
  else inPath

/-- Drops the `in` of `pub(in path)`. -/
def dropIn : List Char → List Char
  | 'i' :: 'n' :: rest => rest
  | inner => inner

/-- The category of a modifier written without blanks. Every closing parenthesis at the end is dropped, a lone
`crate` is an old spelling of `pub(crate)`, and what is not a modifier counts as none. -/
def ofModifier (chars : List Char) : Visibility :=
  match chars with
  | ['p', 'u', 'b'] => everyone
  | 'p' :: 'u' :: 'b' :: '(' :: rest => ofRestriction (dropIn (rest.reverse.dropWhile (· == ')')).reverse)
  | _ => if chars = "crate".toList then inCrate else inModule

/-- The category of a modifier; blanks in it do not count. -/
def classify (modifier : Option String) : Visibility :=
  match modifier with
  | none => inModule
  | some text => ofModifier (text.toList.filter fun c => !Text.isBlank c)

end Visibility

end Deadwood
