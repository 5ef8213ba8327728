/-
The grammar of JSON.

`Document cs json` says that the characters `cs` are a JSON text and that it means `json`.
It is stated by the productions of the grammar and does not refer to the reader or to the
writer: `Chars` for what stands between the quotes of a text, `Number` for numbers, and
`Written` for values, in which lists and objects are runs of pieces between commas, each
piece with blanks around it.

A text means characters, so half of a pair of units has no place in the grammar.  Of an
object the grammar asks that its names are different.
-/
import Deadwood.Json.Parser

namespace Deadwood.Json

/-! ### Texts -/

/-- The characters that have an escape of two characters. -/
def shortEscapes : List (Char × Char) :=
  [('"', '"'), ('\\', '\\'), ('/', '/'), ('b', '\x08'), ('f', '\x0c'), ('n', '\n'), ('r', '\r'), ('t', '\t')]

/-- The number that four hexadecimal digits stand for. -/
inductive Unit16 : List Char → Nat → Prop where
  | digits {a b c d : Char} {w x y z : Nat} (ha : hexDigit? a = some w) (hb : hexDigit? b = some x)
      (hc : hexDigit? c = some y) (hd : hexDigit? d = some z) :
    Unit16 [a, b, c, d] (((w * 16 + x) * 16 + y) * 16 + z)

/-- What stands between the quotes of a text, and the characters that it means. -/
inductive Chars : List Char → List Char → Prop where
  | nil : Chars [] []
  | plain {c : Char} {cs s : List Char} (hquote : c ≠ '"') (hslash : c ≠ '\\') (hcontrol : 0x20 ≤ c.toNat)
      (rest : Chars cs s) : Chars (c :: cs) (c :: s)
  | short {e c : Char} {cs s : List Char} (hescape : (e, c) ∈ shortEscapes) (rest : Chars cs s) :
      Chars ('\\' :: e :: cs) (c :: s)
  | unit {ds cs s : List Char} {n : Nat} (hunit : Unit16 ds n) (hwhole : n < 0xD800 ∨ 0xE000 ≤ n)
      (rest : Chars cs s) : Chars ('\\' :: 'u' :: (ds ++ cs)) (Char.ofNat n :: s)
  | pair {ds es cs s : List Char} {high low : Nat} (hhigh : Unit16 ds high) (hlow : Unit16 es low)
      (hfirst : 0xD800 ≤ high ∧ high < 0xDC00) (hsecond : 0xDC00 ≤ low ∧ low < 0xE000) (rest : Chars cs s) :
      Chars ('\\' :: 'u' :: (ds ++ '\\' :: 'u' :: (es ++ cs)))
        (Char.ofNat (0x10000 + (high - 0xD800) * 0x400 + (low - 0xDC00)) :: s)

/-! ### Numbers -/

/-- A run of decimal digits. -/
def Digits (ds : List Char) : Prop :=
  ds ≠ [] ∧ ∀ d ∈ ds, isDigit d = true

/-- The sign of a number. -/
def minus (negative : Bool) : List Char :=
  if negative then ['-'] else []

/-- The fraction of a number, with its digits. -/
inductive Fraction : List Char → Option (List Char) → Prop where
  | absent : Fraction [] none
  | present {ds : List Char} (hdigits : Digits ds) : Fraction ('.' :: ds) (some ds)

/-- The exponent of a number. -/
inductive Exponent : List Char → Option Int → Prop where
  | absent : Exponent [] none
  | unsigned {e : Char} {ds : List Char} (hletter : e = 'e' ∨ e = 'E') (hdigits : Digits ds) :
      Exponent (e :: ds) (some (natOf ds))
  | plus {e : Char} {ds : List Char} (hletter : e = 'e' ∨ e = 'E') (hdigits : Digits ds) :
      Exponent (e :: '+' :: ds) (some (natOf ds))
  | minus {e : Char} {ds : List Char} (hletter : e = 'e' ∨ e = 'E') (hdigits : Digits ds) :
      Exponent (e :: '-' :: ds) (some (-(natOf ds : Int)))

/-- The value of a number. Without fraction and exponent it is an integer. -/
def numberValue (negative : Bool) (whole : List Char) (fraction : Option (List Char)) (exponent : Option Int) : Json :=
  if fraction = none ∧ exponent = none then .int (if negative then -(natOf whole : Int) else natOf whole)
  else .float (.ofDecimal negative (natOf (whole ++ fraction.getD [])) (exponent.getD 0 - (fraction.getD []).length))

/-- A number. No zero stands before other digits. -/
inductive Number : List Char → Json → Prop where
  | mk (negative : Bool) {whole fs es : List Char} {fraction : Option (List Char)} {exponent : Option Int}
      (hwhole : Digits whole) (hzero : 1 < whole.length → whole.head? ≠ some '0') (hfraction : Fraction fs fraction)
      (hexponent : Exponent es exponent) :
    Number (minus negative ++ (whole ++ (fs ++ es))) (numberValue negative whole fraction exponent)

/-! ### Documents -/

/-- Nothing but blanks. -/
def Blanks (cs : List Char) : Prop :=
  ∀ c ∈ cs, isSpace c = true

theorem blanks_nil : Blanks [] :=
  fun _ hc => absurd hc List.not_mem_nil

theorem blanks_replicate {c : Char} (hc : isSpace c = true) (n : Nat) : Blanks (List.replicate n c) :=
  fun _ hmem => List.eq_of_mem_replicate hmem ▸ hc

theorem blanks_newLine (depth : Nat) : Blanks (newLine depth) :=
  List.forall_mem_cons.mpr ⟨rfl, blanks_replicate rfl _⟩

/-- A value with what stands around it between two commas. -/
structure Piece where
  before : List Char
  chars : List Char
  value : Json
  after : List Char

namespace Piece

def text (piece : Piece) : List Char :=
  piece.before ++ (piece.chars ++ piece.after)

def Spaced (piece : Piece) : Prop :=
  Blanks piece.before ∧ Blanks piece.after

end Piece

/-- A member of an object with what stands around it between two commas. -/
structure Member extends Piece where
  indent : List Char
  spelled : List Char
  name : List Char
  gap : List Char

namespace Member

def text (member : Member) : List Char :=
  member.indent ++ '"' :: (member.spelled ++ '"' :: (member.gap ++ ':' :: member.toPiece.text))

def Spaced (member : Member) : Prop :=
  Blanks member.indent ∧ Blanks member.gap ∧ member.toPiece.Spaced

/-- A member as a document has it. -/
def entry (member : Member) : String × Json :=
  (Text.ofChars member.name, member.value)

end Member

/-- Texts with a comma between two of them. -/
def commaSeparated (texts : List (List Char)) : List Char :=
  [','].intercalate texts

/-- The values of the grammar, by how they are written and what they mean. -/
inductive Written : List Char → Json → Prop where
  | null : Written "null".toList .null
  | yes : Written "true".toList (.bool true)
  | no : Written "false".toList (.bool false)
  | number {cs : List Char} {json : Json} (hnumber : Number cs json) : Written cs json
  | text {cs s : List Char} (hchars : Chars cs s) : Written ('"' :: (cs ++ ['"'])) (.text (Text.ofChars s))
  | emptyList {cs : List Char} (hblanks : Blanks cs) : Written ('[' :: (cs ++ [']'])) (.list [])
  | list {pieces : List Piece} (hpieces : pieces ≠ []) (hspaced : ∀ piece ∈ pieces, piece.Spaced)
      (hwritten : ∀ piece ∈ pieces, Written piece.chars piece.value) :
    Written ('[' :: (commaSeparated (pieces.map Piece.text) ++ [']'])) (.list (pieces.map Piece.value))
  | emptyObject {cs : List Char} (hblanks : Blanks cs) : Written ('\x7b' :: (cs ++ ['\x7d'])) (.object [])
  | object {members : List Member} (hmembers : members ≠ []) (hspaced : ∀ member ∈ members, member.Spaced)
      (hnames : ∀ member ∈ members, Chars member.spelled member.name)
      (hdistinct : (members.map Member.entry).Pairwise fun a b => a.1 ≠ b.1)
      (hwritten : ∀ member ∈ members, Written member.chars member.value) :
    Written ('\x7b' :: (commaSeparated (members.map Member.text) ++ ['\x7d'])) (.object (members.map Member.entry))

/-- A text of the grammar: one value with blanks around it. -/
def Document (cs : List Char) (json : Json) : Prop :=
  ∃ before chars after, cs = before ++ (chars ++ after) ∧ Blanks before ∧ Blanks after ∧ Written chars json

end Deadwood.Json
