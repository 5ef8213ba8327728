/-
Code points, and the texts made of them.

Beside characters a text may hold halves: the numbers U+D800 to U+DFFF, two of
which can stand for one character, and which are no characters by themselves. A
`String` has no room for them. So it keeps a text in a code: a half is written as
the mark U+D7FF with a private character after it, and so is the character that
serves as the mark.

`Text.points` reads this code and `Text.ofPoints` writes it. Nothing is lost
(`Text.points_ofPoints`). The mark is the last character before the halves and
the private characters are in the order of the halves, so texts in this code are
in the order of their code points.
-/

namespace Deadwood

/-- A code point: a character, or the half with a number, counted from U+D800. -/
inductive Point where
  | char (c : Char)
  | half (index : Fin 0x800)
  deriving DecidableEq, Repr

/-- The mark before a private character that stands for something else. -/
def Text.mark : Char := '\ud7ff'

namespace Point

/-- The private character that stands for the mark, after the mark. -/
def markStandIn : Char := Char.ofNat 0x10D7FF

/-- The number of the private character that stands for the first half. -/
def firstStandIn : Nat := 0x10D800

/-- The number of a code point. -/
def code : Point → Nat
  | char c => c.toNat
  | half index => 0xD800 + index

/-- The code point with a number. A number that is too great counts as zero. -/
def ofCode (n : Nat) : Point :=
  if h : 0xD800 ≤ n ∧ n < 0xE000 then half ⟨n - 0xD800, by omega⟩ else char (Char.ofNat n)

/-- Whether a code point is a half. -/
def isHalf : Point → Bool
  | char _ => false
  | half _ => true

/-- The private character that stands for a half, after the mark. -/
def standIn (index : Fin 0x800) : Char :=
  Char.ofNat (firstStandIn + index)

/-- The code point that a private character stands for, after the mark. -/
def ofStandIn? (c : Char) : Option Point :=
  if c = markStandIn then some (char Text.mark)
  else if h : firstStandIn ≤ c.toNat ∧ c.toNat < firstStandIn + 0x800 then
    some (half ⟨c.toNat - firstStandIn, by omega⟩)
  else none

/-- How a code point is written in a text. -/
def chars : Point → List Char
  | char c => if c = Text.mark then [Text.mark, markStandIn] else [c]
  | half index => [Text.mark, standIn index]

end Point

namespace Text

/-- The code points that are written in some characters. A mark with nothing to mark counts as itself. -/
def pointsOf : List Char → List Point
  | [] => []
  | [c] => [.char c]
  | c :: d :: rest =>
    match if c = mark then Point.ofStandIn? d else none with
    | some point => point :: pointsOf rest
    | none => .char c :: pointsOf (d :: rest)

/-- The code points of a text. -/
def points (s : String) : List Point :=
  pointsOf s.toList

/-- How code points are written. -/
def charsOf (points : List Point) : List Char :=
  points.flatMap Point.chars

/-- The text of code points. -/
def ofPoints (points : List Point) : String :=
  String.ofList (charsOf points)

/-- The text of characters, each of which stands for itself. -/
def ofChars (cs : List Char) : String :=
  ofPoints (cs.map .char)

/-- Whether a text holds half of a character. -/
def hasHalf (s : String) : Bool :=
  (points s).any Point.isHalf

end Text

/-! ### Nothing is lost -/

namespace Point

theorem toNat_standIn (index : Fin 0x800) : (standIn index).toNat = firstStandIn + index := by
  have bound := index.isLt
  have valid : (firstStandIn + index.val).isValidChar := Or.inr ⟨by simp only [firstStandIn]; omega, by
    simp only [firstStandIn]; omega⟩
  rw [standIn, Char.ofNat, dif_pos valid]
  rfl

theorem ofStandIn?_standIn (index : Fin 0x800) : ofStandIn? (standIn index) = some (half index) := by
  have bound := index.isLt
  have other : standIn index ≠ markStandIn := by
    intro same
    have codes := congrArg Char.toNat same
    rw [toNat_standIn] at codes
    have : markStandIn.toNat = 0x10D7FF := by decide
    simp only [firstStandIn] at codes
    omega
  simp only [ofStandIn?, other, if_false, toNat_standIn]
  split
  · simp
  · omega

end Point

namespace Text

theorem pointsOf_append (point : Point) (rest : List Char) :
    pointsOf (point.chars ++ rest) = point :: pointsOf rest := by
  cases point with
  | half index =>
    simp [Point.chars, pointsOf, Point.ofStandIn?_standIn]
  | char c =>
    by_cases marked : c = mark
    · simp [Point.chars, pointsOf, marked, Point.ofStandIn?]
    · cases rest <;> simp [Point.chars, pointsOf, marked]

theorem pointsOf_charsOf (points : List Point) : pointsOf (charsOf points) = points := by
  induction points with
  | nil => simp [charsOf, pointsOf]
  | cons point rest ih =>
    rw [charsOf, List.flatMap_cons, pointsOf_append]
    exact congrArg _ ih

theorem points_ofPoints (ps : List Point) : points (ofPoints ps) = ps := by
  simp [points, ofPoints, pointsOf_charsOf]

end Text

end Deadwood
