/-
Shell-style patterns.

`*` stands for any run of code points, `?` for any one, and `[...]` for one of a
set: single code points and ranges `a-z`, negated by a leading `!`. A bracket that
is never closed stands for itself. A pattern has to match a text in full, and a
slash is a code point like any other.

In a set, a hyphen makes a range if something stands before it and at least two
code points separate it from the range before; a range that runs backwards is
dropped together with its two ends.
-/
import Deadwood.Text.Point

namespace Deadwood

namespace Glob

/-- A range of code points. -/
structure PointRange where
  first : Point
  last : Point
  deriving DecidableEq, Repr

/-- A part of a pattern. -/
inductive Piece where
  | anything
  | anyPoint
  | point (p : Point)
  | oneOf (negated : Bool) (ranges : List PointRange)
  deriving DecidableEq, Repr

/-- The text of a set up to its closing bracket, and what follows. A closing bracket directly at the start, or
after a leading `!`, belongs to the set. -/
def setBody? (ps : List Point) : Option (List Point × List Point) :=
  let (lead, ps) := match ps with
    | .char '!' :: rest => ([Point.char '!'], rest)
    | ps => ([], ps)
  let (lead, ps) := match ps with
    | .char ']' :: rest => (lead ++ [Point.char ']'], rest)
    | ps => (lead, ps)
  match ps.dropWhile (· != Point.char ']') with
  | [] => none
  | _ :: after => some (lead ++ ps.takeWhile (· != Point.char ']'), after)

/-- Cuts the text of a set at the hyphens that make ranges. `wait` code points are passed over first. -/
def chunks : Nat → List Point → List (List Point)
  | _, [] => [[]]
  | 0, .char '-' :: rest => [] :: chunks 2 rest
  | wait, p :: rest => match chunks (wait - 1) rest with
    | [] => [[p]]
    | chunk :: more => (p :: chunk) :: more

/-- A hyphen at the end of a set is a hyphen. -/
def closeLast : List (List Point) → List (List Point)
  | [] => []
  | [chunk, []] => [chunk ++ [.char '-']]
  | chunk :: rest => chunk :: closeLast rest

/-- Joins two neighbouring chunks whose range runs backwards, from the last pair to the first. -/
def dropBackwards : List (List Point) → List (List Point)
  | [] => []
  | chunk :: rest => match dropBackwards rest with
    | [] => [chunk]
    | next :: more => match chunk.getLast?, next.head? with
      | some low, some high =>
        if high.code < low.code then (chunk.dropLast ++ next.drop 1) :: more else chunk :: next :: more
      | _, _ => chunk :: next :: more

/-- A range of a single code point. -/
def single (p : Point) : PointRange := ⟨p, p⟩

/-- The ranges of a set: one from the end of each chunk to the start of the next, and all other code points by
themselves. -/
def rangesOf (chunk : List Point) : List (List Point) → List PointRange
  | [] => chunk.map single
  | next :: more => match chunk.getLast?, next with
    | some low, high :: rest => chunk.dropLast.map single ++ ⟨low, high⟩ :: rangesOf rest more
    | _, _ => chunk.map single ++ rangesOf next more

/-- The part of a pattern that a set stands for. -/
def setPiece (body : List Point) : Piece :=
  let wait := if body.head? == some (.char '!') then 2 else 1
  match dropBackwards (closeLast (chunks wait body)) with
  | [] => .oneOf false []
  | (.char '!' :: chunk) :: more =>
    if chunk.isEmpty && more.isEmpty then .anyPoint else .oneOf true (rangesOf chunk more)
  | chunk :: more => .oneOf false (rangesOf chunk more)

/-- The parts of a pattern, in at most `fuel` steps. -/
def piecesOf : Nat → List Point → List Piece
  | 0, _ => []
  | _, [] => []
  | fuel + 1, .char '*' :: rest => .anything :: piecesOf fuel (rest.dropWhile (· == Point.char '*'))
  | fuel + 1, .char '?' :: rest => .anyPoint :: piecesOf fuel rest
  | fuel + 1, .char '[' :: rest => match setBody? rest with
    | none => .point (.char '[') :: piecesOf fuel rest
    | some (body, after) => setPiece body :: piecesOf fuel after
  | fuel + 1, p :: rest => .point p :: piecesOf fuel rest

/-- Whether a range holds a code point. -/
def PointRange.contains (range : PointRange) (p : Point) : Bool :=
  range.first.code ≤ p.code && p.code ≤ range.last.code

/-- Whether a part that stands for one code point stands for a given one. -/
def Piece.accepts (p : Point) : Piece → Bool
  | .anything => false
  | .anyPoint => true
  | .point q => p == q
  | .oneOf negated ranges => ranges.any (·.contains p) != negated

/-- For each tail of a pattern, from the whole to the empty one, whether it matches the empty text. -/
def matchesAtEnd : List Piece → List Bool
  | [] => [true]
  | piece :: pieces =>
    let rest := matchesAtEnd pieces
    (piece == .anything && rest.headD false) :: rest

/-- For each tail of a pattern, whether it matches a text that begins with `p`, given which of them match the text
after `p`. A run of any code points is empty, or it takes in `p` and goes on. -/
def matchesBefore (p : Point) : List Piece → List Bool → List Bool
  | piece :: pieces, goesOn :: after =>
    let rest := matchesBefore p pieces after
    let here := match piece with
      | .anything => rest.headD false || goesOn
      | piece => piece.accepts p && after.headD false
    here :: rest
  | _, _ => [false]

/-- Whether the parts of a pattern match some code points in full. Tails of the pattern are compared with tails of the
text, each pair once. -/
def matchPieces (pieces : List Piece) (ps : List Point) : Bool :=
  (ps.foldr (fun p after => matchesBefore p pieces after) (matchesAtEnd pieces)).headD false

end Glob

/-- The parts of a pattern. -/
def globPieces (pattern : String) : List Glob.Piece :=
  let ps := Text.points pattern
  Glob.piecesOf (ps.length + 1) ps

/-- Whether a pattern matches a text in full. -/
def globMatches (pattern text : String) : Bool :=
  Glob.matchPieces (globPieces pattern) (Text.points text)

end Deadwood
