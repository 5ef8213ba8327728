/-
UTF-8.

`decode` cuts a byte sequence into characters and ill-formed pieces. An ill-formed
piece is a maximal run of bytes that starts a character but does not complete it,
or a byte that starts none. From it come `decodeLossy`, where each such piece is
shown as U+FFFD, `decodeKeeping`, where each of its bytes is kept as a half of a
character, and `decode?`, which refuses ill-formed input.
-/
import Deadwood.Text.Point

namespace Deadwood.Utf8

/-- A piece of a byte sequence: a character, or bytes that are none. -/
inductive Piece where
  | char (c : Char)
  | bad (bytes : List UInt8)
  deriving DecidableEq, Repr

/-- Where a decoder stands: between two characters, or inside one of which `left + 1` bytes are still to come,
the next of them between `lo` and `hi`. The bytes that it has seen of it are in reverse order. -/
inductive Stage where
  | between
  | inside (seen : List UInt8) (left acc lo hi : Nat)

/-- The first byte of a character: the character itself, the start of a longer one, or neither. -/
inductive Lead where
  | char (c : Char)
  | start (left acc lo hi : Nat)
  | bad

/-- The second byte of a long character is restricted after `E0`, `ED`, `F0` and `F4`: no overlong forms, no
halves, nothing above U+10FFFF. -/
def lead (b : UInt8) : Lead :=
  let n := b.toNat
  if n < 0x80 then .char (Char.ofNat n)
  else if n < 0xC2 then .bad
  else if n < 0xE0 then .start 0 (n - 0xC0) 0x80 0xBF
  else if n = 0xE0 then .start 1 0 0xA0 0xBF
  else if n = 0xED then .start 1 0x0D 0x80 0x9F
  else if n < 0xF0 then .start 1 (n - 0xE0) 0x80 0xBF
  else if n = 0xF0 then .start 2 0 0x90 0xBF
  else if n < 0xF4 then .start 2 (n - 0xF0) 0x80 0xBF
  else if n = 0xF4 then .start 2 4 0x80 0x8F
  else .bad

/-- Decodes the rest of the input from a given stage. -/
def decodeFrom : Stage → List UInt8 → List Piece
  | .between, [] => []
  | .inside seen .., [] => [.bad seen.reverse]
  | .between, b :: bs => match lead b with
    | .char c => .char c :: decodeFrom .between bs
    | .start left acc lo hi => decodeFrom (.inside [b] left acc lo hi) bs
    | .bad => .bad [b] :: decodeFrom .between bs
  | .inside seen left acc lo hi, b :: bs =>
    if lo ≤ b.toNat ∧ b.toNat ≤ hi then
      let acc := acc * 64 + (b.toNat - 0x80)
      match left with
      | 0 => .char (Char.ofNat acc) :: decodeFrom .between bs
      | left + 1 => decodeFrom (.inside (b :: seen) left acc 0x80 0xBF) bs
    else .bad seen.reverse :: match lead b with
      | .char c => .char c :: decodeFrom .between bs
      | .start left acc lo hi => decodeFrom (.inside [b] left acc lo hi) bs
      | .bad => .bad [b] :: decodeFrom .between bs

/-- The pieces of a byte sequence. -/
def decode (bs : List UInt8) : List Piece :=
  decodeFrom .between bs

/-- The character of a piece, if it is one. -/
def Piece.char? : Piece → Option Char
  | char c => some c
  | bad _ => none

/-- The half of a character that stands for a byte. -/
def byteHalf (b : UInt8) : Point :=
  Point.ofCode (0xDC00 + b.toNat)

/-- The byte that a half of a character stands for. -/
def halfByte? (index : Fin 0x800) : Option UInt8 :=
  if 0x480 ≤ index.val && index.val < 0x500 then some (UInt8.ofNat index.val) else none

/-- The code points of a piece, with halves for ill-formed bytes. -/
def Piece.points : Piece → List Point
  | char c => [.char c]
  | bad bytes => bytes.map byteHalf

/-- The text of a byte sequence, with U+FFFD for each ill-formed piece. -/
def decodeLossy (bs : List UInt8) : String :=
  Text.ofChars ((decode bs).map fun piece => piece.char?.getD '\ufffd')

/-- The text of a byte sequence, with a half of a character for each ill-formed byte. -/
def decodeKeeping (bs : List UInt8) : String :=
  Text.ofPoints ((decode bs).flatMap Piece.points)

/-- The text of a well-formed byte sequence. -/
def decode? (bs : List UInt8) : Option String :=
  ((decode bs).mapM Piece.char?).map Text.ofChars

/-- The bytes of a code point. A half has none. -/
def pointBytes : Point → List UInt8
  | .char c => String.utf8EncodeChar c
  | .half _ => []

/-- The bytes of a text. Halves of characters are left out. -/
def encode (s : String) : List UInt8 :=
  (Text.points s).flatMap pointBytes

/-- The bytes of a code point, where a half may stand for a byte. -/
def keptBytes? : Point → Option (List UInt8)
  | .char c => some (String.utf8EncodeChar c)
  | .half index => (halfByte? index).map ([·])

/-- The bytes of a text in which halves of characters stand for bytes. There are none if a half stands for no byte. -/
def encodeKept? (s : String) : Option (List UInt8) :=
  ((Text.points s).mapM keptBytes?).map List.flatten

end Deadwood.Utf8
