/-
Bytes written in base 64.

Characters outside of the alphabet do not count. The text ends at a padding that
completes a group of four, or at its end, where no group may be open.
-/

namespace Deadwood.Base64

/-- The value of a digit. -/
def digit? (c : Char) : Option Nat :=
  if 'A' ≤ c && c ≤ 'Z' then some (c.toNat - 0x41)
  else if 'a' ≤ c && c ≤ 'z' then some (c.toNat - 0x61 + 26)
  else if '0' ≤ c && c ≤ '9' then some (c.toNat - 0x30 + 52)
  else if c == '+' then some 62
  else if c == '/' then some 63
  else none

/-- The bytes of the rest of a text. `place` digits of the present group have been read, `left` holds the bits
that are still to be written, and `pads` counts the padding characters since the last digit. -/
def decodeFrom (place left pads : Nat) : List Char → Option (List UInt8)
  | [] => if place == 0 then some [] else none
  | '=' :: rest =>
    if 2 ≤ place then
      if 4 ≤ place + pads + 1 then some [] else decodeFrom place left (pads + 1) rest
    else decodeFrom place left pads rest
  | c :: rest => match digit? c with
    | none => decodeFrom place left pads rest
    | some n => match place with
      | 0 => decodeFrom 1 n 0 rest
      | 1 => (decodeFrom 2 (n % 16) 0 rest).map (UInt8.ofNat (left * 4 + n / 16) :: ·)
      | 2 => (decodeFrom 3 (n % 4) 0 rest).map (UInt8.ofNat (left * 16 + n / 4) :: ·)
      | _ => (decodeFrom 0 0 0 rest).map (UInt8.ofNat (left * 64 + n) :: ·)

/-- The bytes of a text. -/
def decode? (chars : List Char) : Option (List UInt8) :=
  decodeFrom 0 0 0 chars

end Deadwood.Base64
