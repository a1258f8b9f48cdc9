import SchemaScribe.Text.CodePoint

/-!
# Base 64

Bytes from their text in base 64.  Characters outside the alphabet are passed over, and padding ends
the text once the last group has been completed by it.
-/

namespace SchemaScribe.Text.Base64

/-- The value of a character of the alphabet. -/
def value? (c : CodePoint) : Option Nat :=
  if 'A' ≤ c ∧ c ≤ 'Z' then some (c.toNat - 'A'.toNat)
  else if 'a' ≤ c ∧ c ≤ 'z' then some (c.toNat - 'a'.toNat + 26)
  else if '0' ≤ c ∧ c ≤ '9' then some (c.toNat - '0'.toNat + 52)
  else if c = '+' then some 62
  else if c = '/' then some 63
  else none

/-- The bytes of a text.  `place` is the place within a group of four characters, `left` holds the
bits that are not used up, and `pads` counts the padding since the last character of the alphabet.
There are none if the text ends within a group. -/
def decodeFrom (place left pads : Nat) : List CodePoint → Option (List UInt8)
  | [] => if place = 0 then some [] else none
  | c :: rest =>
    if c = '=' then
      if 2 ≤ place then
        if 4 ≤ place + pads + 1 then some [] else decodeFrom place left (pads + 1) rest
      else decodeFrom place left pads rest
    else
      match value? c with
      | none => decodeFrom place left pads rest
      | some value =>
        match place with
        | 0 => decodeFrom 1 value 0 rest
        | 1 => (decodeFrom 2 (value % 16) 0 rest).map (UInt8.ofNat (left * 4 + value / 16) :: ·)
        | 2 => (decodeFrom 3 (value % 4) 0 rest).map (UInt8.ofNat (left * 16 + value / 4) :: ·)
        | _ => (decodeFrom 0 0 0 rest).map (UInt8.ofNat (left * 64 + value) :: ·)

/-- **The bytes of a text in base 64.** -/
def decode? (cs : List CodePoint) : Option (List UInt8) := decodeFrom 0 0 0 cs

end SchemaScribe.Text.Base64
