import SchemaScribe.Text.CodePoint

/-!
# Decimal digits

Digits of every script: a number may be written with any of the decimal digit sets of Unicode 14.
Each set is ten consecutive code points, so a table of the zeros (`digitZeros`) gives them all.
-/

namespace SchemaScribe.Text

/-- The zeros of the decimal digit sets. -/
def digitZeros : List Nat := [
  0x30, 0x660, 0x6F0, 0x7C0, 0x966, 0x9E6, 0xA66, 0xAE6, 0xB66, 0xBE6, 0xC66, 0xCE6, 0xD66, 0xDE6,
  0xE50, 0xED0, 0xF20, 0x1040, 0x1090, 0x17E0, 0x1810, 0x1946, 0x19D0, 0x1A80, 0x1A90, 0x1B50,
  0x1BB0, 0x1C40, 0x1C50, 0xA620, 0xA8D0, 0xA900, 0xA9D0, 0xA9F0, 0xAA50, 0xABF0, 0xFF10, 0x104A0,
  0x10D30, 0x11066, 0x110F0, 0x11136, 0x111D0, 0x112F0, 0x11450, 0x114D0, 0x11650, 0x116C0,
  0x11730, 0x118E0, 0x11950, 0x11C50, 0x11D50, 0x11DA0, 0x16A60, 0x16AC0, 0x16B50, 0x1D7CE,
  0x1D7D8, 0x1D7E2, 0x1D7EC, 0x1D7F6, 0x1E140, 0x1E2F0, 0x1E950, 0x1FBF0]

/-- The value of a decimal digit of any script. -/
def digitValue? (c : CodePoint) : Option Nat :=
  (digitZeros.find? fun start => start ≤ c.toNat && c.toNat < start + 10).map (c.toNat - ·)

/-- The value of an ASCII decimal digit. -/
def asciiDigit? (c : CodePoint) : Option Nat :=
  if '0' ≤ c ∧ c ≤ '9' then some (c.toNat - '0'.toNat) else none

/-- The value of an ASCII hexadecimal digit. -/
def hexDigit? (c : CodePoint) : Option Nat :=
  if '0' ≤ c ∧ c ≤ '9' then some (c.toNat - '0'.toNat)
  else if 'a' ≤ c ∧ c ≤ 'f' then some (c.toNat - 'a'.toNat + 10)
  else if 'A' ≤ c ∧ c ≤ 'F' then some (c.toNat - 'A'.toNat + 10)
  else none

/-- The lower-case hexadecimal digit of a value below sixteen. -/
def hexDigit (value : Nat) : CodePoint :=
  if value < 10 then Char.ofNat ('0'.toNat + value) else Char.ofNat ('a'.toNat + (value - 10))

/-- The lower-case hexadecimal text of `value` in `width` digits, the leading ones dropped if it has
more. -/
def hexDigits : Nat → Nat → List CodePoint
  | 0, _ => []
  | width + 1, value => hexDigits width (value / 16) ++ [hexDigit (value % 16)]

/-- The decimal digits of a number. -/
def decimalDigits (n : Nat) : List CodePoint := (Nat.toDigits 10 n).map .char

theorem toList_toString (n : Nat) : Text.toList (toString n) = decimalDigits n := by
  rw [toList_ofString, Nat.toString_eq_repr, Nat.repr_eq_ofList_toDigits, String.toList_ofList,
    decimalDigits]

theorem toList_toString_int (n : Int) :
    Text.toList (toString n) =
      if 0 ≤ n then decimalDigits n.toNat else .char '-' :: decimalDigits (-n).toNat := by
  rw [Int.toString_eq_repr, Int.repr_eq_if]
  split
  · exact toList_toString n.toNat
  · rw [ofString_append, toList_append]
    exact congrArg (CodePoint.char '-' :: ·) (toList_toString (-n).toNat)

theorem isDigit_of_mem_decimalDigits {n : Nat} {c : CodePoint} (h : c ∈ decimalDigits n) :
    c.isDigit = true := by
  obtain ⟨d, hd, rfl⟩ := List.mem_map.1 h
  rw [CodePoint.isDigit_char]
  exact Nat.isDigit_of_mem_toDigits (by omega) (by omega) hd

/-- The number that a run of digit values writes in `base`. -/
def ofDigits (base : Nat) (digits : List Nat) : Nat := digits.foldl (fun n d => n * base + d) 0

/-- Reading a hexadecimal digit back gives its value. -/
theorem hexDigit?_hexDigit : ∀ n : Fin 16, hexDigit? (hexDigit n) = some n.val := by
  decide

end SchemaScribe.Text
