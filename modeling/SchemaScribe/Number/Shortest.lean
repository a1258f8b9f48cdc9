import SchemaScribe.Number.Binary64

/-!
# The shortest decimal of a double

Of the decimals that read back as a given double, `shortest` takes one with the fewest digits, and
of those the nearest to it.  On the grid of decimals with a given number of digits only the two
neighbours of the double have to be tried.
-/

namespace SchemaScribe.Binary64

/-- A decimal number `digits · 10 ^ exponent`. -/
structure Decimal where
  digits : Nat
  exponent : Int
  deriving DecidableEq, Repr

namespace Decimal

/-- The nonnegative double a decimal reads as. -/
def toBinary (d : Decimal) : Binary64 := ofDecimal false d.digits d.exponent

/-- A decimal reads back as the magnitude `rank`. -/
def readsAs (d : Decimal) (rank : Fin magnitudes) : Bool := d.toBinary == .finite false rank

/-- The magnitude written out in full, which takes at most 1074 places behind the point. -/
def exact (rank : Nat) : Decimal := ⟨units rank * Nat.pow 5 1074, -1074⟩

/-- The next decimal of the same grid. -/
def next (d : Decimal) : Decimal := ⟨d.digits + 1, d.exponent⟩

/-- How a magnitude stands to the middle between a decimal and the next one of its grid. -/
def compareMiddle (rank : Nat) (d : Decimal) : Ordering :=
  match d.exponent with
  | .ofNat e => compare (2 * units rank) ((2 * d.digits + 1) * Nat.pow 10 e * one)
  | .negSucc e => compare (2 * units rank * Nat.pow 10 (e + 1)) ((2 * d.digits + 1) * one)

/-- The nearer of a decimal and the next one, the even one if the magnitude is in the middle. -/
def nearer (rank : Nat) (d : Decimal) : Decimal :=
  match compareMiddle rank d with
  | .lt => d
  | .gt => d.next
  | .eq => if d.digits % 2 = 0 then d else d.next

/-- Of a decimal and the next one of its grid, the one to write for a magnitude: one that reads back
as it, and the nearer if both do. -/
def select? (rank : Fin magnitudes) (d : Decimal) : Option Decimal :=
  if d.readsAs rank then
    if d.next.readsAs rank then some (d.nearer rank) else some d
  else if d.next.readsAs rank then some d.next
  else none

end Decimal

/-- The places behind the point up to which a magnitude is expanded.  The smallest positive one
starts at place 324, and 17 digits are enough to tell any two apart. -/
def expansionPlaces : Nat := 341

/-- The decimal expansion of a magnitude, cut after `expansionPlaces`. -/
def expansion (rank : Nat) : List Char :=
  Nat.toDigits 10 (units rank * Nat.pow 10 expansionPlaces / one)

/-- The number written by decimal digits. -/
def digitsToNat (digits : List Char) : Nat :=
  digits.foldl (fun n c => 10 * n + (c.toNat - '0'.toNat)) 0

/-- The greatest decimal with `count` digits that is not above the number with the given expansion.
-/
def below (digits : List Char) (count : Nat) : Decimal :=
  ⟨digitsToNat (digits.take count), (digits.length : Int) - count - expansionPlaces⟩

/-- **The shortest decimal that reads back as the magnitude `rank`.** -/
def shortest (rank : Fin magnitudes) : Decimal :=
  let digits := expansion rank
  ((List.range' 1 17).findSome? fun count => (below digits count).select? rank).getD
    (Decimal.exact rank)

/-- A selected decimal reads back. -/
theorem Decimal.readsAs_of_select? {rank : Fin magnitudes} {d e : Decimal}
    (h : d.select? rank = some e) : e.readsAs rank := by
  unfold select? at h
  split at h
  · split at h
    · cases h
      unfold nearer
      split
      · assumption
      · assumption
      · split <;> assumption
    · cases h; assumption
  · split at h
    · cases h; assumption
    · cases h

end SchemaScribe.Binary64
