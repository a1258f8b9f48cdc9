/-!
# Double precision numbers

A finite double is a sign and a magnitude, and the finite magnitudes are numbered from zero in
increasing order: magnitude `rank` is the `rank`-th smallest.  So a double has one form only, and
rounding is a function into ranks: `nearestRank` sends a quotient to the magnitude nearest to it,
a tie to the even significand.  All arithmetic is exact, in multiples of the smallest positive
magnitude `2 ^ (-1074)` (`units`).
-/

namespace SchemaScribe

/-- How many finite magnitudes there are: 2047 blocks of `2 ^ 52`. -/
def Binary64.magnitudes : Nat := 2047 * Nat.pow 2 52

/-- **A double precision number.** -/
inductive Binary64 where
  /-- A sign and the rank of the magnitude among the finite ones. -/
  | finite (negative : Bool) (rank : Fin Binary64.magnitudes)
  | infinite (negative : Bool)
  | nan
  deriving DecidableEq, Repr

namespace Binary64

/-! ### Magnitudes -/

/-- The unit exponent of a magnitude: its significand counts multiples of `2 ^ (unit - 1074)`. -/
def unit (rank : Nat) : Nat := rank / Nat.pow 2 52 - 1

/-- The significand of a magnitude.  From the second block of ranks on it has 53 binary digits. -/
def significand (rank : Nat) : Nat :=
  if rank < Nat.pow 2 52 then rank else Nat.pow 2 52 + rank % Nat.pow 2 52

/-- A magnitude in multiples of `2 ^ (-1074)`. -/
def units (rank : Nat) : Nat := significand rank * Nat.pow 2 (unit rank)

/-- How many units one is. -/
def one : Nat := Nat.pow 2 1074

/-- Zero without a sign. -/
def zeroRank : Fin magnitudes := ⟨0, by decide⟩

/-- The signed zeros. -/
def zero (negative : Bool) : Binary64 := .finite negative zeroRank

/-- A number that is neither infinite nor `nan`. -/
def isFinite : Binary64 → Bool
  | .finite .. => true
  | _ => false

/-! ### Rounding -/

/-- The integer nearest to `n / d`, the even one of two. -/
def roundDiv (n d : Nat) : Nat :=
  let q := n / d
  let r := n % d
  if 2 * r < d then q else if d < 2 * r then q + 1 else q + q % 2

/-- The rank nearest to `n / d` units.  The significand is rounded to 53 binary digits, and the
ranks of successive blocks continue each other, so a carry out of it needs no case of its own. -/
def nearestRank (n d : Nat) : Nat :=
  let unit := (n / d).log2 - 52
  unit * Nat.pow 2 52 + roundDiv n (d * Nat.pow 2 unit)

/-- The double nearest to `n / d` units. -/
def ofUnits (negative : Bool) (n d : Nat) : Binary64 :=
  if h : nearestRank n d < magnitudes then .finite negative ⟨nearestRank n d, h⟩
  else .infinite negative

/-- The double nearest to the quotient `n / d`. -/
def ofQuotient (negative : Bool) (n d : Nat) : Binary64 := ofUnits negative (n * one) d

/-- The number of decimal digits that write `n`. -/
def decimalLength (n : Nat) : Nat := (Nat.toDigits 10 n).length

/-- **The double nearest to `digits · 10 ^ exponent`.**  A number of more than 310 places is past
the largest double, and one that starts more than 330 places behind the point is nearer to zero
than to any other, so the powers of ten that are formed stay small. -/
def ofDecimal (negative : Bool) (digits : Nat) (exponent : Int) : Binary64 :=
  let places := decimalLength digits + exponent
  if digits = 0 ∨ places < -330 then zero negative
  else if 310 < places then .infinite negative
  else
    match exponent with
    | .ofNat e => ofQuotient negative (digits * Nat.pow 10 e) 1
    | .negSucc e => ofQuotient negative digits (Nat.pow 10 (e + 1))

/-- The double nearest to an integer. -/
def ofInt (n : Int) : Binary64 := ofDecimal (n < 0) n.natAbs 0

/-! ### Arithmetic -/

/-- The signed number of units of a finite double. -/
def signedUnits (negative : Bool) (rank : Nat) : Int :=
  if negative then -(units rank : Int) else units rank

/-- The number with the opposite sign. -/
def neg : Binary64 → Binary64
  | .finite s r => .finite (!s) r
  | .infinite s => .infinite (!s)
  | .nan => .nan

/-- The rounded sum.  An exact zero is negative only as the sum of two negative zeros. -/
def add : Binary64 → Binary64 → Binary64
  | .finite s r, .finite t q =>
    let sum := signedUnits s r + signedUnits t q
    if sum = 0 then zero (s && t) else ofUnits (sum < 0) sum.natAbs 1
  | .finite .., y => y
  | x, .finite .. => x
  | .infinite s, .infinite t => if s = t then .infinite s else .nan
  | _, _ => .nan

/-- The rounded product. -/
def mul : Binary64 → Binary64 → Binary64
  | .finite s r, .finite t q => ofUnits (s != t) (units r * units q) one
  | .finite s r, .infinite t => if r.val = 0 then .nan else .infinite (s != t)
  | .infinite s, .finite t q => if q.val = 0 then .nan else .infinite (s != t)
  | .infinite s, .infinite t => .infinite (s != t)
  | _, _ => .nan

/-! ### Comparison -/

/-- Equality as numbers: the two zeros are equal, and `nan` is equal to nothing. -/
def sameNumber : Binary64 → Binary64 → Bool
  | .finite s r, .finite t q => signedUnits s r == signedUnits t q
  | .infinite s, .infinite t => s == t
  | _, _ => false

/-- Equality with an integer, without rounding the integer. -/
def sameAsInt : Binary64 → Int → Bool
  | .finite s r, n => signedUnits s r == n * (one : Int)
  | _, _ => false

end Binary64

end SchemaScribe
