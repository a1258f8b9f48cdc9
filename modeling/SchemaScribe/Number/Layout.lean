import SchemaScribe.Number.Shortest
import SchemaScribe.Text.Digit

/-!
# The text of a double

A finite double is written with its shortest digits, positionally while the exponent of the first
digit lies between -4 and 15 and in exponent form otherwise.  Positional texts always hold a point
(`1.0`); exponents have a sign and at least two digits (`1e-07`).  The words for the other values
depend on where the text stands, so they are a parameter (`Words`).
-/

namespace SchemaScribe.Binary64

/-- The words for the values that have no digits. -/
structure Words where
  nan : Text
  infinite : Text
  negativeInfinite : Text
  deriving DecidableEq, Repr

/-- The words in messages. -/
def Words.plain : Words := ⟨"nan", "inf", "-inf"⟩

/-! ### Layout -/

/-- The least exponent of the first digit that is written positionally. -/
def positionalFrom : Int := -4

/-- The least exponent above `positionalFrom` that is not written positionally any more. -/
def positionalTo : Int := 16

/-- Digits without the zeros at their end, but at least one. -/
def stripZeros (digits : List CodePoint) : List CodePoint :=
  match (digits.reverse.dropWhile (· == .char '0')).reverse with
  | [] => ['0']
  | kept => kept

/-- The exponent part: a sign and at least two digits. -/
def exponentText (e : Int) : List CodePoint :=
  let digits := Text.decimalDigits e.natAbs
  'e' :: (if e < 0 then '-' else '+') :: (if digits.length < 2 then '0' :: digits else digits)

/-- Digits laid out so that the first one has the decimal exponent `e`. -/
def layOut (digits : List CodePoint) (e : Int) : List CodePoint :=
  if positionalFrom ≤ e ∧ e < positionalTo then
    if e < 0 then .char '0' :: .char '.' :: List.replicate (-e - 1).toNat (.char '0') ++ digits
    else
      let whole := e.toNat + 1
      let fraction := digits.drop whole
      digits.take whole ++ List.replicate (whole - digits.length) (.char '0') ++
        .char '.' :: (if fraction.isEmpty then [.char '0'] else fraction)
  else
    match digits with
    | [] => exponentText e
    | [d] => d :: exponentText e
    | d :: more => d :: .char '.' :: more ++ exponentText e

/-- The text of a decimal. -/
def Decimal.text (d : Decimal) : List CodePoint :=
  let digits := Text.decimalDigits d.digits
  layOut (stripZeros digits) (if d.digits = 0 then 0 else digits.length + d.exponent - 1)

/-- **The text of a double.** -/
def text (words : Words) : Binary64 → Text
  | .finite negative rank =>
    Text.ofList ((if negative then [.char '-'] else []) ++ (shortest rank).text)
  | .infinite false => words.infinite
  | .infinite true => words.negativeInfinite
  | .nan => words.nan

end SchemaScribe.Binary64
