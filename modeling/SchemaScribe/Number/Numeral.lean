import SchemaScribe.Number.Binary64
import SchemaScribe.Text.Blank
import SchemaScribe.Text.Digit
import SchemaScribe.Text.Quoted

/-!
# Numbers from free text

Readers for numbers that people write: blanks around them, an optional sign, and digits of any
script (`Numeral.plain` brings a text to ASCII digits).  Integers have a base and may carry its
mark (`0x`, `0o`, `0b`); decimals may have a point, an exponent, single underscores between digits,
or be one of the words for infinity and `nan`.
-/

namespace SchemaScribe.Numeral

open Text

/-! ### Plain form -/

/-- A digit of any script as the ASCII digit of the same value; other characters stay. -/
def plainDigit (c : CodePoint) : CodePoint :=
  match digitValue? c with
  | some d => CodePoint.ofNat ('0'.toNat + d)
  | none => c

/-- The blanks that may stand around a number.  The information separators are none of them. -/
def isMargin (c : CodePoint) : Bool := isBlank c && !(0x1C ≤ c.toNat && c.toNat ≤ 0x1F)

/-- A text without the blanks before it and with ASCII digits. -/
def plain (cs : List CodePoint) : List CodePoint := (cs.dropWhile isMargin).map plainDigit

/-- A text without the blanks after it. -/
def dropMargin (cs : List CodePoint) : List CodePoint := (cs.reverse.dropWhile isMargin).reverse

/-- A leading sign, and what follows it. -/
def splitSign : List CodePoint → Bool × List CodePoint
  | '-' :: rest => (true, rest)
  | '+' :: rest => (false, rest)
  | cs => (false, cs)

/-! ### Integers -/

/-- The longest decimal integer that is read, in digits. -/
def digitLimit : Nat := 4300

/-- Why a text is not read as a number. -/
inductive Fault where
  | notInt (base : Nat) (text : Text)
  | notFloat (text : Text)
  | tooLong (digits : Nat)
  deriving DecidableEq, Repr

/-- The wording of a fault.  A text that is not an integer is quoted up to 200 characters. -/
def Fault.message : Fault → Text
  | .notInt base text =>
    let shown := Text.ofList ((quoted text).toList.take 200)
    "invalid literal for int() with base " ++ toString base ++ ": " ++ shown
  | .notFloat text => "could not convert string to float: " ++ quoted text
  | .tooLong digits =>
    s!"Exceeds the limit ({digitLimit} digits) for integer string conversion: value has " ++
      s!"{digits} digits; use sys.set_int_max_str_digits() to increase the limit"

/-- The value of a digit in `base`, where letters go on after the nine. -/
def digitIn? (base : Nat) (c : CodePoint) : Option Nat :=
  let value :=
    if 'g' ≤ c ∧ c ≤ 'z' then some (c.toNat - 'a'.toNat + 10)
    else if 'G' ≤ c ∧ c ≤ 'Z' then some (c.toNat - 'A'.toNat + 10)
    else hexDigit? c
  value.filter (· < base)

/-- The letters that mark a base after a leading zero. -/
def baseMark : Nat → List CodePoint
  | 2 => ['b', 'B']
  | 8 => ['o', 'O']
  | 16 => ['x', 'X']
  | _ => []

/-- Digits without the mark of their base. -/
def dropBaseMark (base : Nat) : List CodePoint → List CodePoint
  | '0' :: c :: rest => if (baseMark base).contains c then rest else '0' :: c :: rest
  | cs => cs

/-- The values of the digits at the head of a text, and what follows them. -/
def leadingDigits (base : Nat) : List CodePoint → List Nat × List CodePoint
  | [] => ([], [])
  | c :: rest =>
    match digitIn? base c with
    | none => ([], c :: rest)
    | some value =>
      let (values, after) := leadingDigits base rest
      (value :: values, after)

/-- **An integer in the given base.**  Only decimal integers have a limit on their length, which is
checked before what follows the digits. -/
def readInt (base : Nat) (text : Text) : Except Fault Int :=
  let (negative, unsigned) := splitSign (plain text.toList)
  let (values, after) := leadingDigits base (dropBaseMark base unsigned)
  if base = 10 ∧ digitLimit < values.length then .error (.tooLong values.length)
  else if values.isEmpty ∨ !after.all isMargin then .error (.notInt base text)
  else
    let n := ofDigits base values
    .ok (if negative then -(n : Int) else n)

/-! ### Decimals -/

/-- Text without the underscores that stand between two digits; none if one stands elsewhere. -/
def dropUnderscores (afterDigit : Bool) : List CodePoint → Option (List CodePoint)
  | [] => some []
  | '_' :: rest =>
    if afterDigit && rest.head?.any CodePoint.isDigit then dropUnderscores false rest else none
  | c :: rest => (dropUnderscores c.isDigit rest).map (c :: ·)

/-- The exponent part of a decimal: nothing, or a letter, an optional sign and digits. -/
def readExponent? : List CodePoint → Option Int
  | [] => some 0
  | e :: rest =>
    if e = 'e' ∨ e = 'E' then
      let (negative, digits) := splitSign rest
      if digits.isEmpty then none
      else
        (digits.mapM asciiDigit?).map fun values =>
          let n := ofDigits 10 values
          if negative then -(n : Int) else n
    else none

/-- A decimal without a sign. -/
def readUnsigned? (negative : Bool) (cs : List CodePoint) : Option Binary64 :=
  let whole := cs.takeWhile CodePoint.isDigit
  let afterWhole := cs.dropWhile CodePoint.isDigit
  let (fraction, afterFraction) :=
    match afterWhole with
    | '.' :: rest => (rest.takeWhile CodePoint.isDigit, rest.dropWhile CodePoint.isDigit)
    | rest => ([], rest)
  if whole.isEmpty ∧ fraction.isEmpty then none
  else
    (readExponent? afterFraction).map fun e =>
      Binary64.ofDecimal negative (ofDigits 10 ((whole ++ fraction).filterMap asciiDigit?))
        (e - fraction.length)

/-- A word for a value without digits. -/
def readWord? (negative : Bool) (cs : List CodePoint) : Option Binary64 :=
  let word := Text.ofList (cs.map CodePoint.toLower)
  if word = "inf" ∨ word = "infinity" then some (.infinite negative)
  else if word = "nan" then some .nan
  else none

/-- **A decimal number.** -/
def readFloat (text : Text) : Except Fault Binary64 :=
  let read := do
    let cs ← dropUnderscores false (dropMargin (plain text.toList))
    let (negative, rest) := splitSign cs
    (readWord? negative rest).orElse fun _ => readUnsigned? negative rest
  match read with
  | some x => .ok x
  | none => .error (.notFloat text)

end SchemaScribe.Numeral
