import SchemaScribe.Number.Layout
import SchemaScribe.Text.Base64
import SchemaScribe.Text.Lower
import SchemaScribe.Yaml.Tag
import SchemaScribe.Yaml.Fault

/-!
# Scalar values

The values of scalars, and how they are read from the text of a node with a given tag
(`Scalar.ofText`).  Scalars are the keys of mappings; numbers are the same key if they are equal,
and a truth value counts as the number one or zero.
-/

namespace SchemaScribe.Yaml

/-- **The value of a scalar.** -/
inductive Scalar where
  | null
  | bool (value : Bool)
  | int (value : Int)
  | float (value : Binary64)
  /-- A decimal that is no number and is not written as the word for that, by its place. -/
  | stray (mark : Mark)
  | text (value : Text)
  | bytes (value : List UInt8)
  | date (value : Date)
  | moment (value : Moment)
  deriving DecidableEq, Repr

namespace Scalar

/-! ### Use -/

/-- What counts as given: everything but null, falsehood, the zeros and what is empty. -/
def isTruthy : Scalar → Bool
  | .null => false
  | .bool value => value
  | .int value => value != 0
  | .float value => !value.sameAsInt 0
  | .stray _ => true
  | .text value => value != ""
  | .bytes value => !value.isEmpty
  | .date _ => true
  | .moment _ => true

/-- The text of a scalar, as it stands in a name.  There is none for an integer that is longer than
the ones that are read. -/
def display? : Scalar → Option Text
  | .null => some "None"
  | .bool true => some "True"
  | .bool false => some "False"
  | .int value =>
    if Numeral.digitLimit < Binary64.decimalLength value.natAbs then none else some (toString value)
  | .float value => some (value.text .plain)
  | .stray _ => some (Binary64.nan.text .plain)
  | .text value => some value
  | .bytes value => some (Text.quotedBytes value)
  | .date value => some value.text
  | .moment value => some value.text

/-- The integer that a scalar stands for. -/
def asInt? : Scalar → Option Int
  | .bool value => some value.toNat
  | .int value => some value
  | _ => none

/-- **Two scalars are the same key.**  The word for what is no number is the same key wherever it
stands, and a stray one is a key of its own. -/
def sameKey : Scalar → Scalar → Bool
  | .float x, .float y => x == y || x.sameNumber y
  | .float x, b => b.asInt?.any x.sameAsInt
  | a, .float y => a.asInt?.any y.sameAsInt
  | .moment a, .moment b => a.same b
  | a, b =>
    match a.asInt?, b.asInt? with
    | some m, some n => m == n
    | _, _ => a == b

/-! ### Numbers -/

/-- A text without its underscores. -/
def dropUnderscores (cs : List CodePoint) : List CodePoint := cs.filter (· != '_')

/-- A sign at the head of a number, and the rest.  A number has at least one character. -/
def splitSign (cs : List CodePoint) : Except Fault (Bool × List CodePoint) :=
  match cs with
  | [] => .error .emptyNumber
  | '-' :: rest => .ok (true, rest)
  | '+' :: rest => .ok (false, rest)
  | cs => .ok (false, cs)

/-- An integer in a base. -/
def readInt (base : Nat) (cs : List CodePoint) : Except Fault Int :=
  (Numeral.readInt base (Text.ofList cs)).mapError .numeral

/-- A decimal. -/
def readFloat (cs : List CodePoint) : Except Fault Binary64 :=
  (Numeral.readFloat (Text.ofList cs)).mapError .numeral

/-- An integer without its sign: in base two or sixteen after a mark, in base eight after a zero, in
groups of sixtieths between colons, or decimal. -/
def ofUnsignedInt : List CodePoint → Except Fault Int
  | [] => .error .emptyNumber
  | ['0'] => .ok 0
  | '0' :: 'b' :: digits => readInt 2 digits
  | '0' :: 'x' :: digits => readInt 16 digits
  | '0' :: digits => readInt 8 ('0' :: digits)
  | cs =>
    if cs.contains ':' then do
      let groups ← (Tag.splitColons cs).mapM (readInt 10)
      pure (groups.foldl (fun total group => total * 60 + group) 0)
    else readInt 10 cs

/-- An integer as it is written. -/
def ofIntText (text : Text) : Except Fault Int := do
  let (negative, unsigned) ← splitSign (dropUnderscores text.toList)
  let value ← ofUnsignedInt unsigned
  pure (if negative then -value else value)

/-- The sum of groups, the last one first, of which each counts sixty times the one before.  The
weight of a group has to be within the range of decimals. -/
def sumGroups (weight : Int) (total : Binary64) : List Binary64 → Except Fault Binary64
  | [] => .ok total
  | group :: rest =>
    let factor := Binary64.ofInt weight
    if factor.isFinite then sumGroups (weight * 60) (total.add (group.mul factor)) rest
    else .error .weightTooLarge

/-- A decimal without its sign: a word, groups of sixtieths between colons, or digits. -/
def ofUnsignedFloat (cs : List CodePoint) : Except Fault Binary64 :=
  if cs = (Text.toList ".inf") then .ok (.infinite false)
  else if cs.contains ':' then do
    let groups ← (Tag.splitColons cs).mapM readFloat
    sumGroups 1 (.zero false) groups.reverse
  else readFloat cs

/-- A decimal as it is written at a place. -/
def ofFloatText (text : Text) (mark : Mark) : Except Fault Scalar := do
  let lowered := Text.lower (Text.ofList (dropUnderscores text.toList))
  let (negative, unsigned) ← splitSign lowered.toList
  if unsigned = (Text.toList ".nan") then pure (.float .nan)
  else
    match ← ofUnsignedFloat unsigned with
    | .nan => pure (.stray mark)
    | value => pure (.float (if negative then value.neg else value))

/-! ### Other kinds -/

/-- The words for truth values in lower case. -/
def boolValues : List (Text × Bool) := [
  ("yes", true), ("no", false), ("true", true), ("false", false), ("on", true), ("off", false)]

/-- A truth value as it is written. -/
def ofBoolText (text : Text) : Except Fault Bool :=
  let word := Text.lower text
  match boolValues.find? (·.1 == word) with
  | some (_, value) => .ok value
  | none => .error (.unknownBool word)

/-- The number written by digits. -/
def number (digits : List CodePoint) : Nat := Text.ofDigits 10 (digits.filterMap Text.asciiDigit?)

/-- The microseconds of a fraction of a second, of which six digits count. -/
def micros (fraction : List CodePoint) : Nat :=
  number ((fraction ++ List.replicate 6 (CodePoint.char '0')).take 6)

/-- The minutes of an offset. -/
def offsetMinutes : Option (Bool × List CodePoint × List CodePoint) → Int
  | none => 0
  | some (negative, hours, minutes) =>
    let size : Int := number hours * 60 + number minutes
    if negative then -size else size

/-- The date, or the point in time, with the given parts. -/
def ofParts (parts : TimestampParts) : Except CalendarFault Scalar :=
  let year := number parts.year
  let month := number parts.month
  let day := number parts.day
  match parts.time with
  | none => (Date.of year month day).map .date
  | some (hour, minute, second, fraction) =>
    (Moment.of year month day (number hour) (number minute) (number second) (micros fraction)
      (parts.zone.map offsetMinutes)).map .moment

/-- A date, or a point in time, as it is written. -/
def ofTimestampText (text : Text) : Except Fault Scalar :=
  match TimestampParts.of? (Tag.dropFinalBreak text.toList) with
  | none => .error .notTimestamp
  | some parts => (ofParts parts).mapError .calendar

/-- Bytes as they are written.  `mark` is the place of the node. -/
def ofBinaryText (text : Text) (mark : Mark) : Except Fault (List UInt8) :=
  if text.toList.all fun c => c.toNat < 128 then
    match Text.Base64.decode? text.toList with
    | some decoded => .ok decoded
    | none => .error (.malformed "failed to decode base64 data" mark)
  else .error (.malformed "failed to convert base64 data into ascii" mark)

/-- **The scalar that a text stands for** under a tag, of which those of collections count as texts.
`mark` is the place of the node. -/
def ofText (tag : Tag) (text : Text) (mark : Mark) : Except Fault Scalar :=
  match tag with
  | .null => .ok .null
  | .bool => (ofBoolText text).map .bool
  | .int => (ofIntText text).map .int
  | .float => ofFloatText text mark
  | .timestamp => ofTimestampText text
  | .binary => (ofBinaryText text mark).map .bytes
  | _ => .ok (.text text)

end Scalar

end SchemaScribe.Yaml
