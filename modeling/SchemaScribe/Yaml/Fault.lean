import SchemaScribe.Number.Numeral
import SchemaScribe.Yaml.Calendar

/-!
# What can be wrong with a document

A text that breaks the rules of YAML is malformed, and the place is told.  Values that are written
by the rules may still be out of range for what they stand for, and each of those cases has a
wording of its own.
-/

namespace SchemaScribe.Yaml

/-- A place in a text.  Lines and columns count from zero. -/
structure Mark where
  line : Nat
  column : Nat
  deriving DecidableEq, Repr

/-- **Why a text gives no document.** -/
inductive Fault where
  /-- The text breaks the rules at a place. -/
  | malformed (problem : Text) (mark : Mark)
  /-- An escape names a code past the last character. -/
  | codeOutOfRange
  /-- An escape names a code that does not fit 32 bits with a sign. -/
  | codeTooLarge
  | numeral (fault : Numeral.Fault)
  | calendar (fault : CalendarFault)
  /-- A decimal has so many groups that the weight of one is past the range of decimals. -/
  | weightTooLarge
  /-- A number without a single character. -/
  | emptyNumber
  /-- A word that is no truth value. -/
  | unknownBool (word : Text)
  /-- A text that is no date. -/
  | notTimestamp
  /-- A mapping in the place of the text of a date. -/
  | timestampMapping
  /-- A default value that leads back to itself. -/
  | endless
  deriving DecidableEq, Repr

/-- The wording of a fault. -/
def Fault.message : Fault → Text
  | .malformed problem mark =>
    problem ++ " (line " ++ toString (mark.line + 1) ++ ", column " ++
      toString (mark.column + 1) ++ ")"
  | .codeOutOfRange => "chr() arg not in range(0x110000)"
  | .codeTooLarge => "Python int too large to convert to C int"
  | .numeral fault => fault.message
  | .calendar fault => fault.message
  | .weightTooLarge => "int too large to convert to float"
  | .emptyNumber => "string index out of range"
  | .unknownBool word => Text.quoted word
  | .notTimestamp => "'NoneType' object has no attribute 'groupdict'"
  | .timestampMapping => "expected string or bytes-like object, got 'list'"
  | .endless => "maximum recursion depth exceeded"

/-- The text breaks the rules of YAML, rather than holding a value out of range. -/
def Fault.isMalformed : Fault → Bool
  | .malformed .. => true
  | _ => false

end SchemaScribe.Yaml
