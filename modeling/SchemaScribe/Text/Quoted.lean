import SchemaScribe.Text.Digit
import SchemaScribe.Text.Printable

/-!
# Quoted text in messages

How a message shows a text or a run of bytes so that every character can be told apart: between
single quotes, or between double quotes when that saves escaping a single one, with the
characters that do not print written as escapes.
-/

namespace SchemaScribe.Text

/-! ### The quote -/

/-- The quote that encloses a text: the single one, unless the text holds it and no double one. -/
def quoteFor (cs : List CodePoint) : CodePoint :=
  if cs.contains '\'' && !cs.contains '"' then '"' else '\''

/-! ### Characters -/

/-- The short escapes, which come before any other rule. -/
def shortEscape? (c : CodePoint) : Option (List CodePoint) :=
  match c with
  | '\\' => some ['\\', '\\']
  | '\t' => some ['\\', 't']
  | '\n' => some ['\\', 'n']
  | '\r' => some ['\\', 'r']
  | _ => none

/-- An escape with the code of a character in two, four or eight hexadecimal digits. -/
def codeEscape (code : Nat) : List CodePoint :=
  if code < 0x100 then '\\' :: 'x' :: hexDigits 2 code
  else if code < 0x10000 then '\\' :: 'u' :: hexDigits 4 code
  else '\\' :: 'U' :: hexDigits 8 code

/-- A character between the quotes `quote`. -/
def quotedChar (quote c : CodePoint) : List CodePoint :=
  if c = quote then ['\\', c]
  else
    match shortEscape? c with
    | some escape => escape
    | none => if isPrintable c then [c] else codeEscape c.toNat

/-- **A text as a message shows it**, in quotes and with escapes. -/
def quoted (text : Text) : Text :=
  let cs := text.toList
  let quote := quoteFor cs
  Text.ofList (quote :: (cs.flatMap (quotedChar quote)) ++ [quote])

/-! ### Bytes -/

/-- A byte between the quotes `quote`: ASCII that prints as itself, the rest as an escape. -/
def quotedByte (quote : CodePoint) (byte : UInt8) : List CodePoint :=
  let c := CodePoint.ofNat byte.toNat
  if byte < 128 then quotedChar quote c else codeEscape byte.toNat

/-- A run of bytes as a message shows it, marked by a letter in front of the quotes. -/
def quotedBytes (bytes : List UInt8) : Text :=
  let quote := quoteFor (bytes.map fun byte => CodePoint.ofNat byte.toNat)
  Text.ofList (.char 'b' :: quote :: (bytes.flatMap (quotedByte quote)) ++ [quote])

end SchemaScribe.Text
