import SchemaScribe.Text.Digit

/-!
# Quoted strings

The written form of a text as a string literal.  Quotes and backslashes are escaped, control
characters below the space get a short escape or a numeric one, and everything else stands for
itself, so a written form never breaks a line.
-/

namespace SchemaScribe.Json

/-- One character inside a literal. -/
def escapeChar (c : CodePoint) : List CodePoint :=
  if c = '"' then ['\\', '"']
  else if c = '\\' then ['\\', '\\']
  else if c = '\n' then ['\\', 'n']
  else if c = '\r' then ['\\', 'r']
  else if c = '\t' then ['\\', 't']
  else if c = '\x0c' then ['\\', 'f']
  else if c = '\x08' then ['\\', 'b']
  else if c.toNat < 0x20 then '\\' :: 'u' :: Text.hexDigits 4 c.toNat
  else [c]

/-- The characters of a literal between its quotes. -/
def escape (cs : List CodePoint) : List CodePoint := cs.flatMap escapeChar

/-- The characters of a literal. -/
def quoteChars (cs : List CodePoint) : List CodePoint := .char '"' :: (escape cs ++ [.char '"'])

/-- **The string literal of a text.** -/
def quote (text : Text) : Text := Text.ofList (quoteChars text.toList)

end SchemaScribe.Json
