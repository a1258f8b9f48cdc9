import SchemaScribe.Yaml.Fault

/-!
# Reading positions

A cursor is what remains of a text, with how many characters, lines and columns lie before it.
The end of the text reads as a null character, which no text contains (`isAllowed`).
-/

namespace SchemaScribe.Yaml

/-! ### Characters -/

/-- The characters that a document may contain. -/
def isAllowed (c : Char) : Bool :=
  c == '\t' || c == '\n' || c == '\r' || (' ' ≤ c && c ≤ '~') || c == '\u0085' ||
    ('\u00a0' ≤ c && c ≤ '\ud7ff') || ('\ue000' ≤ c && c ≤ '\ufffd') || 0x10000 ≤ c.toNat

/-- What the end of the text reads as. -/
def endMark : Char := '\x00'

/-- The characters that end a line. -/
def isBreak (c : Char) : Bool :=
  c == '\r' || c == '\n' || c == '\u0085' || c == '\u2028' || c == '\u2029'

/-- The end of a line, or of the text. -/
def isLineEnd (c : Char) : Bool := c == endMark || isBreak c

/-- A space, or the end of a line. -/
def isSpaceOrEnd (c : Char) : Bool := c == ' ' || isLineEnd c

/-- A space or tab, or the end of a line. -/
def isBlankOrEnd (c : Char) : Bool := c == '\t' || isSpaceOrEnd c

/-- The characters of names of anchors, handles and directives. -/
def isNameChar (c : Char) : Bool := c.isAlphanum || c == '-' || c == '_'

/-! ### Cursors -/

/-- **A position in a text** of `size` characters. -/
structure Cursor where
  rest : List Char
  size : Nat
  index : Nat := 0
  line : Nat := 0
  column : Nat := 0
  deriving Repr

namespace Cursor

/-- The start of a text. -/
def start (cs : List Char) : Cursor := ⟨cs, cs.length, 0, 0, 0⟩

/-- How many characters come after a cursor. -/
def left (cursor : Cursor) : Nat := cursor.size - cursor.index

/-- The place of a cursor. -/
def mark (cursor : Cursor) : Mark := ⟨cursor.line, cursor.column⟩

/-- The character `ahead` places after the cursor. -/
def look (cursor : Cursor) (ahead : Nat) : Char := (cursor.rest.drop ahead).headD endMark

/-- The character at the cursor. -/
def peek (cursor : Cursor) : Char := cursor.rest.headD endMark

/-- The position after one character.  A break starts a new line, a carriage return only unless a
line feed follows, and a byte order mark has no width. -/
def step (cursor : Cursor) : Cursor :=
  match cursor.rest with
  | [] => cursor
  | c :: rest =>
    if isBreak c && !(c == '\r' && rest.head? == some '\n') then
      ⟨rest, cursor.size, cursor.index + 1, cursor.line + 1, 0⟩
    else
      ⟨rest, cursor.size, cursor.index + 1, cursor.line,
        if c = '\ufeff' then cursor.column else cursor.column + 1⟩

/-- The position after `n` characters. -/
def advance : Nat → Cursor → Cursor
  | 0, cursor => cursor
  | n + 1, cursor => advance n cursor.step

/-- The characters from the cursor on that satisfy a test, and the position after them. -/
def span (test : Char → Bool) (cursor : Cursor) : List Char × Cursor :=
  let taken := cursor.rest.takeWhile test
  (taken, cursor.advance taken.length)

/-- The position after the characters that satisfy a test. -/
def skip (test : Char → Bool) (cursor : Cursor) : Cursor := (cursor.span test).2

/-- The break at the cursor as it counts in a value, and the position after it: separators of lines
and of paragraphs stand for themselves, all other breaks are a line feed. -/
def lineBreak (cursor : Cursor) : List Char × Cursor :=
  match cursor.rest with
  | '\r' :: '\n' :: _ => (['\n'], cursor.advance 2)
  | c :: _ =>
    if c == '\r' || c == '\n' || c == '\u0085' then (['\n'], cursor.step)
    else if isBreak c then ([c], cursor.step)
    else ([], cursor)
  | [] => ([], cursor)

/-- The position after a comment, if there is one at the cursor. -/
def skipComment (cursor : Cursor) : Cursor :=
  if cursor.peek = '#' then cursor.skip (!isLineEnd ·) else cursor

/-- Three characters that mark the bounds of a document, on their own at the cursor. -/
def atSeparator (marker : List Char) (cursor : Cursor) : Bool :=
  marker.isPrefixOf cursor.rest && isBlankOrEnd (cursor.look 3)

/-- The cursor is at the mark of the start or of the end of a document. -/
def atDocumentBound (cursor : Cursor) : Bool :=
  cursor.atSeparator ['-', '-', '-'] || cursor.atSeparator ['.', '.', '.']

/-- A fault at the cursor. -/
def fail {α : Type} (cursor : Cursor) (problem : Text) : Except Fault α :=
  .error (.malformed problem cursor.mark)

/-- The position after the rest of a line in which only a comment may stand. -/
def finishLine (cursor : Cursor) : Except Fault Cursor :=
  let cursor := (cursor.skip (· == ' ')).skipComment
  if isLineEnd cursor.peek then .ok cursor.lineBreak.2
  else cursor.fail "expected a comment or a line break"

end Cursor

end SchemaScribe.Yaml
