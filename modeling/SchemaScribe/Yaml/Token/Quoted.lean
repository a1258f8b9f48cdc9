import SchemaScribe.Text.Digit
import SchemaScribe.Yaml.Token

/-!
# Quoted scalars

Scalars between quotes.  Lines are folded: a single break between two lines reads as a space, and of
several the first is dropped; spaces around breaks do not count.  Between single quotes a doubled
quote stands for one; between double quotes there are escapes, also of halves of surrogate pairs.
-/

namespace SchemaScribe.Yaml

/-! ### Escapes -/

/-- The escapes of one letter. -/
def letterEscape? : Char → Option Char
  | '0' => some '\x00'
  | 'a' => some '\x07'
  | 'b' => some '\x08'
  | 't' => some '\t'
  | '\t' => some '\t'
  | 'n' => some '\n'
  | 'v' => some '\x0b'
  | 'f' => some '\x0c'
  | 'r' => some '\r'
  | 'e' => some '\x1b'
  | ' ' => some ' '
  | '"' => some '"'
  | '\\' => some '\\'
  | '/' => some '/'
  | 'N' => some '\u0085'
  | '_' => some '\u00a0'
  | 'L' => some '\u2028'
  | 'P' => some '\u2029'
  | _ => none

/-- The letters before a code in hexadecimal, with its number of digits. -/
def codeWidth? : Char → Option Nat
  | 'x' => some 2
  | 'u' => some 4
  | 'U' => some 8
  | _ => none

/-- The code point of an escaped code. -/
def codePointOfEscape (code : Nat) : Except Fault CodePoint :=
  if 0x80000000 ≤ code then .error .codeTooLarge
  else if 0x110000 ≤ code then .error .codeOutOfRange
  else .ok (.ofNat code)

/-- The code point of a code of the given number of digits at the cursor. -/
def readCode (width : Nat) (cursor : Cursor) : Except Fault (CodePoint × Cursor) :=
  match (cursor.rest.take width).mapM (Text.hexDigit? <| .char ·) with
  | some digits =>
    if digits.length = width then do
      pure (← codePointOfEscape (Text.ofDigits 16 digits), cursor.advance width)
    else cursor.fail "expected an escape of hexadecimal digits"
  | none => cursor.fail "expected an escape of hexadecimal digits"

/-! ### Folding -/

/-- The breaks of empty lines, each after spaces that do not count.  A scalar may not hold the bound
of a document.  `fuel` bounds the number of lines. -/
def readEmptyLines : Nat → Cursor → Except Fault (List Char × Cursor)
  | 0, cursor => .ok ([], cursor)
  | fuel + 1, cursor =>
    if cursor.atDocumentBound then cursor.fail "found unexpected document separator"
    else
      let cursor := cursor.skip fun c => c == ' ' || c == '\t'
      match cursor.lineBreak with
      | ([], _) => .ok ([], cursor)
      | (lineBreak, after) => do
        let (more, after) ← readEmptyLines fuel after
        pure (lineBreak ++ more, after)

/-- What a break followed by the breaks of empty lines reads as. -/
def foldBreaks (lineBreak emptyLines : List Char) : List Char :=
  if lineBreak ≠ ['\n'] then lineBreak ++ emptyLines
  else if emptyLines.isEmpty then [' ']
  else emptyLines

/-- What stands between two words of a quoted scalar: spaces within a line, or folded breaks. -/
def readGap (cursor : Cursor) : Except Fault (List Char × Cursor) := do
  let (spaces, after) := cursor.span fun c => c == ' ' || c == '\t'
  if after.peek = endMark then after.fail "found unexpected end of stream"
  else
    match after.lineBreak with
    | ([], _) => pure (spaces, after)
    | (lineBreak, after) => do
      let (emptyLines, after) ← readEmptyLines (after.left + 1) after
      pure (foldBreaks lineBreak emptyLines, after)

/-! ### Words -/

/-- The characters that need a look within quotes. -/
def stopsWord (c : Char) : Bool := c == '\'' || c == '"' || c == '\\' || isBlankOrEnd c

/-- An escape after its backslash.  One before a break joins two lines. -/
def readEscape (cursor : Cursor) : Except Fault (List CodePoint × Cursor) :=
  match letterEscape? cursor.peek with
  | some c => .ok ([.char c], cursor.step)
  | none =>
    match codeWidth? cursor.peek with
    | some width => do
      let (c, after) ← readCode width cursor.step
      pure ([c], after)
    | none =>
      if isBreak cursor.peek then do
        let (emptyLines, after) ← readEmptyLines (cursor.left + 1) cursor.lineBreak.2
        pure (emptyLines.map .char, after)
      else cursor.fail "found unknown escape character"

/-- The code points of a quoted scalar up to the next space, break or closing quote.  `fuel` bounds
the number of its parts. -/
def readWord (double : Bool) : Nat → Cursor → Except Fault (List CodePoint × Cursor)
  | 0, cursor => .ok ([], cursor)
  | fuel + 1, cursor =>
    let (taken, after) := cursor.span (!stopsWord ·)
    let next := after.peek
    if !double && next == '\'' && after.look 1 == '\'' then do
      let (more, after) ← readWord double fuel (after.advance 2)
      pure (taken.map .char ++ .char '\'' :: more, after)
    else if (double && next == '\'') || (!double && (next == '"' || next == '\\')) then do
      let (more, after) ← readWord double fuel after.step
      pure (taken.map .char ++ .char next :: more, after)
    else if double && next == '\\' then do
      let (escaped, after) ← readEscape after.step
      let (more, after) ← readWord double fuel after
      pure (taken.map .char ++ escaped ++ more, after)
    else .ok (taken.map .char, after)

/-- The words of a quoted scalar and the gaps between them, up to the closing quote. -/
def readWords (double : Bool) : Nat → Cursor → Except Fault (List CodePoint × Cursor)
  | 0, cursor => cursor.fail "found unexpected end of stream"
  | fuel + 1, cursor => do
    let (word, after) ← readWord double (cursor.left + 1) cursor
    if after.peek = (if double then '"' else '\'') then pure (word, after.step)
    else
      let (gap, after) ← readGap after
      let (more, after) ← readWords double fuel after
      pure (word ++ gap.map .char ++ more, after)

/-- **A quoted scalar** at the cursor. -/
def readQuoted (double : Bool) (cursor : Cursor) : Except Fault (Token × Cursor) := do
  let (text, after) ← readWords double (cursor.left + 1) cursor.step
  pure (.scalar (.ofList text) false, after)

end SchemaScribe.Yaml
