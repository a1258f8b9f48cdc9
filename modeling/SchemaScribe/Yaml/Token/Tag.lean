import SchemaScribe.Text.Utf8
import SchemaScribe.Yaml.Token

/-!
# Directives, anchors and tags

The tokens that begin with a percent sign, an ampersand, an asterisk or an exclamation mark.
-/

namespace SchemaScribe.Yaml

/-! ### Names and addresses -/

/-- A name at the cursor, which has at least one character. -/
def readName (cursor : Cursor) : Except Fault (String × Cursor) :=
  match cursor.span isNameChar with
  | ([], _) => cursor.fail "expected a letter or a digit"
  | (name, cursor) => .ok (String.ofList name, cursor)

/-- The characters of tags as they are written. -/
def isUriChar (c : Char) : Bool := c.isAlphanum || "-;/?:@&=+$,_.!~*'()[]%".toList.contains c

/-- The bytes of a run of escapes, each a percent sign and two hexadecimal digits. -/
def readEscapedBytes : Nat → Cursor → Except Fault (List UInt8 × Cursor)
  | 0, cursor => .ok ([], cursor)
  | fuel + 1, cursor =>
    if cursor.peek = '%' then
      match Text.hexDigit? (cursor.look 1), Text.hexDigit? (cursor.look 2) with
      | some high, some low => do
        let (bytes, after) ← readEscapedBytes fuel (cursor.advance 3)
        pure (UInt8.ofNat (high * 16 + low) :: bytes, after)
      | _, _ => cursor.fail "expected an escape of two hexadecimal digits"
    else .ok ([], cursor)

/-- The characters of an address, in which escapes form UTF-8.  `fuel` bounds their number. -/
def readUriChars : Nat → Cursor → Except Fault (List Char × Cursor)
  | 0, cursor => .ok ([], cursor)
  | fuel + 1, cursor =>
    if cursor.peek = '%' then do
      let (bytes, after) ← readEscapedBytes fuel cursor
      match Text.Utf8.decode ⟨bytes.toArray⟩ with
      | .error fault => cursor.fail fault.message
      | .ok text => do
        let (more, after) ← readUriChars fuel after
        pure (text.toList ++ more, after)
    else if isUriChar cursor.peek then do
      let (more, after) ← readUriChars fuel cursor.step
      pure (cursor.peek :: more, after)
    else .ok ([], cursor)

/-- An address at the cursor, which has at least one character. -/
def readUri (cursor : Cursor) : Except Fault (String × Cursor) := do
  match ← readUriChars (cursor.left + 1) cursor with
  | ([], _) => cursor.fail "expected the address of a tag"
  | (uri, after) => pure (String.ofList uri, after)

/-- A tag handle: one exclamation mark, or a name between two. -/
def readHandle (cursor : Cursor) : Except Fault (String × Cursor) :=
  if cursor.peek ≠ '!' then cursor.fail "expected '!'"
  else if cursor.look 1 = ' ' then .ok ("!", cursor.step)
  else
    let (name, after) := cursor.step.span isNameChar
    if after.peek = '!' then .ok (String.ofList ('!' :: name ++ ['!']), after.step)
    else after.fail "expected '!'"

/-! ### Directives -/

/-- A number of the language's version. -/
def readVersionNumber (cursor : Cursor) : Except Fault (Nat × Cursor) :=
  match cursor.span Char.isDigit with
  | ([], _) => cursor.fail "expected a digit"
  | (digits, after) =>
    match Numeral.readInt 10 (String.ofList digits) with
    | .ok n => .ok (n.toNat, after)
    | .error fault => .error (.numeral fault)

/-- The two numbers of the language's version, of which the first counts. -/
def readVersion (cursor : Cursor) : Except Fault (Token × Cursor) := do
  let (major, after) ← readVersionNumber (cursor.skip (· == ' '))
  if after.peek ≠ '.' then after.fail "expected a digit or '.'"
  let (_, after) ← readVersionNumber after.step
  if !isSpaceOrEnd after.peek then after.fail "expected a digit or ' '"
  pure (.versionDirective major, after)

/-- A tag handle and what it stands for. -/
def readTagDirective (cursor : Cursor) : Except Fault (Token × Cursor) := do
  let (handle, after) ← readHandle (cursor.skip (· == ' '))
  if after.peek ≠ ' ' then after.fail "expected ' '"
  let (start, after) ← readUri (after.skip (· == ' '))
  if !isSpaceOrEnd after.peek then after.fail "expected ' '"
  pure (.tagDirective handle start, after)

/-- A directive at the cursor, up to the end of its line. -/
def readDirective (cursor : Cursor) : Except Fault (Token × Cursor) := do
  let (name, after) ← readName cursor.step
  if !isSpaceOrEnd after.peek then after.fail "expected a letter or a digit"
  let (token, after) ←
    match name with
    | "YAML" => readVersion after
    | "TAG" => readTagDirective after
    | _ => pure (.otherDirective, after.skip (!isLineEnd ·))
  pure (token, ← after.finishLine)

/-! ### Anchors and tags -/

/-- The characters that may follow the name of an anchor. -/
def endsAnchor (c : Char) : Bool := isBlankOrEnd c || "?:,]\x7d%@\x60".toList.contains c

/-- The name of an anchor or alias after its indicator. -/
def readAnchorName (cursor : Cursor) : Except Fault (String × Cursor) := do
  let (name, after) ← readName cursor.step
  if endsAnchor after.peek then pure (name, after)
  else after.fail "expected a letter or a digit"

/-- A tag at the cursor without the check of what follows: in full between angle brackets, the bare
indicator, or a suffix after a handle. -/
def readTagBody (cursor : Cursor) : Except Fault (Token × Cursor) := do
  let next := cursor.look 1
  if next = '<' then
    let (uri, after) ← readUri (cursor.advance 2)
    if after.peek ≠ '>' then after.fail "expected '>'"
    pure (.tag none uri, after.step)
  else if isBlankOrEnd next then pure (.tag none "!", cursor.step)
  else if (cursor.step.rest.takeWhile (!isSpaceOrEnd ·)).contains '!' then
    let (handle, after) ← readHandle cursor
    let (suffix, after) ← readUri after
    pure (.tag (some handle) suffix, after)
  else
    let (suffix, after) ← readUri cursor.step
    pure (.tag (some "!") suffix, after)

/-- A tag at the cursor. -/
def readTag (cursor : Cursor) : Except Fault (Token × Cursor) := do
  let (token, after) ← readTagBody cursor
  if isSpaceOrEnd after.peek then pure (token, after) else after.fail "expected ' '"

end SchemaScribe.Yaml
