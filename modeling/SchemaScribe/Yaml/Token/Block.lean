import SchemaScribe.Yaml.Token

/-!
# Block scalars

Scalars made of indented lines after a header.  In the literal form each break counts; in the folded
form a single break between two lines of text reads as a space.  The header may fix the indentation
and say what becomes of the breaks at the end.
-/

namespace SchemaScribe.Yaml

/-! ### Headers -/

/-- What becomes of the breaks at the end: all are dropped, one is kept, or all are. -/
inductive Chomping where
  | strip
  | clip
  | keep
  deriving DecidableEq, Repr

/-- The header of a block scalar. -/
structure BlockHeader where
  chomping : Chomping
  increment : Option Nat
  deriving DecidableEq, Repr

/-- A chomping indicator at the cursor, if there is one. -/
def readChomping (cursor : Cursor) : Option Chomping × Cursor :=
  if cursor.peek = '+' then (some .keep, cursor.step)
  else if cursor.peek = '-' then (some .strip, cursor.step)
  else (none, cursor)

/-- An indentation indicator at the cursor, if there is one. -/
def readIncrement (cursor : Cursor) : Except Fault (Option Nat × Cursor) :=
  match Text.asciiDigit? cursor.peek with
  | none => .ok (none, cursor)
  | some 0 => cursor.fail "expected an indentation indicator from 1 to 9"
  | some n => .ok (some n, cursor.step)

/-- The indicators of a header, in either order. -/
def readBlockHeader (cursor : Cursor) : Except Fault (BlockHeader × Cursor) := do
  let (first, after) := readChomping cursor
  let (increment, after) ← readIncrement after
  let (chomping, after) := if first.isSome then (first, after) else readChomping after
  if !isSpaceOrEnd after.peek then after.fail "expected chomping or indentation indicators"
  pure (⟨chomping.getD .clip, increment⟩, after)

/-! ### Lines -/

/-- Leading empty lines where the indentation is not fixed: their breaks and the widest column they
reach.  `fuel` bounds the number of characters. -/
def detectIndent (widest : Nat) : Nat → Cursor → List Char × Nat × Cursor
  | 0, cursor => ([], widest, cursor)
  | fuel + 1, cursor =>
    if cursor.peek = ' ' then
      let after := cursor.step
      detectIndent (max widest after.column) fuel after
    else
      match cursor.lineBreak with
      | ([], _) => ([], widest, cursor)
      | (lineBreak, after) =>
        let (more, widest, after) := detectIndent widest fuel after
        (lineBreak ++ more, widest, after)

/-- The position after the spaces up to the column `indent`. -/
def skipIndent (indent : Nat) (cursor : Cursor) : Cursor :=
  cursor.advance ((cursor.rest.take (indent - cursor.column)).takeWhile (· == ' ')).length

/-- Empty lines: their breaks, each after spaces up to the column `indent`.  `fuel` bounds their
number. -/
def blockBreaks (indent : Nat) : Nat → Cursor → List Char × Cursor
  | 0, cursor => ([], cursor)
  | fuel + 1, cursor =>
    let cursor := skipIndent indent cursor
    match cursor.lineBreak with
    | ([], _) => ([], cursor)
    | (lineBreak, after) =>
      let (more, after) := blockBreaks indent fuel after
      (lineBreak ++ more, after)

/-- The lines of a block scalar from the cursor on, after the empty lines `breaks`: their text, the
last break and the empty lines after it.  A folded break is dropped between two lines of text, and
stands as a space if no empty line follows it. -/
def blockLines (folded : Bool) (indent : Nat) (breaks : List Char) :
    Nat → Cursor → List Char × List Char × List Char × Cursor
  | 0, cursor => ([], [], breaks, cursor)
  | fuel + 1, cursor =>
    if cursor.column = indent ∧ cursor.peek ≠ endMark then
      let startsText := cursor.peek != ' ' && cursor.peek != '\t'
      let (line, after) := cursor.span (!isLineEnd ·)
      let (lineBreak, after) := after.lineBreak
      let (emptyLines, after) := blockBreaks indent (after.left + 1) after
      let text := breaks ++ line
      if after.column = indent ∧ after.peek ≠ endMark then
        let folds := folded && lineBreak == ['\n'] && startsText && after.peek != ' ' &&
          after.peek != '\t'
        let joint := if !folds then lineBreak else if emptyLines.isEmpty then [' '] else []
        let (more, lastBreak, emptyLines, after) := blockLines folded indent emptyLines fuel after
        (text ++ joint ++ more, lastBreak, emptyLines, after)
      else (text, lineBreak, emptyLines, after)
    else ([], [], breaks, cursor)

/-- **A block scalar** at the cursor, within a collection that is indented by `outer`. -/
def readBlock (folded : Bool) (outer : Int) (cursor : Cursor) : Except Fault (Token × Cursor) := do
  let (header, after) ← readBlockHeader cursor.step
  let after ← after.finishLine
  let least := max (outer + 1).toNat 1
  let (breaks, indent, after) :=
    match header.increment with
    | none =>
      let (breaks, widest, after) := detectIndent 0 (after.left + 1) after
      (breaks, max least widest, after)
    | some increment =>
      let indent := least + increment - 1
      let (breaks, after) := blockBreaks indent (after.left + 1) after
      (breaks, indent, after)
  let (text, lastBreak, emptyLines, after) :=
    blockLines folded indent breaks (after.left + 1) after
  let ending :=
    match header.chomping with
    | .strip => []
    | .clip => lastBreak
    | .keep => lastBreak ++ emptyLines
  pure (.scalar (String.ofList (text ++ ending)) false, after)

end SchemaScribe.Yaml
