import SchemaScribe.Yaml.Token.Quoted

/-!
# Plain scalars

Scalars without quotes.  They end at a colon before a space, at a comment, at the indicators of an
enclosing flow collection, at the bound of a document, and where a line is not indented enough.
Lines are folded as between quotes.
-/

namespace SchemaScribe.Yaml

/-- The indicators of flow collections. -/
def isFlowIndicator (c : Char) : Bool := ",[]\x7b\x7d".toList.contains c

/-- A plain scalar stops before the characters `c :: rest`. -/
def stopsPlain (inFlow : Bool) (c : Char) (rest : List Char) : Bool :=
  isBlankOrEnd c ||
    (c == ':' && (let next := rest.headD endMark
      isBlankOrEnd next || (inFlow && isFlowIndicator next))) ||
    (inFlow && (c == '?' || isFlowIndicator c))

/-- The characters of a plain scalar up to where it stops or a space comes. -/
def plainRun (inFlow : Bool) : List Char → List Char
  | [] => []
  | c :: rest => if stopsPlain inFlow c rest then [] else c :: plainRun inFlow rest

/-- The breaks of empty lines and the spaces at the start of the line after them; none at the bound
of a document.  `fuel` bounds the number of characters. -/
def plainEmptyLines : Nat → Cursor → Option (List Char) × Cursor
  | 0, cursor => (some [], cursor)
  | fuel + 1, cursor =>
    if cursor.peek = ' ' then plainEmptyLines fuel cursor.step
    else
      match cursor.lineBreak with
      | ([], _) => (some [], cursor)
      | (lineBreak, after) =>
        if after.atDocumentBound then (none, after)
        else
          let (more, after) := plainEmptyLines fuel after
          (more.map (lineBreak ++ ·), after)

/-- What stands after a word of a plain scalar: spaces or folded breaks, nothing at the bound of a
document.  The flag says whether a line was ended. -/
def plainGap (cursor : Cursor) : List Char × Bool × Cursor :=
  let (spaces, after) := cursor.span (· == ' ')
  match after.lineBreak with
  | ([], _) => (spaces, false, after)
  | (lineBreak, after) =>
    if after.atDocumentBound then ([], true, after)
    else
      match plainEmptyLines (after.left + 1) after with
      | (none, after) => ([], true, after)
      | (some emptyLines, after) => (foldBreaks lineBreak emptyLines, true, after)

/-- The words of a plain scalar from the next one on, after `gap`.  The flag says whether the last
thing before the end was a line's end.  `fuel` bounds the number of words. -/
def plainWords (inFlow : Bool) (indent : Int) (gap : List Char) (ended : Bool) :
    Nat → Cursor → List Char × Bool × Cursor
  | 0, cursor => ([], ended, cursor)
  | fuel + 1, cursor =>
    let word := plainRun inFlow cursor.rest
    if cursor.peek = '#' ∨ word.isEmpty then ([], ended, cursor)
    else
      let (nextGap, ended, after) := plainGap (cursor.advance word.length)
      if nextGap.isEmpty ∨ after.peek = '#' ∨ (!inFlow ∧ (after.column : Int) < indent) then
        (gap ++ word, ended, after)
      else
        let (more, ended, after) := plainWords inFlow indent nextGap ended fuel after
        (gap ++ word ++ more, ended, after)

/-- **A plain scalar** at the cursor, which must be indented by `indent` on each of its lines.  The
flag says whether a line was ended after its last word. -/
def readPlain (inFlow : Bool) (indent : Int) (cursor : Cursor) : Token × Bool × Cursor :=
  let (text, ended, after) := plainWords inFlow indent [] false (cursor.left + 1) cursor
  (.scalar (String.ofList text) true, ended, after)

end SchemaScribe.Yaml
