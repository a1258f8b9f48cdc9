import SchemaScribe.Yaml.Token.Block
import SchemaScribe.Yaml.Token.Plain
import SchemaScribe.Yaml.Token.Tag

/-!
# The tokens of a text

`Stream.ofText` splits a text into tokens.  Most tokens begin with an indicator of their own; keys
of mappings do not, and are recognised by the colon after them.  So each place where a key may start
is remembered as a candidate, one for each level of flow collections, and when the colon comes the
token of the key is put in there.  A candidate is dropped when its line ends or after 1024
characters; if the indentation leaves no other reading it must not be dropped.

A fault ends the stream but leaves the tokens before it.  Since a token may still turn out to be the
start of a key, it is not told before its candidate has been dropped: the tokens from the first
candidate on are lost to the fault as well.
-/

namespace SchemaScribe.Yaml

/-! ### State -/

/-- A place where a key may start. -/
structure Candidate where
  /-- How many tokens come before it. -/
  position : Nat
  /-- The indentation leaves no other reading. -/
  required : Bool
  cursor : Cursor
  deriving Repr

/-- **How far a text is split**: the position, the tokens so far with the last one first and their
number, the open flow collections, the indentation of the open block collections, whether a key may
start at the position, and the candidates with the level of flow collections they belong to, the
innermost first. -/
structure Lexer where
  cursor : Cursor
  lexemes : List Lexeme := []
  count : Nat := 0
  flowLevel : Nat := 0
  indent : Int := -1
  outerIndents : List Int := []
  keyAllowed : Bool := true
  candidates : List (Nat × Candidate) := []
  deriving Repr

namespace Lexer

/-- The current column. -/
def column (lexer : Lexer) : Int := lexer.cursor.column

/-- The position is within flow collections. -/
def inFlow (lexer : Lexer) : Bool := lexer.flowLevel != 0

/-- The first `n` tokens in order. -/
def first (lexer : Lexer) (n : Nat) : List Lexeme := (lexer.lexemes.drop (lexer.count - n)).reverse

/-- A token at the current position. -/
def emit (lexer : Lexer) (token : Token) : Lexer :=
  { lexer with
    lexemes := ⟨token, lexer.cursor.mark⟩ :: lexer.lexemes
    count := lexer.count + 1 }

/-- A token in front of those from `position` on. -/
def insert (lexer : Lexer) (position : Nat) (token : Token) (mark : Mark) : Lexer :=
  { lexer with
    lexemes := lexer.lexemes.insertIdx (lexer.count - position) ⟨token, mark⟩
    count := lexer.count + 1 }

/-- A token that takes up the next `n` characters. -/
def take (lexer : Lexer) (n : Nat) (token : Token) : Lexer :=
  let lexer := lexer.emit token
  { lexer with cursor := lexer.cursor.advance n }

/-! ### Candidates -/

/-- The candidate of the current level. -/
def candidate? (lexer : Lexer) : Option Candidate :=
  (lexer.candidates.find? (·.1 == lexer.flowLevel)).map Prod.snd

/-- The state without the candidate of the current level. -/
def clearCandidate (lexer : Lexer) : Lexer :=
  { lexer with candidates := lexer.candidates.filter (·.1 != lexer.flowLevel) }

/-- A candidate is out of reach when its line has ended or it is too far back. -/
def isStale (lexer : Lexer) (candidate : Candidate) : Bool :=
  candidate.cursor.line != lexer.cursor.line ||
    candidate.cursor.index + 1024 < lexer.cursor.index

/-- The fault of a candidate that must be a key and is none. -/
def missingColon {α : Type} (candidate : Candidate) : Except Fault α :=
  candidate.cursor.fail "could not find expected ':'"

/-- The state without the candidates that are out of reach. -/
def dropStale (lexer : Lexer) : Except Fault Lexer :=
  match lexer.candidates.find? fun entry => lexer.isStale entry.2 && entry.2.required with
  | some (_, candidate) => missingColon candidate
  | none =>
    .ok { lexer with candidates := lexer.candidates.filter fun entry => !lexer.isStale entry.2 }

/-- The state in which what comes next is no key. -/
def dropCandidate (lexer : Lexer) : Except Fault Lexer :=
  match lexer.candidate? with
  | some candidate =>
    if candidate.required then missingColon candidate else .ok lexer.clearCandidate
  | none => .ok lexer

/-- The state in which what comes next may be a key, if a key is allowed here. -/
def saveCandidate (lexer : Lexer) : Except Fault Lexer := do
  if lexer.keyAllowed then
    let required := !lexer.inFlow && lexer.indent == lexer.column
    let lexer ← lexer.dropCandidate
    let candidate : Candidate := ⟨lexer.count, required, lexer.cursor⟩
    pure { lexer with candidates := (lexer.flowLevel, candidate) :: lexer.candidates }
  else pure lexer

/-- How many tokens can be told at the current position: those before the first candidate that is
still within reach. -/
def settled (lexer : Lexer) : Nat :=
  lexer.candidates.foldl
    (fun n entry => if lexer.isStale entry.2 then n else min n entry.2.position) lexer.count

/-! ### Indentation -/

/-- The ends of the block collections that are indented more than `column`. -/
def closeTo (column : Int) (lexer : Lexer) : Lexer :=
  let rec go (indent : Int) (outer : List Int) (lexer : Lexer) : Lexer :=
    if column < indent then
      match outer with
      | [] => { lexer with indent := -1, outerIndents := [] }
      | next :: outer => go next outer (lexer.emit .blockEnd)
    else { lexer with indent := indent, outerIndents := outer }
  if lexer.inFlow then lexer else go lexer.indent lexer.outerIndents lexer

/-- A block collection that starts at `column`, if it is indented more than those around it.  The
token stands in front of those from `position` on. -/
def openAt (column : Nat) (position : Nat) (token : Token) (mark : Mark) (lexer : Lexer) : Lexer :=
  if lexer.indent < column then
    let lexer := lexer.insert position token mark
    { lexer with indent := column, outerIndents := lexer.indent :: lexer.outerIndents }
  else lexer

/-- A block collection that starts at the current position. -/
def openHere (token : Token) (lexer : Lexer) : Lexer :=
  lexer.openAt lexer.cursor.column lexer.count token lexer.cursor.mark

/-! ### Steps -/

/-- The next token is not part of what is open: the end of the text, a directive or the bound of a
document. -/
def leave (lexer : Lexer) : Except Fault Lexer := do
  let lexer ← (lexer.closeTo (-1)).dropCandidate
  pure { lexer with keyAllowed := false }

/-- The state before the next token, past spaces, comments and empty lines.  After a line's end a
key may start.  `fuel` bounds the number of lines. -/
def toNextToken : Nat → Lexer → Lexer
  | 0, lexer => lexer
  | fuel + 1, lexer =>
    let cursor := (lexer.cursor.skip (· == ' ')).skipComment
    match cursor.lineBreak with
    | ([], _) => { lexer with cursor := cursor }
    | (_, after) =>
      toNextToken fuel
        { lexer with cursor := after, keyAllowed := lexer.keyAllowed || !lexer.inFlow }

/-- The start of a flow collection, which may be a key itself. -/
def openFlow (token : Token) (lexer : Lexer) : Except Fault Lexer := do
  let lexer ← lexer.saveCandidate
  pure ({ lexer with flowLevel := lexer.flowLevel + 1, keyAllowed := true }.take 1 token)

/-- The end of a flow collection. -/
def closeFlow (token : Token) (lexer : Lexer) : Except Fault Lexer := do
  if lexer.flowLevel = 0 then lexer.cursor.fail "found the end of a collection that is not open"
  let lexer ← lexer.dropCandidate
  pure ({ lexer with flowLevel := lexer.flowLevel - 1, keyAllowed := false }.take 1 token)

/-- The comma of a flow collection. -/
def flowEntry (lexer : Lexer) : Except Fault Lexer := do
  let lexer ← { lexer with keyAllowed := true }.dropCandidate
  pure (lexer.take 1 .flowEntry)

/-- The indicator of an item of a block sequence. -/
def blockEntry (lexer : Lexer) : Except Fault Lexer := do
  if !lexer.inFlow && !lexer.keyAllowed then
    lexer.cursor.fail "sequence entries are not allowed here"
  let lexer := if lexer.inFlow then lexer else lexer.openHere .blockSequenceStart
  let lexer ← { lexer with keyAllowed := true }.dropCandidate
  pure (lexer.take 1 .blockEntry)

/-- The indicator of a key. -/
def key (lexer : Lexer) : Except Fault Lexer := do
  if !lexer.inFlow && !lexer.keyAllowed then
    lexer.cursor.fail "mapping keys are not allowed here"
  let lexer := if lexer.inFlow then lexer else lexer.openHere .blockMappingStart
  let lexer ← { lexer with keyAllowed := !lexer.inFlow }.dropCandidate
  pure (lexer.take 1 .key)

/-- The indicator of a value.  It turns the candidate of its level into a key. -/
def value (lexer : Lexer) : Except Fault Lexer := do
  match lexer.candidate? with
  | some candidate =>
    let mark := candidate.cursor.mark
    let lexer := lexer.clearCandidate.insert candidate.position .key mark
    let lexer :=
      if lexer.inFlow then lexer
      else lexer.openAt candidate.cursor.column candidate.position .blockMappingStart mark
    pure ({ lexer with keyAllowed := false }.take 1 .value)
  | none =>
    if !lexer.inFlow && !lexer.keyAllowed then
      lexer.cursor.fail "mapping values are not allowed here"
    let lexer := if lexer.inFlow then lexer else lexer.openHere .blockMappingStart
    let lexer ← { lexer with keyAllowed := !lexer.inFlow }.dropCandidate
    pure (lexer.take 1 .value)

/-- A token that a reader finds at the current position. -/
def put (lexer : Lexer) (found : Token × Cursor) : Lexer :=
  { lexer.emit found.1 with cursor := found.2 }

/-- An anchor, alias, tag or quoted scalar, which may start a key. -/
def keyPart (read : Cursor → Except Fault (Token × Cursor)) (lexer : Lexer) :
    Except Fault Lexer := do
  let lexer ← lexer.saveCandidate
  let found ← read lexer.cursor
  pure ({ lexer with keyAllowed := false }.put found)

/-- A plain scalar, which may be a key. -/
def plain (lexer : Lexer) : Except Fault Lexer := do
  let lexer ← lexer.saveCandidate
  let (token, ended, after) := readPlain lexer.inFlow (lexer.indent + 1) lexer.cursor
  pure ({ lexer with keyAllowed := ended }.put (token, after))

/-- A block scalar, which is no key. -/
def blockScalar (folded : Bool) (lexer : Lexer) : Except Fault Lexer := do
  let lexer ← { lexer with keyAllowed := true }.dropCandidate
  pure (lexer.put (← readBlock folded lexer.indent lexer.cursor))

/-- The indicators that begin no plain scalar. -/
def isIndicator (c : Char) : Bool := "-?:,[]\x7b\x7d#&*!|>'\"%@\x60".toList.contains c

/-- A plain scalar may start at a cursor: with anything but a blank or an indicator, or with one of
three indicators if no blank follows. -/
def startsPlain (inFlow : Bool) (cursor : Cursor) : Bool :=
  let c := cursor.peek
  (!isBlankOrEnd c && !isIndicator c) ||
    (!isBlankOrEnd (cursor.look 1) && (c == '-' || (!inFlow && (c == '?' || c == ':'))))

/-- The token at the position, which is not the end of the text. -/
def token (lexer : Lexer) : Except Fault Lexer := do
  let cursor := lexer.cursor
  let spaced := isBlankOrEnd (cursor.look 1)
  let c := cursor.peek
  if c == '%' && cursor.column == 0 then
    let lexer ← lexer.leave
    pure (lexer.put (← readDirective cursor))
  else if cursor.column == 0 && cursor.atSeparator ['-', '-', '-'] then
    pure ((← lexer.leave).take 3 .documentStart)
  else if cursor.column == 0 && cursor.atSeparator ['.', '.', '.'] then
    pure ((← lexer.leave).take 3 .documentEnd)
  else if c == '[' then lexer.openFlow .flowSequenceStart
  else if c == '\x7b' then lexer.openFlow .flowMappingStart
  else if c == ']' then lexer.closeFlow .flowSequenceEnd
  else if c == '\x7d' then lexer.closeFlow .flowMappingEnd
  else if c == ',' then lexer.flowEntry
  else if c == '-' && spaced then lexer.blockEntry
  else if c == '?' && (lexer.inFlow || spaced) then lexer.key
  else if c == ':' && (lexer.inFlow || spaced) then lexer.value
  else if c == '*' then
    lexer.keyPart fun cursor => do
      let (name, after) ← readAnchorName cursor
      pure (.alias name, after)
  else if c == '&' then
    lexer.keyPart fun cursor => do
      let (name, after) ← readAnchorName cursor
      pure (.anchor name, after)
  else if c == '!' then lexer.keyPart readTag
  else if c == '|' && !lexer.inFlow then lexer.blockScalar false
  else if c == '>' && !lexer.inFlow then lexer.blockScalar true
  else if c == '\'' then lexer.keyPart (readQuoted false)
  else if c == '"' then lexer.keyPart (readQuoted true)
  else if startsPlain lexer.inFlow cursor then lexer.plain
  else cursor.fail "found a character that cannot start any token"

/-- The state after the next token, and whether that is the end of the text. -/
def next (lexer : Lexer) : Except Fault (Lexer × Bool) := do
  let lexer ← (lexer.toNextToken (lexer.cursor.left + 1)).dropStale
  let lexer := lexer.closeTo lexer.column
  if lexer.cursor.rest.isEmpty then
    let lexer ← lexer.leave
    pure (lexer.emit .streamEnd, true)
  else pure (← lexer.token, false)

end Lexer

/-! ### Streams -/

/-- **The tokens of a text**, up to its end, or those that are told before the first fault. -/
structure Stream where
  lexemes : List Lexeme
  fault : Option Fault
  deriving Repr

namespace Stream

/-- The tokens from a state on.  Each one takes up a character, so `fuel` is enough when it exceeds
the characters that remain. -/
def run : Nat → Lexer → Stream
  | 0, lexer => ⟨lexer.first lexer.count, none⟩
  | fuel + 1, lexer =>
    match lexer.next with
    | .error fault => ⟨lexer.first lexer.settled, some fault⟩
    | .ok (lexer, true) => ⟨lexer.first lexer.count, none⟩
    | .ok (lexer, false) => run fuel lexer

/-- The place of the first character that a document may not contain. -/
def forbidden? (cs : List Char) : Option Mark :=
  let before := cs.takeWhile isAllowed
  if before.length = cs.length then none
  else some ((Cursor.start cs).advance before.length).mark

/-- The tokens of a text.  A byte order mark at its start is passed over. -/
def ofText (text : String) : Stream :=
  let cs := text.toList
  match forbidden? cs with
  | some mark => ⟨[], some (.malformed "special characters are not allowed" mark)⟩
  | none =>
    let cursor := Cursor.start cs
    run (cs.length + 2) { cursor := if cursor.peek = '\ufeff' then cursor.step else cursor }

end Stream

end SchemaScribe.Yaml
