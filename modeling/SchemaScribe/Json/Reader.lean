import SchemaScribe.Json.Value
import SchemaScribe.Number.Numeral

/-!
# Reading values

`Json.read` reads one value from a text, with blanks around it and nothing else.  The reader walks a
list of characters; a fault counts the characters that remain from its place on, and only the
outermost function turns that into a line and a column.

A reader of a part gives what it read and the characters after it.

Strings must be on one line, an escape needs all of its digits, and two escapes that form a
surrogate pair are one character.  A number is an integer unless it has a fraction or an exponent;
what cannot belong to a number any more is left for what follows it.  The words for the values that
are no numbers are recognised and refused.
-/

namespace SchemaScribe.Json

/-! ### Faults -/

/-- What is wrong at a place of the text. -/
inductive Problem where
  | byteOrderMark
  | extraData
  | value
  | propertyName
  | colon
  | comma
  | unterminated
  | controlCharacter
  | escape
  | unicodeEscape
  deriving DecidableEq, Repr

/-- The wording of a problem. -/
def Problem.message : Problem → Text
  | .byteOrderMark => "Unexpected UTF-8 BOM (decode using utf-8-sig)"
  | .extraData => "Extra data"
  | .value => "Expecting value"
  | .propertyName => "Expecting property name enclosed in double quotes"
  | .colon => "Expecting ':' delimiter"
  | .comma => "Expecting ',' delimiter"
  | .unterminated => "Unterminated string starting at"
  | .controlCharacter => "Invalid control character at"
  | .escape => "Invalid \\escape"
  | .unicodeEscape => "Invalid \\uXXXX escape"

/-- **Why reading fails**: a problem at a place, given by the number of characters that remain
there, a word for a value that is no number, or an integer with too many digits. -/
inductive Fault where
  | malformed (problem : Problem) (remaining : Nat)
  | nonFinite (token : Text)
  | tooLong (digits : Nat)
  deriving DecidableEq, Repr

/-- The fault at the place where `rest` remains. -/
def failAt {α : Type} (problem : Problem) (rest : List CodePoint) : Except Fault α :=
  .error (.malformed problem rest.length)

/-! ### Blanks and words -/

/-- The blanks between tokens. -/
def isSpace (c : CodePoint) : Bool := c == ' ' || c == '\t' || c == '\n' || c == '\r'

/-- The text after the blanks at its head. -/
def skipSpace (cs : List CodePoint) : List CodePoint := cs.dropWhile isSpace

/-- The text after a word at its head. -/
def afterWord? : List CodePoint → List CodePoint → Option (List CodePoint)
  | [], cs => some cs
  | w :: word, c :: cs => if w = c then afterWord? word cs else none
  | _ :: _, [] => none

/-! ### Strings -/

/-- The number that four hexadecimal digits at the head write, and what follows.  Something has to
follow, since the string is still open. -/
def readHex? : List CodePoint → Option (Nat × List CodePoint)
  | a :: b :: c :: d :: e :: rest => do
    let w ← Text.hexDigit? a
    let x ← Text.hexDigit? b
    let y ← Text.hexDigit? c
    let z ← Text.hexDigit? d
    pure (((w * 16 + x) * 16 + y) * 16 + z, e :: rest)
  | _ => none

/-- The first half of a surrogate pair. -/
def isHighSurrogate (code : Nat) : Bool := 0xD800 ≤ code && code < 0xDC00

/-- The second half of a surrogate pair. -/
def isLowSurrogate (code : Nat) : Bool := 0xDC00 ≤ code && code < 0xE000

/-- The character of a surrogate pair. -/
def joinSurrogates (high low : Nat) : CodePoint :=
  CodePoint.ofNat (0x10000 + (high - 0xD800) * 0x400 + (low - 0xDC00))

/-- The escape for a code unit after its `u`, joined with a second one if the two form a pair. -/
def readUnicodeEscape (cs : List CodePoint) : Except Fault (CodePoint × List CodePoint) :=
  match readHex? cs with
  | none => .error (.malformed .unicodeEscape (cs.length + 1))
  | some (code, '\\' :: 'u' :: more) =>
    if isHighSurrogate code && 4 < more.length then
      match readHex? more with
      | none => .error (.malformed .unicodeEscape (more.length + 1))
      | some (low, rest) =>
        if isLowSurrogate low then .ok (joinSurrogates code low, rest)
        else .ok (CodePoint.ofNat code, '\\' :: 'u' :: more)
    else .ok (CodePoint.ofNat code, '\\' :: 'u' :: more)
  | some (code, rest) => .ok (CodePoint.ofNat code, rest)

/-- The escapes of one letter. -/
def shortEscape? : CodePoint → Option CodePoint
  | '"' => some '"'
  | '\\' => some '\\'
  | '/' => some '/'
  | 'b' => some '\x08'
  | 'f' => some '\x0c'
  | 'n' => some '\n'
  | 'r' => some '\r'
  | 't' => some '\t'
  | _ => none

/-- The characters of a string up to its closing quote.  `start` is the text from the opening quote
on; `fuel` bounds the characters of the string. -/
def readStringBody (start : List CodePoint) :
    Nat → List CodePoint → Except Fault (List CodePoint × List CodePoint)
  | 0, _ => failAt .unterminated start
  | _ + 1, [] => failAt .unterminated start
  | fuel + 1, c :: cs =>
    if c = '"' then .ok ([], cs)
    else if c = '\\' then
      match cs with
      | [] => failAt .unterminated start
      | 'u' :: rest => do
        let (decoded, rest) ← readUnicodeEscape rest
        let (more, rest) ← readStringBody start fuel rest
        pure (decoded :: more, rest)
      | d :: rest =>
        match shortEscape? d with
        | none => failAt .escape (c :: cs)
        | some decoded => do
          let (more, rest) ← readStringBody start fuel rest
          pure (decoded :: more, rest)
    else if c.toNat < 0x20 then failAt .controlCharacter (c :: cs)
    else do
      let (more, rest) ← readStringBody start fuel cs
      pure (c :: more, rest)

/-- A string after its opening quote.  `fuel` bounds its characters. -/
def readString (fuel : Nat) (cs : List CodePoint) : Except Fault (Text × List CodePoint) := do
  let (body, rest) ← readStringBody ('"' :: cs) fuel cs
  pure (Text.ofList body, rest)

/-! ### Numbers -/

/-- The whole part of a number: a zero alone, or digits that do not begin with one. -/
def splitWhole? : List CodePoint → Option (List CodePoint × List CodePoint)
  | [] => none
  | c :: cs =>
    if c = '0' then some ([c], cs)
    else if c.isDigit then
      some (c :: cs.takeWhile CodePoint.isDigit, cs.dropWhile CodePoint.isDigit)
    else none

/-- The fraction of a number: a point and at least one digit, of which the digits are kept. -/
def splitFraction? : List CodePoint → Option (List CodePoint × List CodePoint)
  | '.' :: cs =>
    let digits := cs.takeWhile CodePoint.isDigit
    if digits.isEmpty then none else some (digits, cs.dropWhile CodePoint.isDigit)
  | _ => none

/-- The exponent of a number: a letter, an optional sign and at least one digit. -/
def splitExponent? : List CodePoint → Option (Int × List CodePoint)
  | [] => none
  | c :: cs =>
    if c = 'e' ∨ c = 'E' then
      let (negative, rest) := Numeral.splitSign cs
      let digits := rest.takeWhile CodePoint.isDigit
      if digits.isEmpty then none
      else
        let n := Text.ofDigits 10 (digits.filterMap Text.asciiDigit?)
        some (if negative then -(n : Int) else n, rest.dropWhile CodePoint.isDigit)
    else none

/-- The integer with the given digits, unless there are too many. -/
def readWhole (negative : Bool) (digits : List CodePoint) : Except Fault Json :=
  if Numeral.digitLimit < digits.length then .error (.tooLong digits.length)
  else
    let n := Text.ofDigits 10 (digits.filterMap Text.asciiDigit?)
    .ok (.int (if negative then -(n : Int) else n))

/-- A number without its sign.  `start` is the text from the sign on. -/
def readUnsigned (negative : Bool) (start cs : List CodePoint) :
    Except Fault (Json × List CodePoint) :=
  match splitWhole? cs with
  | none => failAt .value start
  | some (whole, afterWhole) =>
    let fraction := splitFraction? afterWhole
    let afterFraction := (fraction.map Prod.snd).getD afterWhole
    let exponent := splitExponent? afterFraction
    let rest := (exponent.map Prod.snd).getD afterFraction
    if fraction.isNone && exponent.isNone then do
      let n ← readWhole negative whole
      pure (n, rest)
    else
      let places := (fraction.map Prod.fst).getD []
      let digits := Text.ofDigits 10 ((whole ++ places).filterMap Text.asciiDigit?)
      let shift := (exponent.map Prod.fst).getD 0
      .ok (.float (Binary64.ofDecimal negative digits (shift - places.length)), rest)

/-- A number at the head of the text. -/
def readNumber (cs : List CodePoint) : Except Fault (Json × List CodePoint) :=
  match cs with
  | '-' :: rest => readUnsigned true cs rest
  | _ => readUnsigned false cs cs

/-! ### Values -/

/-- The words that stand for a value. -/
def readConstant? (cs : List CodePoint) : Option (Json × List CodePoint) :=
  ((afterWord? (Text.toList "null") cs).map (Json.null, ·)).orElse fun _ =>
  ((afterWord? (Text.toList "true") cs).map (Json.bool true, ·)).orElse fun _ =>
  (afterWord? (Text.toList "false") cs).map (Json.bool false, ·)

/-- The words for values that are no numbers. -/
def nonFiniteWords : List Text := ["NaN", "Infinity", "-Infinity"]

/-- A value that is neither an array nor an object.  `fuel` bounds its characters. -/
def readScalar (fuel : Nat) (cs : List CodePoint) : Except Fault (Json × List CodePoint) :=
  match cs with
  | '"' :: rest => do
    let (text, rest) ← readString fuel rest
    pure (.string text, rest)
  | _ =>
    match readConstant? cs with
    | some found => .ok found
    | none =>
      match nonFiniteWords.find? fun word => (afterWord? word.toList cs).isSome with
      | some word => .error (.nonFinite word)
      | none => readNumber cs

/-- The key of a member, its colon and the blanks around it.  `fuel` bounds its characters. -/
def readKey (fuel : Nat) (cs : List CodePoint) : Except Fault (Text × List CodePoint) :=
  match cs with
  | '"' :: rest => do
    let (key, rest) ← readString fuel rest
    match skipSpace rest with
    | ':' :: rest => pure (key, skipSpace rest)
    | rest => failAt .colon rest
  | _ => failAt .propertyName cs

mutual

/-- A value at the head of the text.  `fuel` bounds the characters that it spans. -/
def readValue : Nat → List CodePoint → Except Fault (Json × List CodePoint)
  | 0, cs => failAt .value cs
  | fuel + 1, cs =>
    match cs with
    | '[' :: rest =>
      match skipSpace rest with
      | ']' :: rest => .ok (.array [], rest)
      | rest => do
        let (items, rest) ← readItems fuel rest
        pure (.array items, rest)
    | '\x7b' :: rest =>
      match skipSpace rest with
      | '\x7d' :: rest => .ok (.object [], rest)
      | rest => do
        let (members, rest) ← readMembers fuel [] rest
        pure (.object members, rest)
    | cs => readScalar fuel cs

/-- The items of an array from the first one on, and the closing bracket. -/
def readItems : Nat → List CodePoint → Except Fault (List Json × List CodePoint)
  | 0, cs => failAt .value cs
  | fuel + 1, cs => do
    let (item, rest) ← readValue fuel cs
    match skipSpace rest with
    | ']' :: rest => pure ([item], rest)
    | ',' :: rest => do
      let (items, rest) ← readItems fuel (skipSpace rest)
      pure (item :: items, rest)
    | rest => failAt .comma rest

/-- The members of an object from the next one on, and the closing brace.  `members` holds those
already read: a key that comes again keeps its place and takes the later value. -/
def readMembers :
    Nat → List (Text × Json) → List CodePoint → Except Fault (List (Text × Json) × List CodePoint)
  | 0, _, cs => failAt .value cs
  | fuel + 1, members, cs => do
    let (key, rest) ← readKey fuel cs
    let (value, rest) ← readValue fuel rest
    let members := Association.put key value members
    match skipSpace rest with
    | '\x7d' :: rest => pure (members, rest)
    | ',' :: rest => readMembers fuel members (skipSpace rest)
    | rest => failAt .comma rest

end

/-- A whole text: one value between blanks. -/
def readDocument (cs : List CodePoint) : Except Fault Json :=
  match cs with
  | '\uFEFF' :: _ => failAt .byteOrderMark cs
  | _ => do
    let (value, rest) ← readValue (2 * cs.length + 2) (skipSpace cs)
    match skipSpace rest with
    | [] => pure value
    | rest => failAt .extraData rest

/-! ### Places -/

/-- **A place in a text**: lines and columns count from one, the offset from zero. -/
structure Place where
  line : Nat
  column : Nat
  offset : Nat
  deriving DecidableEq, Repr

/-- The place that the characters `before` lead to. -/
def Place.after (before : List CodePoint) : Place :=
  ⟨before.count (.char '\n') + 1, (before.reverse.takeWhile (· != .char '\n')).length + 1,
    before.length⟩

/-- The wording of a place. -/
def Place.message (place : Place) : Text :=
  "line " ++ toString place.line ++ " column " ++ toString place.column ++ " (char " ++
    toString place.offset ++ ")"

/-- A fault of a text, with its place worked out. -/
inductive ReadError where
  | malformed (problem : Problem) (place : Place)
  | nonFinite (token : Text)
  | tooLong (digits : Nat)
  deriving DecidableEq, Repr

/-- The place of a fault in the text it was found in. -/
def Fault.locate (cs : List CodePoint) : Fault → ReadError
  | .malformed problem remaining =>
    .malformed problem (.after (cs.take (cs.length - remaining)))
  | .nonFinite token => .nonFinite token
  | .tooLong digits => .tooLong digits

/-- **A text read as one value.** -/
def read (text : Text) : Except ReadError Json :=
  (readDocument text.toList).mapError (Fault.locate text.toList)

end SchemaScribe.Json
