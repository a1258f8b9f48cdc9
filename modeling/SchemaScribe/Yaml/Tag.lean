import SchemaScribe.Text.Digit

/-!
# Tags

The tag of a node says what it stands for.  A plain scalar without a tag gets one from the form of
its text (`Tag.ofPlain`): words for null and truth values, integers, decimals, dates, and the two
marks that matter as keys.
-/

namespace SchemaScribe.Yaml

/-- **What a node stands for.** -/
inductive Tag where
  | null
  | bool
  | int
  | float
  | timestamp
  | binary
  | text
  | sequence
  | mapping
  | set
  | orderedMap
  | pairs
  /-- The key of a mapping that other mappings are merged into. -/
  | merge
  /-- The key of a mapping's default value. -/
  | default
  | other (name : String)
  deriving DecidableEq, Repr

namespace Tag

/-- The tags with a meaning, by their last part. -/
def names : List (String × Tag) := [
  ("null", .null), ("bool", .bool), ("int", .int), ("float", .float), ("timestamp", .timestamp),
  ("binary", .binary), ("str", .text), ("seq", .sequence), ("map", .mapping), ("set", .set),
  ("omap", .orderedMap), ("pairs", .pairs), ("merge", .merge), ("value", .default)]

/-- The beginning of the tags with a meaning. -/
def commonStart : String := "tag:yaml.org,2002:"

/-- The tag with a given full name. -/
def ofName (name : String) : Tag :=
  match names.find? fun entry => commonStart ++ entry.1 == name with
  | some (_, tag) => tag
  | none => .other name

/-- The tags of scalars. -/
def isScalar : Tag → Bool
  | .null | .bool | .int | .float | .timestamp | .binary | .text => true
  | _ => false

/-! ### Forms -/

/-- The words for truth values. -/
def boolWords : List Text := [
  "yes", "Yes", "YES", "no", "No", "NO", "true", "True", "TRUE", "false", "False", "FALSE", "on",
  "On", "ON", "off", "Off", "OFF"]

/-- The words for null. -/
def nullWords : List Text := ["~", "null", "Null", "NULL", ""]

/-- Text without a sign at its head. -/
def dropSign : List CodePoint → List CodePoint
  | '+' :: rest => rest
  | '-' :: rest => rest
  | cs => cs

/-- A digit of the base, or an underscore. -/
def isDigitOr (test : CodePoint → Bool) (c : CodePoint) : Bool := test c || c == '_'

/-- A digit from the first to the given last one. -/
def isDigitUpTo (last : CodePoint) (c : CodePoint) : Bool := '0' ≤ c && c ≤ last

/-- At least one character, and all of them satisfy a test. -/
def isRun (test : CodePoint → Bool) (cs : List CodePoint) : Bool := !cs.isEmpty && cs.all test

/-- One or two digits below sixty. -/
def isSixtieth : List CodePoint → Bool
  | [a] => a.isDigit
  | [a, b] => isDigitUpTo '5' a && b.isDigit
  | _ => false

/-- A text cut at each colon. -/
def splitColons (cs : List CodePoint) : List (List CodePoint) := cs.splitOn (.char ':')

/-- Groups of sixtieths, at least one. -/
def areSixtieths (groups : List (List CodePoint)) : Bool := !groups.isEmpty && groups.all isSixtieth

/-- A decimal digit, and then digits and underscores. -/
def isDigitRun : List CodePoint → Bool
  | [] => false
  | c :: rest => c.isDigit && rest.all (isDigitOr CodePoint.isDigit)

/-- Digits and underscores that begin with a digit other than zero. -/
def isCount : List CodePoint → Bool
  | [] => false
  | c :: rest => c.isDigit && c != '0' && rest.all (isDigitOr CodePoint.isDigit)

/-- The form of integers: with a mark for base two or sixteen, with a leading zero for base eight,
decimal, or in groups of sixtieths. -/
def isIntForm (cs : List CodePoint) : Bool :=
  match dropSign cs with
  | '0' :: 'b' :: digits => isRun (isDigitOr (isDigitUpTo '1')) digits
  | '0' :: 'x' :: digits => isRun (isDigitOr fun c => (Text.hexDigit? c).isSome) digits
  | ['0'] => true
  | '0' :: digits => isRun (isDigitOr (isDigitUpTo '7')) digits
  | unsigned =>
    match splitColons unsigned with
    | [] => false
    | [whole] => isCount whole
    | whole :: groups => isCount whole && areSixtieths groups

/-- An exponent with its sign, or nothing. -/
def isExponentForm : List CodePoint → Bool
  | [] => true
  | e :: sign :: digits =>
    (e == 'e' || e == 'E') && (sign == '+' || sign == '-') && isRun CodePoint.isDigit digits
  | _ => false

/-- Digits and underscores after a point, and then perhaps an exponent. -/
def isFractionForm (cs : List CodePoint) : Bool :=
  isExponentForm (cs.dropWhile (isDigitOr CodePoint.isDigit))

/-- The words for infinity after the point. -/
def infinityWords : List Text := ["inf", "Inf", "INF"]

/-- The words for `nan` with the point. -/
def nanWords : List Text := [".nan", ".NaN", ".NAN"]

/-- The form of decimals: with a point between digits, at their head or after groups of sixtieths,
or one of the words. -/
def isFloatForm (cs : List CodePoint) : Bool :=
  let unsigned := dropSign cs
  let whole := unsigned.takeWhile (· != .char '.')
  match unsigned.dropWhile (· != .char '.') with
  | [] => false
  | _ :: fraction =>
    if whole.isEmpty then
      infinityWords.contains (Text.ofList fraction) || nanWords.contains (Text.ofList cs) ||
        (unsigned == cs && fraction.head?.any CodePoint.isDigit && isFractionForm fraction)
    else
      match splitColons whole with
      | [] => false
      | [digits] => isDigitRun digits && isFractionForm fraction
      | digits :: groups =>
        isDigitRun digits && areSixtieths groups && fraction.all (isDigitOr CodePoint.isDigit)

end Tag

/-! ### Dates -/

/-- The parts of a written date, as digits. -/
structure TimestampParts where
  year : List CodePoint
  month : List CodePoint
  day : List CodePoint
  /-- Hour, minute, second and fraction. -/
  time : Option (List CodePoint × List CodePoint × List CodePoint × List CodePoint)
  /-- The offset: nothing, universal time, or a sign with hours and minutes. -/
  zone : Option (Option (Bool × List CodePoint × List CodePoint))
  deriving Repr

namespace TimestampParts

/-- A group of digits at the head: as many as there are up to `most`, and at least `least`. -/
def digits? (least most : Nat) (cs : List CodePoint) : Option (List CodePoint × List CodePoint) :=
  let found := (cs.take most).takeWhile CodePoint.isDigit
  if found.length < least then none else some (found, cs.drop found.length)

/-- The text after an expected character. -/
def expect? (c : CodePoint) : List CodePoint → Option (List CodePoint)
  | d :: rest => if d = c then some rest else none
  | [] => none

/-- The blanks within a date. -/
def isGap (c : CodePoint) : Bool := c == ' ' || c == '\t'

/-- The offset at the end of a text: blanks and then a letter, or a sign with hours and perhaps
minutes. -/
def zone? (cs : List CodePoint) :
    Option (Option (Option (Bool × List CodePoint × List CodePoint))) :=
  if cs.isEmpty then some none
  else
    match cs.dropWhile isGap with
    | ['Z'] => some (some none)
    | sign :: rest =>
      if sign = '+' ∨ sign = '-' then do
        let (hours, rest) ← digits? 1 2 rest
        match rest with
        | [] => pure (some (some (sign == '-', hours, [])))
        | _ => do
          let (minutes, rest) ← digits? 2 2 (← expect? ':' rest)
          if rest.isEmpty then pure (some (some (sign == '-', hours, minutes))) else none
      else none
    | [] => none

/-- The parts of a date, which may be followed by a time of day after a letter or blanks. -/
def of? (cs : List CodePoint) : Option TimestampParts := do
  let (year, rest) ← digits? 4 4 cs
  let (month, rest) ← digits? 1 2 (← expect? '-' rest)
  let (day, rest) ← digits? 1 2 (← expect? '-' rest)
  match rest with
  | [] => pure ⟨year, month, day, none, none⟩
  | c :: after => do
    let rest ←
      if c = 'T' ∨ c = 't' then some after
      else if isGap c then some (after.dropWhile isGap)
      else none
    let (hour, rest) ← digits? 1 2 rest
    let (minute, rest) ← digits? 2 2 (← expect? ':' rest)
    let (second, rest) ← digits? 2 2 (← expect? ':' rest)
    let (fraction, rest) :=
      match rest with
      | '.' :: rest => (rest.takeWhile CodePoint.isDigit, rest.dropWhile CodePoint.isDigit)
      | rest => ([], rest)
    let zone ← zone? rest
    pure ⟨year, month, day, some (hour, minute, second, fraction), zone⟩

/-- The form of plain scalars that are dates: without a time of day, month and day have two
digits. -/
def isPlainForm (parts : TimestampParts) : Bool :=
  parts.time.isSome || (parts.month.length == 2 && parts.day.length == 2)

end TimestampParts

namespace Tag

/-! ### Plain scalars -/

/-- The tag of a plain scalar with exactly the given text. -/
def ofForm (cs : List CodePoint) : Tag :=
  let text := Text.ofList cs
  if boolWords.contains text then .bool
  else if isFloatForm cs then .float
  else if isIntForm cs then .int
  else if text = "<<" then .merge
  else if nullWords.contains text then .null
  else if (TimestampParts.of? cs).any (·.isPlainForm) then .timestamp
  else if text = "=" then .default
  else if (["!", "&", "*"] : List Text).contains text then .other "tag:yaml.org,2002:yaml"
  else .text

/-- A text without a line feed at its end, if something is left. -/
def dropFinalBreak (cs : List CodePoint) : List CodePoint :=
  match cs.reverse with
  | '\n' :: c :: rest => (c :: rest).reverse
  | _ => cs

/-- **The tag of a plain scalar.**  A line feed at the end does not count. -/
def ofPlain (text : Text) : Tag := ofForm (dropFinalBreak text.toList)

end Tag

end SchemaScribe.Yaml
