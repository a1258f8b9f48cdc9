import SchemaScribe.Json.Quoted
import SchemaScribe.Text.Case

/-!
# Names in type definitions

The name of a record type is the name of its collection in Pascal case (`pascalCase`).  The name of
a member stands bare if it is a plain identifier and as a string literal if it is not
(`memberIdentifier`).
-/

namespace SchemaScribe.Typing

/-! ### Pascal case -/

/-- The characters that separate the words of a name. -/
def isSeparator (c : CodePoint) : Bool := c == ' ' || c == '_' || c == '-'

/-- A name in Pascal case.  `atStart` says whether the next character starts a word: then it is
written in upper case, and every other one stays as it is. -/
def pascalChars (atStart : Bool) : List CodePoint → List CodePoint
  | [] => []
  | c :: rest =>
    if isSeparator c then pascalChars true rest
    else (if atStart then Text.upperChar c else [c]) ++ pascalChars false rest

/-- **A name in Pascal case**: its words without the separators, each with a capital. -/
def pascalCase (name : Text) : Text := Text.ofList (pascalChars true name.toList)

/-- After a separator a name goes on as it would begin. -/
theorem pascalChars_append_separator {s : CodePoint} (hs : isSeparator s) (atStart : Bool)
    (a b : List CodePoint) :
    pascalChars atStart (a ++ s :: b) = pascalChars atStart a ++ pascalChars true b := by
  induction a generalizing atStart with
  | nil => simp [pascalChars, hs]
  | cons c r ih => by_cases hc : isSeparator c <;> simp [pascalChars, hc, ih]

/-! ### Member names -/

/-- The characters that may start a plain identifier. -/
def isIdentifierStart (c : CodePoint) : Bool := c.isAlpha || c == '_' || c == '$'

/-- The characters that may go on in a plain identifier. -/
def isIdentifierPart (c : CodePoint) : Bool := isIdentifierStart c || c.isDigit

/-- **A plain identifier**: ASCII letters, digits, underscores and dollar signs, with no digit
first. -/
def isPlainIdentifier : List CodePoint → Bool
  | [] => false
  | c :: rest => isIdentifierStart c && rest.all isIdentifierPart

/-- A character that a plain name may begin with. -/
def IsNameStart (c : CodePoint) : Prop :=
  ('a' ≤ c ∧ c ≤ 'z') ∨ ('A' ≤ c ∧ c ≤ 'Z') ∨ c = '_' ∨ c = '$'

/-- **A plain name**: letters of ASCII, digits, underscores and dollar signs, with no digit
first. -/
def IsPlainName (name : Text) : Prop :=
  ∃ c rest, name.toList = c :: rest ∧ IsNameStart c ∧
    ∀ d ∈ rest, IsNameStart d ∨ ('0' ≤ d ∧ d ≤ '9')

theorem isNameStart_iff {c : CodePoint} : IsNameStart c ↔ isIdentifierStart c = true := by
  simp only [isIdentifierStart, CodePoint.isAlpha, CodePoint.isUpper, CodePoint.isLower,
    Bool.or_eq_true, Bool.and_eq_true, decide_eq_true_eq, beq_iff_eq, IsNameStart, CodePoint.le_def]
  rw [or_left_comm, or_assoc, or_assoc]

theorem isDigit_iff {c : CodePoint} : ('0' ≤ c ∧ c ≤ '9') ↔ c.isDigit = true := by
  simp only [CodePoint.isDigit, Bool.and_eq_true, decide_eq_true_eq, CodePoint.le_def]

/-- Plain identifiers are the plain names. -/
theorem isPlainName_iff {name : Text} :
    IsPlainName name ↔ isPlainIdentifier name.toList = true := by
  rw [IsPlainName]
  cases name.toList with
  | nil => simp [isPlainIdentifier]
  | cons c rest =>
    simp only [List.cons.injEq, isPlainIdentifier, isIdentifierPart, Bool.and_eq_true,
      List.all_eq_true, Bool.or_eq_true, ← isNameStart_iff, ← isDigit_iff]
    constructor
    · rintro ⟨_, _, ⟨rfl, rfl⟩, h⟩
      exact h
    · exact fun h => ⟨c, rest, ⟨rfl, rfl⟩, h⟩

/-- **The name of a member**, in quotes unless it is a plain identifier. -/
def memberIdentifier (name : Text) : Text :=
  if isPlainIdentifier name.toList then name else Json.quote name

end SchemaScribe.Typing
