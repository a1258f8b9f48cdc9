import SchemaScribe.Text.CodePoint
import SchemaScribe.Text.Ranges

/-!
# Blanks

The characters that count as empty space around a value, and the text that is left when they are
taken off both ends (`trim`).  A trimmed text begins and ends with something that is not blank
(`head_trimChars`), and a text of blanks alone is trimmed to nothing (`trimChars_eq_nil_iff`).
-/

namespace SchemaScribe.Text

/-- The blank characters as inclusive ranges: the white space of Unicode, and the four information
separators below the space. -/
def blankRanges : List (Nat × Nat) := [
  (0x9, 0xD), (0x1C, 0x20), (0x85, 0x85), (0xA0, 0xA0), (0x1680, 0x1680), (0x2000, 0x200A),
  (0x2028, 0x2029), (0x202F, 0x202F), (0x205F, 0x205F), (0x3000, 0x3000)]

/-- A character is blank when one of `blankRanges` holds it. -/
def isBlank (c : CodePoint) : Bool := inRanges c.toNat blankRanges

/-- A list of characters without the blanks at either end. -/
def trimChars (cs : List CodePoint) : List CodePoint :=
  ((cs.dropWhile isBlank).reverse.dropWhile isBlank).reverse

/-- A text without the blanks at either end. -/
def trim (text : Text) : Text := Text.ofList (trimChars text.toList)

/-- Dropping what satisfies a test leaves nothing exactly when everything satisfies it. -/
theorem dropWhile_eq_nil {test : CodePoint → Bool} {cs : List CodePoint} :
    cs.dropWhile test = [] ↔ ∀ c ∈ cs, test c := by
  induction cs with
  | nil => simp
  | cons c r ih => by_cases h : test c <;> simp [h, ih]

/-- What is left after dropping begins with something that fails the test. -/
theorem not_of_dropWhile_eq_cons {test : CodePoint → Bool} {cs r : List CodePoint} {c : CodePoint}
    (h : cs.dropWhile test = c :: r) : ¬ test c := by
  induction cs with
  | nil => simp at h
  | cons d s ih =>
    by_cases hd : test d
    · exact ih (by simpa [List.dropWhile_cons, hd] using h)
    · simp only [List.dropWhile_cons, hd, Bool.false_eq_true, if_false, List.cons.injEq] at h
      exact h.1 ▸ hd

/-- **A trimmed text begins with something that is not blank.** -/
theorem head_trimChars {cs r : List CodePoint} {c : CodePoint} (h : trimChars cs = c :: r) :
    ¬ isBlank c := by
  have hp : trimChars cs <+: cs.dropWhile isBlank := by
    have := List.reverse_prefix.2
      (List.dropWhile_suffix isBlank (l := (cs.dropWhile isBlank).reverse))
    rwa [List.reverse_reverse] at this
  obtain ⟨t, ht⟩ := h ▸ hp
  exact not_of_dropWhile_eq_cons ht.symm

/-- **Only blanks trim to nothing.** -/
theorem trimChars_eq_nil_iff {cs : List CodePoint} : trimChars cs = [] ↔ ∀ c ∈ cs, isBlank c := by
  rw [trimChars, List.reverse_eq_nil_iff, dropWhile_eq_nil]
  simp only [List.mem_reverse]
  constructor
  · intro h
    rcases hcs : cs.dropWhile isBlank with _ | ⟨d, r⟩
    · exact dropWhile_eq_nil.1 hcs
    · exact absurd (h d (by simp [hcs])) (not_of_dropWhile_eq_cons hcs)
  · intro h c hc
    exact h c ((List.dropWhile_sublist _).mem hc)

end SchemaScribe.Text
