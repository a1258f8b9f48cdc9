import SchemaScribe.Proofs.Json.Assembled
import SchemaScribe.Proofs.Json.WrittenNumber

/-!
# Scalars with separators between them

A text that is put together from texts of scalars, with a separator between them that begins with a
blank, is put together in no other way from texts that can be read (`eq_of_intercalate_eq`): how
far the first scalar goes is decided by the reader, which takes no notice of what stands behind the
blank.  That a string may hold the separator does no harm, since its end is its closing quote.
-/

namespace SchemaScribe.Json

/-! ### Texts of scalars -/

/-- What a document may begin with, apart from a scalar. -/
def otherStarts : List CodePoint := [' ', '\t', '\n', '\r', '[', .char '\x7b', .char '\uFEFF']

/-- A text that begins a scalar, if it is a document. -/
def StartsScalar (cs : List CodePoint) : Prop := ∃ c rest, cs = c :: rest ∧ c ∉ otherStarts

/-- **A text that is a scalar** from its first character to its last. -/
structure IsScalarText (cs : List CodePoint) (value : Json) : Prop where
  starts : StartsScalar cs
  read : ∀ fuel, cs.length ≤ fuel → readScalar fuel cs = .ok (value, [])

variable {cs part rest : List CodePoint} {value found : Json}

theorem StartsScalar.readValue_eq (h : StartsScalar cs) (fuel : Nat) :
    readValue (fuel + 1) cs = readScalar fuel cs := by
  obtain ⟨c, rest, rfl, hc⟩ := h
  apply readValue_scalar
  · rintro rfl
    exact hc (by decide)
  · rintro rfl
    exact hc (by decide)

theorem isSpace_eq_false {c : CodePoint} (h : c ∉ otherStarts) : isSpace c = false := by
  simp only [otherStarts, List.mem_cons, not_or] at h
  simp [isSpace, h.1, h.2.1, h.2.2.1, h.2.2.2.1]

/-- The text of a scalar is read as it. -/
theorem IsScalarText.readDocument_eq (h : IsScalarText cs value) :
    readDocument cs = .ok value := by
  have hvalue := h.starts.readValue_eq (2 * cs.length + 1)
  rw [h.read _ (by omega)] at hvalue
  obtain ⟨c, rest, rfl, hc⟩ := h.starts
  refine readDocument_of_readValue (isSpace_eq_false hc) ?_ hvalue
  rintro rfl
  exact hc (by decide)

theorem IsScalarText.read_eq {text : Text} (h : IsScalarText text.toList value) :
    Json.read text = .ok value := by
  rw [Json.read, h.readDocument_eq]
  rfl

/-- What begins with a scalar and can be read is the scalar and blanks behind it. -/
theorem StartsScalar.exists_rest (h : StartsScalar cs) (hread : readDocument cs = .ok value) :
    ∃ rest, readScalar (2 * cs.length + 1) cs = .ok (value, rest) ∧ skipSpace rest = [] := by
  obtain ⟨rest, hvalue, hrest⟩ := exists_rest_of_readDocument hread
  have hskip : skipSpace cs = cs := by
    obtain ⟨c, more, rfl, hc⟩ := h
    exact List.dropWhile_cons_of_neg (by simp [isSpace_eq_false hc])
  rw [hskip, h.readValue_eq] at hvalue
  exact ⟨rest, hvalue, hrest⟩

theorem ne_nil_of_readDocument (h : readDocument cs = .ok value) : cs ≠ [] := by
  rintro rfl
  cases h

/-! ### Words and strings -/

theorem isScalarText_null : IsScalarText (Text.toList "null") .null where
  starts := ⟨'n', _, rfl, by decide⟩
  read _ _ := rfl

theorem isScalarText_true : IsScalarText (Text.toList "true") (.bool true) where
  starts := ⟨'t', _, rfl, by decide⟩
  read _ _ := rfl

theorem isScalarText_false : IsScalarText (Text.toList "false") (.bool false) where
  starts := ⟨'f', _, rfl, by decide⟩
  read _ _ := rfl

theorem isScalarText_quote (text : Text) : IsScalarText (quote text).toList (.string text) := by
  have hlength := length_le_length_escape text.toList
  rw [toList_quote]
  refine ⟨⟨'"', _, rfl, by decide⟩, fun fuel hf => ?_⟩
  rw [List.length_cons, List.length_append, List.length_singleton] at hf
  rw [readScalar, readString_escape text (by omega)]
  rfl

/-- A numeral is the text of the number that it is read as. -/
theorem isScalarText_of_readNumber (hread : readNumber cs = .ok (value, [])) :
    IsScalarText cs value where
  starts := by
    have h := isNumeral_of_readNumber hread
    cases cs with
    | nil => cases h
    | cons c cs =>
      refine ⟨c, cs, rfl, fun hc => ?_⟩
      have hother : ∀ c ∈ otherStarts, c ≠ '-' ∧ c.isDigit = false := by
        simp only [otherStarts, List.forall_mem_cons]
        decide
      rcases eq_minus_or_isDigit_of_isNumeral h with hminus | hdigit
      · exact (hother c hc).1 hminus
      · rw [(hother c hc).2] at hdigit
        cases hdigit
  read fuel _ := by
    have hstarts := startsNumber_of_isNumeral (isNumeral_of_readNumber hread)
    rw [hstarts.readScalar_eq, hread]

/-! ### What stands behind a scalar -/

variable {mark : CodePoint} {behind : List CodePoint}

/-- What stands behind a part of a text: nothing, or a separator that begins with a blank and a
`mark`. -/
def Follows (mark : CodePoint) (behind : List CodePoint) : Prop :=
  behind = [] ∨ ∃ rest, behind = .char ' ' :: mark :: rest

/-- **A scalar ends where a separator follows.** -/
theorem IsScalarText.readScalar_append (h : IsScalarText cs value) (hbehind : Follows mark behind)
    {fuel : Nat} (hf : cs.length ≤ fuel) :
    readScalar fuel (cs ++ behind) = .ok (value, behind) := by
  rcases hbehind with rfl | ⟨rest, rfl⟩
  · rw [List.append_nil]
    exact h.read fuel hf
  · have hgoes :=
      goesOn_readScalar (List.mem_cons_self : .char ' ' ∈ scalarEnds) (mark :: rest) fuel 0 cs
    exact hgoes.read value [] (h.read fuel hf)

/-- A part that can be read is read in its place, with as much fuel as is asked for. -/
theorem StartsScalar.readScalar_append (h : StartsScalar part)
    (hread : readDocument part = .ok found) (hbehind : Follows mark behind) {least : Nat}
    (hleast : least ≤ (part ++ behind).length) :
    ∃ fuel rest, least ≤ fuel ∧ skipSpace rest = [] ∧
      readScalar fuel (part ++ behind) = .ok (found, rest ++ behind) := by
  obtain ⟨rest, hscalar, hrest⟩ := h.exists_rest hread
  rcases hbehind with rfl | ⟨more, rfl⟩
  · rw [List.append_nil] at hleast ⊢
    exact ⟨2 * part.length + 1, rest, by omega, hrest, by rw [List.append_nil, hscalar]⟩
  · have hgoes := goesOn_readScalar (List.mem_cons_self : .char ' ' ∈ scalarEnds) (mark :: more)
      (2 * part.length + 1) least part
    exact ⟨2 * part.length + 1 + least, rest, by omega, hrest, hgoes.read found rest hscalar⟩

/-- No blanks fit in front of what follows a scalar. -/
theorem eq_nil_of_append_follows (hmark : isSpace mark = false) (hrest : skipSpace rest = [])
    {more : List CodePoint} (hbehind : Follows mark behind) (hmore : Follows mark more)
    (h : rest ++ more = behind) : rest = [] := by
  have hspaces : ∀ c ∈ rest, isSpace c = true := List.dropWhile_eq_nil_iff.1 hrest
  have hmarknot : mark ∉ rest := by
    intro hmem
    rw [hspaces mark hmem] at hmark
    cases hmark
  rcases rest with _ | ⟨c, _ | ⟨d, rest⟩⟩
  · rfl
  -- the mark would begin what follows the blank
  · rcases hbehind with rfl | ⟨next, rfl⟩
    · cases h
    · rcases hmore with rfl | ⟨after, rfl⟩
      · cases h
      · obtain ⟨-, h⟩ := List.cons.inj h
        obtain ⟨rfl, -⟩ := List.cons.inj h
        cases hmark
  · rcases hbehind with rfl | ⟨next, rfl⟩
    · cases h
    · obtain ⟨-, h⟩ := List.cons.inj h
      obtain ⟨rfl, -⟩ := List.cons.inj h
      exact absurd (List.mem_cons_of_mem _ List.mem_cons_self) hmarknot

/-- **The first of two parts is told from what follows it.** -/
theorem IsScalarText.append_inj (hmark : isSpace mark = false) (h : IsScalarText cs value)
    (hread : readDocument part = .ok found) {more : List CodePoint} (hbehind : Follows mark behind)
    (hmore : Follows mark more) (heq : part ++ more = cs ++ behind) :
    part = cs ∧ more = behind := by
  have hstarts : StartsScalar part := by
    obtain ⟨c, rest, rfl, hc⟩ := h.starts
    cases part with
    | nil => exact absurd rfl (ne_nil_of_readDocument hread)
    | cons d part => exact ⟨d, part, rfl, (List.cons.inj heq).1 ▸ hc⟩
  have hlength : cs.length ≤ (part ++ more).length := by
    rw [heq, List.length_append]
    omega
  obtain ⟨fuel, rest, hfuel, hrest, hpart⟩ := hstarts.readScalar_append hread hmore hlength
  -- both are read at the head of one text, so the same remains
  rw [heq, h.readScalar_append hbehind hfuel] at hpart
  have hremains : rest ++ more = behind := (Prod.mk.inj (Except.ok.inj hpart)).2.symm
  obtain rfl := eq_nil_of_append_follows hmark hrest hbehind hmore hremains
  rw [List.nil_append] at hremains
  exact ⟨List.append_cancel_right (hremains ▸ heq), hremains⟩

/-! ### Separated scalars -/

variable {after : List CodePoint} {parts texts : List (List CodePoint)}

theorem follows_flatMap (texts : List (List CodePoint)) :
    Follows mark (texts.flatMap ((.char ' ' :: mark :: after) ++ ·)) := by
  cases texts with
  | nil => exact Or.inl rfl
  | cons cs texts => exact Or.inr ⟨_, rfl⟩

/-- Texts of scalars with a separator in front of each are told apart, by induction on them. -/
theorem eq_of_flatMap_eq (hmark : isSpace mark = false)
    (htexts : ∀ cs ∈ texts, ∃ value, IsScalarText cs value)
    (hparts : ∀ part ∈ parts, ∃ found, readDocument part = .ok found)
    (h : parts.flatMap ((.char ' ' :: mark :: after) ++ ·) =
      texts.flatMap ((.char ' ' :: mark :: after) ++ ·)) : parts = texts := by
  induction texts generalizing parts with
  | nil =>
    cases parts with
    | nil => rfl
    | cons part parts => cases h
  | cons cs texts ih =>
    cases parts with
    | nil => cases h
    | cons part parts =>
      rw [List.forall_mem_cons] at htexts hparts
      obtain ⟨value, htext⟩ := htexts.1
      obtain ⟨found, hpart⟩ := hparts.1
      rw [List.flatMap_cons, List.flatMap_cons, List.append_assoc, List.append_assoc] at h
      -- a scalar ends where the blank of the next separator stands
      obtain ⟨rfl, hrest⟩ := htext.append_inj hmark hpart (follows_flatMap texts)
        (follows_flatMap parts) (List.append_cancel_left h)
      rw [ih htexts.2 hparts.2 hrest]

/-- Separators between texts are separators in front of them, but for the first. -/
theorem append_intercalate {separator first : List CodePoint} (rest : List (List CodePoint)) :
    separator ++ separator.intercalate (first :: rest) =
      (first :: rest).flatMap (separator ++ ·) := by
  induction rest generalizing first with
  | nil => simp
  | cons second rest ih =>
    rw [List.intercalate_cons_cons, List.append_assoc, ih, ← List.append_assoc]
    rfl

/-- **Separated scalars are told apart**, whatever texts that can be read they are compared with. -/
theorem eq_of_intercalate_eq (hmark : isSpace mark = false)
    (htexts : ∀ cs ∈ texts, ∃ value, IsScalarText cs value)
    (hparts : ∀ part ∈ parts, ∃ found, readDocument part = .ok found)
    (h : (.char ' ' :: mark :: after).intercalate parts =
      (.char ' ' :: mark :: after).intercalate texts) :
    parts = texts := by
  have hne : ∀ (first : List CodePoint) (rest : List (List CodePoint)), first ≠ [] →
      (.char ' ' :: mark :: after).intercalate (first :: rest) ≠ [] := by
    intro first rest hfirst
    cases rest with
    | nil => simpa using hfirst
    | cons second rest => simp
  cases texts with
  | nil =>
    cases parts with
    | nil => rfl
    | cons part parts =>
      obtain ⟨found, hread⟩ := hparts part List.mem_cons_self
      exact absurd h (hne _ _ (ne_nil_of_readDocument hread))
  | cons cs texts =>
    obtain ⟨value, htext⟩ := htexts cs List.mem_cons_self
    cases parts with
    | nil =>
      exact absurd h.symm (hne _ _ (ne_nil_of_readDocument htext.readDocument_eq))
    | cons part parts =>
      -- with a separator before each part, both sides are made part by part
      apply eq_of_flatMap_eq hmark htexts hparts
      rw [← append_intercalate, ← append_intercalate, h]

end SchemaScribe.Json
