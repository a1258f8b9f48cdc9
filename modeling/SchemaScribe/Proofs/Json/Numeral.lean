import Mathlib.Data.List.TakeWhile
import SchemaScribe.Json.Reader

/-!
# Numerals

A numeral is a text that is one number from its first character to its last (`isNumeral`).  No
whole part of a number begins with a zero that is not all of it (`IsWhole`), and the digits of an
integer are such a part, so it is written as a numeral (`isNumeral_toString_int`).
-/

namespace SchemaScribe.Json

/-! ### Numerals -/

/-- What follows the whole part of a number, after its fraction and its exponent. -/
def afterPlaces (cs : List CodePoint) : List CodePoint :=
  let afterFraction := ((splitFraction? cs).map Prod.snd).getD cs
  ((splitExponent? afterFraction).map Prod.snd).getD afterFraction

/-- What follows the number without a sign at the head of a text. -/
def afterUnsigned? (cs : List CodePoint) : Option (List CodePoint) :=
  (splitWhole? cs).map fun whole => afterPlaces whole.2

/-- **A number and nothing else.** -/
def isNumeral : List CodePoint → Bool
  | .char '-' :: cs => afterUnsigned? cs == some []
  | cs => afterUnsigned? cs == some []

/-- The characters that numbers are written with. -/
def isNumeralPart (c : CodePoint) : Bool :=
  c.isDigit || c == '-' || c == '+' || c == '.' || c == 'e' || c == 'E'

/-- A number may have a minus in front. -/
theorem isNumeral_minus {cs : List CodePoint} (h : afterUnsigned? cs = some []) :
    isNumeral (.char '-' :: cs) = true := by
  rw [isNumeral, h]
  rfl

theorem isNumeral_of_afterUnsigned? {cs : List CodePoint} (h : afterUnsigned? cs = some []) :
    isNumeral cs = true := by
  rw [isNumeral]
  · rw [h]
    rfl
  · rintro rest rfl
    -- a minus is no digit, so it begins no number without a sign
    cases h

/-! ### Parts of a number -/

/-- **The digits of a whole part**: they do not begin with a zero, unless it is all of them. -/
structure IsWhole (digits : List CodePoint) : Prop where
  digit : ∀ c ∈ digits, c.isDigit = true
  ne_nil : digits ≠ []
  zero : digits.head? = some (.char '0') → digits = [.char '0']

theorem isWhole_zero : IsWhole [.char '0'] where
  digit := List.forall_mem_singleton.2 rfl
  ne_nil := List.cons_ne_nil _ _
  zero _ := rfl

/-- Characters of a kind stop where a character is of another kind. -/
theorem takeWhile_append_of_head {p : CodePoint → Bool} {cs rest : List CodePoint}
    (hcs : ∀ c ∈ cs, p c = true) (hrest : ∀ c ∈ rest.head?, p c = false) :
    (cs ++ rest).takeWhile p = cs := by
  rw [List.takeWhile_append_of_pos hcs]
  cases rest with
  | nil => rw [List.takeWhile_nil, List.append_nil]
  | cons c rest => rw [List.takeWhile_cons_of_neg (by simpa using hrest c rfl), List.append_nil]

theorem dropWhile_append_of_head {p : CodePoint → Bool} {cs rest : List CodePoint}
    (hcs : ∀ c ∈ cs, p c = true) (hrest : ∀ c ∈ rest.head?, p c = false) :
    (cs ++ rest).dropWhile p = rest := by
  rw [List.dropWhile_append_of_pos hcs]
  cases rest with
  | nil => rfl
  | cons c rest => rw [List.dropWhile_cons_of_neg (by simpa using hrest c rfl)]

/-- A text that does not go on with a digit. -/
def StopsDigits (rest : List CodePoint) : Prop := ∀ c ∈ rest.head?, c.isDigit = false

theorem stopsDigits_nil : StopsDigits [] := by simp [StopsDigits]

theorem splitWhole?_append {digits rest : List CodePoint} (hd : IsWhole digits)
    (hr : StopsDigits rest) : splitWhole? (digits ++ rest) = some (digits, rest) := by
  obtain ⟨hdigit, hne, hzero⟩ := hd
  cases digits with
  | nil => exact absurd rfl hne
  | cons c digits =>
    rw [List.cons_append, splitWhole?]
    by_cases hc : c = '0'
    · obtain rfl : digits = [] := by simpa [hc] using hzero
      rw [if_pos hc, List.nil_append]
    · rw [List.forall_mem_cons] at hdigit
      rw [if_neg hc, if_pos hdigit.1, takeWhile_append_of_head hdigit.2 hr,
        dropWhile_append_of_head hdigit.2 hr]

theorem splitFraction?_append {digits rest : List CodePoint} (hd : ∀ c ∈ digits, c.isDigit = true)
    (hne : digits ≠ []) (hr : StopsDigits rest) :
    splitFraction? (.char '.' :: (digits ++ rest)) = some (digits, rest) := by
  rw [splitFraction?, takeWhile_append_of_head hd hr, dropWhile_append_of_head hd hr]
  exact if_neg (by simpa using hne)

theorem splitFraction?_of_head {rest : List CodePoint} (h : rest.head? ≠ some (.char '.')) :
    splitFraction? rest = none := by
  cases rest with
  | nil => rfl
  | cons c rest =>
    rw [splitFraction?]
    rintro cs ⟨⟩
    exact h rfl

/-- The digits of a whole part are a number. -/
theorem afterUnsigned?_whole {digits : List CodePoint} (hd : IsWhole digits) :
    afterUnsigned? digits = some [] := by
  have hsplit : splitWhole? digits = some (digits, []) := by
    simpa using splitWhole?_append hd stopsDigits_nil
  rw [afterUnsigned?, hsplit]
  rfl

/-! ### Characters -/

theorem eq_append_of_splitWhole? {cs digits rest : List CodePoint}
    (h : splitWhole? cs = some (digits, rest)) :
    cs = digits ++ rest ∧ ∀ c ∈ digits, c.isDigit = true := by
  cases cs with
  | nil => cases h
  | cons c cs =>
    rw [splitWhole?] at h
    split at h
    · next hc =>
      obtain ⟨rfl, rfl⟩ := Prod.mk.inj (Option.some.inj h)
      exact ⟨rfl, List.forall_mem_singleton.2 (hc ▸ rfl)⟩
    · split at h
      · next hc =>
        obtain ⟨rfl, rfl⟩ := Prod.mk.inj (Option.some.inj h)
        refine ⟨by rw [List.cons_append, List.takeWhile_append_dropWhile], ?_⟩
        rw [List.forall_mem_cons]
        exact ⟨hc, fun c hmem => List.mem_takeWhile_imp hmem⟩
      · cases h

theorem eq_append_of_splitFraction? {cs digits rest : List CodePoint}
    (h : splitFraction? cs = some (digits, rest)) :
    cs = .char '.' :: (digits ++ rest) ∧ ∀ c ∈ digits, c.isDigit = true := by
  rw [splitFraction?.eq_def] at h
  split at h
  · dsimp only at h
    split at h
    · cases h
    · obtain ⟨rfl, rfl⟩ := Prod.mk.inj (Option.some.inj h)
      refine ⟨by rw [List.takeWhile_append_dropWhile], fun c hmem => List.mem_takeWhile_imp hmem⟩
  · cases h

theorem exists_of_splitExponent? {cs rest : List CodePoint} {exponent : Int}
    (h : splitExponent? cs = some (exponent, rest)) :
    ∃ part, cs = part ++ rest ∧ ∀ c ∈ part, isNumeralPart c = true := by
  cases cs with
  | nil => cases h
  | cons c cs =>
    rw [splitExponent?] at h
    split at h
    · next hc =>
      have hletter : isNumeralPart c = true := by rcases hc with rfl | rfl <;> rfl
      -- behind the letter there may be a sign, and then digits
      obtain ⟨sign, hsigned, hsign⟩ : ∃ sign, cs = sign ++ (Numeral.splitSign cs).2 ∧
          ∀ c ∈ sign, isNumeralPart c = true := by
        rw [Numeral.splitSign.eq_def]
        split
        · exact ⟨[.char '-'], rfl, List.forall_mem_singleton.2 rfl⟩
        · exact ⟨[.char '+'], rfl, List.forall_mem_singleton.2 rfl⟩
        · exact ⟨[], rfl, List.forall_mem_nil _⟩
      simp only at h
      split at h
      · cases h
      · obtain ⟨-, rfl⟩ := Prod.mk.inj (Option.some.inj h)
        refine ⟨c :: (sign ++ (Numeral.splitSign cs).2.takeWhile CodePoint.isDigit), ?_, ?_⟩
        · rw [List.cons_append, List.append_assoc, List.takeWhile_append_dropWhile, ← hsigned]
        · rw [List.forall_mem_cons, List.forall_mem_append]
          refine ⟨hletter, hsign, fun c hmem => ?_⟩
          simp [isNumeralPart, List.mem_takeWhile_imp hmem]
    · cases h

/-- What stands before the end of a number is written with the characters of numbers. -/
theorem exists_of_afterPlaces (cs : List CodePoint) :
    ∃ part, cs = part ++ afterPlaces cs ∧ ∀ c ∈ part, isNumeralPart c = true := by
  -- what may stand behind the digits is an exponent, with a fraction before it or without
  have hexponent : ∀ rest : List CodePoint, ∃ part,
      rest = part ++ ((splitExponent? rest).map Prod.snd).getD rest ∧
        ∀ c ∈ part, isNumeralPart c = true := by
    intro rest
    cases he : splitExponent? rest with
    | none => exact ⟨[], rfl, by simp⟩
    | some found => exact exists_of_splitExponent? he
  rw [afterPlaces]
  cases hf : splitFraction? cs with
  | none => exact hexponent cs
  | some found =>
    obtain ⟨hcs, hdigits⟩ := eq_append_of_splitFraction? hf
    obtain ⟨part, hrest, hpart⟩ := hexponent found.2
    refine ⟨.char '.' :: (found.1 ++ part), ?_, ?_⟩
    · rw [hcs, List.cons_append, List.append_assoc]
      exact congrArg (fun rest => .char '.' :: (found.1 ++ rest)) hrest
    · rw [List.forall_mem_cons, List.forall_mem_append]
      exact ⟨rfl, fun c hc => by simp [isNumeralPart, hdigits c hc], hpart⟩

theorem isNumeralPart_of_afterUnsigned? {cs : List CodePoint} (h : afterUnsigned? cs = some []) :
    ∀ c ∈ cs, isNumeralPart c = true := by
  obtain ⟨whole, hwhole, hplaces⟩ := Option.map_eq_some_iff.1 h
  obtain ⟨rfl, hdigits⟩ := eq_append_of_splitWhole? hwhole
  obtain ⟨part, hrest, hpart⟩ := exists_of_afterPlaces whole.2
  rw [hplaces, List.append_nil] at hrest
  rw [hrest, List.forall_mem_append]
  exact ⟨fun c hc => by simp [isNumeralPart, hdigits c hc], hpart⟩

/-- **A numeral is written with the characters of numbers.** -/
theorem isNumeralPart_of_isNumeral {cs : List CodePoint} (h : isNumeral cs = true) :
    ∀ c ∈ cs, isNumeralPart c = true := by
  rw [isNumeral.eq_def] at h
  split at h
  · rw [List.forall_mem_cons]
    exact ⟨rfl, isNumeralPart_of_afterUnsigned? (by simpa using h)⟩
  · exact isNumeralPart_of_afterUnsigned? (by simpa using h)

theorem isDigit_of_afterUnsigned? {c : CodePoint} {cs rest : List CodePoint}
    (h : afterUnsigned? (c :: cs) = some rest) : c.isDigit = true := by
  obtain ⟨whole, hwhole, -⟩ := Option.map_eq_some_iff.1 h
  rw [splitWhole?] at hwhole
  split at hwhole
  · next hc => rw [hc]; rfl
  · split at hwhole
    · next hc => exact hc
    · cases hwhole

/-- A numeral begins with a minus or a digit. -/
theorem eq_minus_or_isDigit_of_isNumeral {c : CodePoint} {cs : List CodePoint}
    (h : isNumeral (c :: cs) = true) : c = '-' ∨ c.isDigit = true := by
  by_cases hc : c = '-'
  · exact Or.inl hc
  · rw [isNumeral, beq_iff_eq] at h
    · exact Or.inr (isDigit_of_afterUnsigned? h)
    · rintro rest hcs
      exact hc (List.cons.inj hcs).1

/-! ### Integers -/

theorem digitChar_ne_zero {n : Nat} (h0 : 0 < n) (h : n < 10) : n.digitChar ≠ '0' := by
  have hall : ∀ m : Fin 10, 0 < m.val → m.val.digitChar ≠ '0' := by decide
  exact hall ⟨n, h⟩ h0

/-- The digits of a number other than zero do not begin with a zero. -/
theorem head_toDigits_ne_zero {n : Nat} (h : 0 < n) : (Nat.toDigits 10 n).head? ≠ some '0' := by
  induction n using Nat.strong_induction_on with
  | _ n ih =>
    by_cases hn : n < 10
    · rw [Nat.toDigits_of_lt_base hn]
      simpa using digitChar_ne_zero h hn
    · rw [Nat.toDigits_of_base_le (by omega) (by omega), List.head?_append]
      cases hd : Nat.toDigits 10 (n / 10) with
      | nil => exact absurd hd Nat.toDigits_ne_nil
      | cons c digits =>
        have hhead := ih (n / 10) (by omega) (by omega)
        rwa [hd] at hhead

theorem head_decimalDigits_ne_zero {n : Nat} (h : 0 < n) :
    (Text.decimalDigits n).head? ≠ some (.char '0') := by
  rw [Text.decimalDigits, List.head?_map]
  intro hhead
  obtain ⟨c, hc, hzero⟩ := Option.map_eq_some_iff.1 hhead
  rw [CodePoint.char.inj hzero] at hc
  exact head_toDigits_ne_zero h hc

theorem decimalDigits_ne_nil {n : Nat} : Text.decimalDigits n ≠ [] := fun h =>
  Nat.toDigits_ne_nil (List.map_eq_nil_iff.1 h)

theorem isWhole_decimalDigits (n : Nat) : IsWhole (Text.decimalDigits n) where
  digit _ hc := Text.isDigit_of_mem_decimalDigits hc
  ne_nil := decimalDigits_ne_nil
  zero h := by
    rcases Nat.eq_zero_or_pos n with rfl | hn
    · rfl
    · exact absurd h (head_decimalDigits_ne_zero hn)

/-- **An integer is written as a numeral.** -/
theorem isNumeral_toString_int (n : Int) : isNumeral (Text.toList (toString n)) = true := by
  have hwhole : ∀ m : Nat, afterUnsigned? (Text.decimalDigits m) = some [] := fun m =>
    afterUnsigned?_whole (isWhole_decimalDigits m)
  rw [Text.toList_toString_int]
  split
  · exact isNumeral_of_afterUnsigned? (hwhole _)
  · exact isNumeral_minus (hwhole _)

end SchemaScribe.Json
