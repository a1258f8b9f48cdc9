import SchemaScribe.Proofs.Outcome
import SchemaScribe.Text.Utf8

/-!
# Texts that have bytes

A text has bytes exactly if it is a string of characters, and these are the bytes of the string
(`encode_eq_ok_iff`).  Escapes stand in for halves only, so a string of characters is shown as it is
(`escapeHalves_ofString`).
-/

namespace SchemaScribe.Text.Utf8

variable {text : Text}

theorem encodeFrom_eq_ok_iff {offset : Nat} {cs : List CodePoint} {chars : List Char} :
    encodeFrom offset cs = .ok chars ↔ cs = chars.map .char := by
  induction cs generalizing offset chars with
  | nil => cases chars <;> simp [encodeFrom]
  | cons c rest ih =>
    cases c with
    -- a half ends the encoding, and no string holds one
    | half index => cases chars <;> simp [encodeFrom]
    | char c =>
      rw [encodeFrom]
      constructor
      · intro h
        cases hrest : encodeFrom (offset + 1) rest with
        | error cause =>
          rw [hrest] at h
          cases h
        | ok more =>
          rw [hrest] at h
          obtain rfl := Except.ok.inj h
          rw [List.map_cons, ih.1 hrest]
      · intro h
        cases chars with
        | nil => cases h
        | cons d more =>
          rw [List.map_cons, List.cons.injEq] at h
          obtain ⟨⟨⟩, hrest⟩ := h
          rw [ih.2 hrest]
          rfl

/-- **A text has bytes if it is a string of characters**: the bytes of that string. -/
theorem encode_eq_ok_iff {bytes : ByteArray} :
    encode text = .ok bytes ↔ ∃ s : String, text = .ofString s ∧ bytes = s.toUTF8 := by
  have htext : ∀ s : String, text = .ofString s ↔ encodeFrom 0 text.toList = .ok s.toList := by
    intro s
    rw [encodeFrom_eq_ok_iff, ← toList_ofString, toList_inj]
  constructor
  · intro h
    cases hencode : encodeFrom 0 text.toList with
    | error cause =>
      rw [encode, hencode] at h
      cases h
    | ok chars =>
      rw [encode, hencode] at h
      exact ⟨.ofList chars, (htext _).2 (by rw [hencode, String.toList_ofList]),
        (Except.ok.inj h).symm⟩
  · rintro ⟨s, hs, rfl⟩
    rw [encode, (htext s).1 hs]
    exact congrArg (Except.ok ∘ String.toUTF8) String.ofList_toList

theorem encode_ofString (s : String) : encode s = .ok s.toUTF8 :=
  encode_eq_ok_iff.2 ⟨s, rfl, rfl⟩

theorem escapeHalves_ofString (s : String) : escapeHalves s = s := by
  apply toList_injective
  rw [escapeHalves, toList_ofList, toList_ofString, List.flatMap_map]
  exact List.flatMap_pure_eq_map _ _

end SchemaScribe.Text.Utf8
