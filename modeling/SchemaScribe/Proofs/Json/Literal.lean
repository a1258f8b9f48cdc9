import SchemaScribe.Proofs.Json.Numeral
import SchemaScribe.Proofs.Json.Quoted

/-!
# Where string literals end

Between the quotes of a literal stand characters that are no quotes, no backslashes and no control
characters, and escapes of a backslash and one such character or any of the other two
(`IsLiteralBody`).  Escaped texts are of this form (`isLiteralBody_escape`), and the first quote
that is not escaped ends it, whatever stands behind (`IsLiteralBody.append_inj`).  So a literal and
a word without quotes are told apart, and both end at one place (`IsLiteralOrWord.append_inj`).
-/

namespace SchemaScribe.Json

/-- **What stands between the quotes of a literal.**  There are no control characters, and a quote
or a backslash stands behind a backslash only. -/
inductive IsLiteralBody : List CodePoint → Prop
  | nil : IsLiteralBody []
  | bare {c : CodePoint} {rest : List CodePoint} (hquote : c ≠ '"') (hbackslash : c ≠ '\\')
      (hcontrol : 0x20 ≤ c.toNat) (hrest : IsLiteralBody rest) : IsLiteralBody (c :: rest)
  | escaped {c : CodePoint} {rest : List CodePoint} (hcontrol : 0x20 ≤ c.toNat)
      (hrest : IsLiteralBody rest) : IsLiteralBody (.char '\\' :: c :: rest)

variable {a b behind behind' cs : List CodePoint} {p : CodePoint → Bool}

theorem IsLiteralBody.append (ha : IsLiteralBody a) (hb : IsLiteralBody b) :
    IsLiteralBody (a ++ b) := by
  induction ha with
  | nil => exact hb
  | bare hquote hbackslash hcontrol _ ih => exact .bare hquote hbackslash hcontrol ih
  | escaped hcontrol _ ih => exact .escaped hcontrol ih

theorem IsLiteralBody.not_control (h : IsLiteralBody cs) : ∀ c ∈ cs, 0x20 ≤ c.toNat := by
  induction h with
  | nil => simp
  | bare _ _ hcontrol _ ih => exact List.forall_mem_cons.2 ⟨hcontrol, ih⟩
  | escaped hcontrol _ ih =>
    exact List.forall_mem_cons.2 ⟨by decide, List.forall_mem_cons.2 ⟨hcontrol, ih⟩⟩

/-- Characters that need no escape stand for themselves. -/
theorem isLiteralBody_of_forall
    (h : ∀ c ∈ cs, c ≠ '"' ∧ c ≠ '\\' ∧ 0x20 ≤ c.toNat) : IsLiteralBody cs := by
  induction cs with
  | nil => exact .nil
  | cons c rest ih =>
    rw [List.forall_mem_cons] at h
    exact .bare h.1.1 h.1.2.1 h.1.2.2 (ih h.2)

theorem isLiteralBody_escapeChar (c : CodePoint) : IsLiteralBody (escapeChar c) := by
  rcases escapeChar_cases c with
    ⟨d, hescape, -, hd⟩ | ⟨hc, hescape⟩ | ⟨hquote, hbackslash, hcontrol, hescape⟩
  · have hcontrol : 0x20 ≤ d.toNat := by
      rw [shortEscape?.eq_def] at hd
      split at hd <;> first | decide | cases hd
    rw [hescape]
    exact .escaped hcontrol .nil
  · have hhex : ∀ n : Fin 32, ((Text.hexDigits 4 n).all fun d =>
        d != '"' && d != '\\' && decide (0x20 ≤ d.toNat)) = true := by decide +kernel
    have hdigits := hhex ⟨c.toNat, hc⟩
    simp only [List.all_eq_true, Bool.and_eq_true, bne_iff_ne, decide_eq_true_eq, and_assoc]
      at hdigits
    rw [hescape]
    exact .escaped (by decide) (isLiteralBody_of_forall hdigits)
  · rw [hescape]
    exact .bare hquote hbackslash hcontrol .nil

/-- **An escaped text stands between quotes.** -/
theorem isLiteralBody_escape (cs : List CodePoint) : IsLiteralBody (escape cs) := by
  induction cs with
  | nil => exact .nil
  | cons c rest ih =>
    rw [escape_cons]
    exact (isLiteralBody_escapeChar c).append ih

/-- **A literal ends at one quote only**, whatever stands behind it. -/
theorem IsLiteralBody.append_inj (ha : IsLiteralBody a) (hb : IsLiteralBody b)
    (h : a ++ .char '"' :: behind = b ++ .char '"' :: behind') : a = b ∧ behind = behind' := by
  induction ha generalizing b with
  | nil =>
    cases hb with
    | nil => exact ⟨rfl, (List.cons.inj h).2⟩
    | bare hquote _ _ _ => exact absurd (List.cons.inj h).1.symm hquote
    | escaped _ _ => exact absurd (List.cons.inj h).1 (by decide)
  | bare hquote hbackslash _ _ ih =>
    -- a character that stands for itself is neither the closing quote nor a backslash
    cases hb with
    | nil => exact absurd (List.cons.inj h).1 hquote
    | bare _ _ _ hrest =>
      obtain ⟨rfl, htail⟩ := List.cons.inj h
      obtain ⟨rfl, hbehind⟩ := ih hrest htail
      exact ⟨rfl, hbehind⟩
    | escaped _ _ => exact absurd (List.cons.inj h).1 hbackslash
  | escaped _ _ ih =>
    -- an escape begins with a backslash, and its second character belongs to it
    cases hb with
    | nil => exact absurd (List.cons.inj h).1 (by decide)
    | bare _ hbackslash _ _ => exact absurd (List.cons.inj h).1.symm hbackslash
    | escaped _ hrest =>
      obtain ⟨-, htail⟩ := List.cons.inj h
      obtain ⟨rfl, hmore⟩ := List.cons.inj htail
      obtain ⟨rfl, hbehind⟩ := ih hrest hmore
      exact ⟨rfl, hbehind⟩

/-! ### Literals and words -/

/-- **A literal or a word**: a text between quotes, or one that is not empty and whose characters
are of one kind. -/
def IsLiteralOrWord (p : CodePoint → Bool) (cs : List CodePoint) : Prop :=
  (∃ body, IsLiteralBody body ∧ cs = .char '"' :: (body ++ [.char '"'])) ∨
    cs ≠ [] ∧ ∀ c ∈ cs, p c = true

theorem isLiteralOrWord_quote (p : CodePoint → Bool) (text : Text) :
    IsLiteralOrWord p (quote text).toList :=
  Or.inl ⟨_, isLiteralBody_escape _, toList_quote text⟩

/-- A word does not begin with a quote, if that is of another kind. -/
theorem word_append_ne_quote (hquote : p '"' = false) (hne : a ≠ []) (ha : ∀ c ∈ a, p c = true)
    {rest : List CodePoint} : a ++ behind ≠ .char '"' :: rest := by
  obtain ⟨c, cs, rfl⟩ := List.exists_cons_of_ne_nil hne
  intro h
  have hc := ha c List.mem_cons_self
  rw [(List.cons.inj h).1, hquote] at hc
  cases hc

/-- **A literal or a word ends at one place only**, in front of characters of another kind. -/
theorem IsLiteralOrWord.append_inj (hquote : p '"' = false) (ha : IsLiteralOrWord p a)
    (hb : IsLiteralOrWord p b) (hbehind : ∀ c ∈ behind.head?, p c = false)
    (hbehind' : ∀ c ∈ behind'.head?, p c = false) (h : a ++ behind = b ++ behind') :
    a = b ∧ behind = behind' := by
  rcases ha with ⟨body, hbody, rfl⟩ | ⟨hne, ha⟩ <;> rcases hb with ⟨body', hbody', rfl⟩ | ⟨hne', hb⟩
  · rw [List.cons_append, List.cons_append, List.append_assoc, List.append_assoc] at h
    obtain ⟨rfl, hrest⟩ := hbody.append_inj hbody' (List.cons.inj h).2
    exact ⟨rfl, hrest⟩
  · exact absurd h.symm (word_append_ne_quote hquote hne' hb)
  · exact absurd h (word_append_ne_quote hquote hne ha)
  · -- each word is all that is of the kind
    have htake := congrArg (List.takeWhile p) h
    rw [takeWhile_append_of_head ha hbehind, takeWhile_append_of_head hb hbehind'] at htake
    subst htake
    exact ⟨rfl, List.append_cancel_left h⟩

end SchemaScribe.Json
