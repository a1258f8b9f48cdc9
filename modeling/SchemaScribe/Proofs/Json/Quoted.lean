import SchemaScribe.Json.Quoted
import SchemaScribe.Json.Reader

/-!
# Reading string literals back

The characters of a literal are read back as those of its text (`readString_escape`), whatever
follows the closing quote.  A literal shows what its text does, apart from what is escaped
(`infix_quoteChars_iff`), and it stays on one line (`newline_notMem_quoteChars`).
-/

namespace SchemaScribe.Json

/-! ### Escapes -/

/-- Four hexadecimal digits are read back as the number that they write. -/
theorem readHex?_hexDigits {n : Nat} (hn : n < 0x10000) (e : CodePoint) (rest : List CodePoint) :
    readHex? (Text.hexDigits 4 n ++ e :: rest) = some (n, e :: rest) := by
  have hdigit : ∀ m, Text.hexDigit? (Text.hexDigit (m % 16)) = some (m % 16) := fun m =>
    Text.hexDigit?_hexDigit ⟨m % 16, Nat.mod_lt m (by omega)⟩
  have hvalue : ((n / 16 / 16 / 16 % 16 * 16 + n / 16 / 16 % 16) * 16 + n / 16 % 16) * 16 +
      n % 16 = n := by omega
  simp only [Text.hexDigits, List.nil_append, List.cons_append, readHex?, hdigit,
    Option.bind_eq_bind, Option.bind_some, hvalue]
  rfl

/-- The escape of a control character is read back as the character. -/
theorem readUnicodeEscape_hexDigits {c : CodePoint} (hc : c.toNat < 0x20) (e : CodePoint)
    (rest : List CodePoint) :
    readUnicodeEscape (Text.hexDigits 4 c.toNat ++ e :: rest) = .ok (c, e :: rest) := by
  have hhigh : isHighSurrogate c.toNat = false := by
    simp only [isHighSurrogate, Bool.and_eq_false_iff, decide_eq_false_iff_not]
    omega
  rw [readUnicodeEscape, readHex?_hexDigits (by omega)]
  split
  · next h => cases h
  · next code more h =>
    obtain ⟨rfl, hrest⟩ := Prod.mk.inj (Option.some.inj h)
    rw [hhigh, Bool.false_and, if_neg Bool.false_ne_true, CodePoint.ofNat_toNat, hrest]
  · next code more _ h =>
    obtain ⟨rfl, rfl⟩ := Prod.mk.inj (Option.some.inj h)
    rw [CodePoint.ofNat_toNat]

/-- A character is escaped by a letter, by its number, or not at all. -/
theorem escapeChar_cases (c : CodePoint) :
    (∃ d, escapeChar c = [.char '\\', d] ∧ d ≠ 'u' ∧ shortEscape? d = some c) ∨
      c.toNat < 0x20 ∧ escapeChar c = .char '\\' :: .char 'u' :: Text.hexDigits 4 c.toNat ∨
      c ≠ '"' ∧ c ≠ '\\' ∧ 0x20 ≤ c.toNat ∧ escapeChar c = [c] := by
  rw [escapeChar]
  split
  · next h => subst h; exact Or.inl ⟨'"', rfl, by decide, rfl⟩
  next hquote =>
  split
  · next h => subst h; exact Or.inl ⟨'\\', rfl, by decide, rfl⟩
  next hbackslash =>
  split
  · next h => subst h; exact Or.inl ⟨'n', rfl, by decide, rfl⟩
  split
  · next h => subst h; exact Or.inl ⟨'r', rfl, by decide, rfl⟩
  split
  · next h => subst h; exact Or.inl ⟨'t', rfl, by decide, rfl⟩
  split
  · next h => subst h; exact Or.inl ⟨'f', rfl, by decide, rfl⟩
  split
  · next h => subst h; exact Or.inl ⟨'b', rfl, by decide, rfl⟩
  split
  · next h => exact Or.inr (Or.inl ⟨h, rfl⟩)
  · next h => exact Or.inr (Or.inr ⟨hquote, hbackslash, by omega, rfl⟩)

theorem escape_cons (c : CodePoint) (cs : List CodePoint) :
    escape (c :: cs) = escapeChar c ++ escape cs :=
  List.flatMap_cons

/-- Escapes are never shorter than what they stand for. -/
theorem length_le_length_escape (cs : List CodePoint) : cs.length ≤ (escape cs).length := by
  have hpos : ∀ c, 1 ≤ (escapeChar c).length := by
    intro c
    rcases escapeChar_cases c with ⟨d, hescape, -⟩ | ⟨-, hescape⟩ | ⟨-, -, -, hescape⟩ <;>
      simp [hescape]
  induction cs with
  | nil => exact Nat.zero_le _
  | cons c cs ih =>
    rw [escape_cons, List.length_append, List.length_cons]
    have hc := hpos c
    omega

/-! ### Literals -/

/-- One escaped character before a string that can be read. -/
theorem readStringBody_escapeChar {start cs more rest : List CodePoint} {fuel : Nat} (c : CodePoint)
    (h : readStringBody start fuel cs = .ok (more, rest)) :
    readStringBody start (fuel + 1) (escapeChar c ++ cs) = .ok (c :: more, rest) := by
  rcases escapeChar_cases c with
    ⟨d, hescape, hu, hd⟩ | ⟨hc, hescape⟩ | ⟨hquote, hbackslash, hc, hescape⟩
  · rw [hescape]
    show readStringBody start (fuel + 1) (.char '\\' :: d :: cs) = _
    rw [readStringBody, if_neg (by decide), if_pos rfl, hd]
    · show (readStringBody start fuel cs >>= fun x => pure (c :: x.1, x.2)) = _
      rw [h]
      rfl
    · exact hu
  -- a numeric escape asks for something behind it, which the closing quote is at least
  · cases cs with
    | nil => cases fuel <;> cases h
    | cons e cs =>
      rw [hescape]
      show readStringBody start (fuel + 1)
        (.char '\\' :: .char 'u' :: (Text.hexDigits 4 c.toNat ++ e :: cs)) = _
      rw [readStringBody, if_neg (by decide), if_pos rfl]
      show (readUnicodeEscape (Text.hexDigits 4 c.toNat ++ e :: cs) >>= fun x =>
        readStringBody start fuel x.2 >>= fun y => pure (x.1 :: y.1, y.2)) = _
      rw [readUnicodeEscape_hexDigits hc]
      show (readStringBody start fuel (e :: cs) >>= fun y => pure (c :: y.1, y.2)) = _
      rw [h]
      rfl
  · rw [hescape]
    show readStringBody start (fuel + 1) (c :: cs) = _
    rw [readStringBody.eq_def]
    show (if c = '"' then _ else if c = '\\' then _ else if c.toNat < 0x20 then _ else
      readStringBody start fuel cs >>= fun x => pure (c :: x.1, x.2)) = _
    rw [if_neg hquote, if_neg hbackslash, if_neg (by omega), h]
    rfl

theorem readStringBody_escape {start rest : List CodePoint} {fuel : Nat} {cs : List CodePoint}
    (hf : cs.length < fuel) :
    readStringBody start fuel (escape cs ++ .char '"' :: rest) = .ok (cs, rest) := by
  induction cs generalizing fuel with
  | nil =>
    obtain ⟨fuel, rfl⟩ : ∃ n, fuel = n + 1 := ⟨fuel - 1, by simp at hf; omega⟩
    rfl
  | cons c cs ih =>
    obtain ⟨fuel, rfl⟩ : ∃ n, fuel = n + 1 := ⟨fuel - 1, by omega⟩
    rw [List.length_cons] at hf
    rw [escape_cons, List.append_assoc]
    exact readStringBody_escapeChar c (ih (by omega))

/-- **A literal is read back as its text**, whatever follows it. -/
theorem readString_escape (text : Text) {fuel : Nat} (hf : text.toList.length < fuel)
    (rest : List CodePoint) :
    readString fuel (escape text.toList ++ .char '"' :: rest) = .ok (text, rest) := by
  rw [readString, readStringBody_escape hf]
  show Except.ok (Text.ofList text.toList, rest) = _
  rw [Text.ofList_toList]

/-! ### Characters that stand for themselves -/

/-- A character that is neither escaped nor written within an escape. -/
structure IsBare (c : CodePoint) : Prop where
  ne_backslash : c ≠ '\\'
  escapeChar_eq : escapeChar c = [c]
  short : shortEscape? c = none
  hex : ∀ n : Fin 32, c ∉ .char 'u' :: Text.hexDigits 4 n

theorem IsBare.notMem_escapeChar {c d : CodePoint} (h : IsBare c) (hne : c ≠ d) :
    c ∉ escapeChar d := by
  rcases escapeChar_cases d with ⟨e, hescape, -, he⟩ | ⟨hd, hescape⟩ | ⟨-, -, -, hescape⟩
  · have hce : c ≠ e := by
      rintro rfl
      rw [h.short] at he
      cases he
    simp [hescape, h.ne_backslash, hce]
  · rw [hescape, List.mem_cons, not_or]
    exact ⟨h.ne_backslash, h.hex ⟨d.toNat, hd⟩⟩
  · rwa [hescape, List.mem_singleton]

/-- A part without the characters of what stands in front of it begins behind that. -/
theorem infix_append_iff_of_notMem {c : CodePoint} {part before rest : List CodePoint}
    (h : c ∉ before) :
    c :: part <:+: before ++ rest ↔ c :: part <:+: rest := by
  induction before with
  | nil => rfl
  | cons d before ih =>
    rw [List.mem_cons, not_or] at h
    rw [List.cons_append, List.infix_cons_iff, ih h.2, List.cons_prefix_cons]
    exact or_iff_right fun hprefix => h.1 hprefix.1

/-- A part that stands for itself begins a literal exactly where it begins the text. -/
theorem prefix_escape_iff {part : List CodePoint} (hpart : ∀ c ∈ part, IsBare c)
    {cs : List CodePoint} :
    part <+: escape cs ↔ part <+: cs := by
  induction part generalizing cs with
  | nil => simp
  | cons c part ih =>
    rw [List.forall_mem_cons] at hpart
    cases cs with
    | nil => rfl
    | cons d cs =>
      rw [escape_cons]
      -- a character that is never escaped stands for itself, and in no escape of another
      by_cases hcd : c = d
      · rw [← hcd, hpart.1.escapeChar_eq, List.singleton_append, List.cons_prefix_cons,
          List.cons_prefix_cons, ih hpart.2]
      · have hnot := hpart.1.notMem_escapeChar hcd
        rw [List.cons_prefix_cons, iff_false_intro fun h : c = d ∧ _ => hcd h.1, iff_false]
        cases hchars : escapeChar d with
        | nil =>
          have hlength := length_le_length_escape [d]
          simp [escape, hchars] at hlength
        | cons e chars =>
          rw [hchars, List.mem_cons, not_or] at hnot
          rw [List.cons_append, List.cons_prefix_cons]
          exact fun h => hnot.1 h.1

/-- **A part that stands for itself is in a literal exactly where it is in the text.** -/
theorem infix_escape_iff {part : List CodePoint} (hpart : ∀ c ∈ part, IsBare c)
    {cs : List CodePoint} :
    part <:+: escape cs ↔ part <:+: cs := by
  induction cs with
  | nil => rfl
  | cons d cs ih =>
    have hprefix := @prefix_escape_iff part hpart (d :: cs)
    rw [List.infix_cons_iff, ← hprefix, ← ih, escape_cons]
    cases part with
    | nil => simp
    | cons c part =>
      have hc := hpart c List.mem_cons_self
      by_cases hcd : c = d
      · rw [← hcd, hc.escapeChar_eq, List.singleton_append, List.infix_cons_iff]
      · rw [infix_append_iff_of_notMem (hc.notMem_escapeChar hcd), ← escape_cons, hprefix,
          List.cons_prefix_cons]
        exact (or_iff_right fun h => hcd h.1).symm

theorem toList_quote (text : Text) :
    (quote text).toList = .char '"' :: (escape text.toList ++ [.char '"']) := by
  rw [quote, Text.toList_ofList, quoteChars]

theorem infix_quoteChars_iff {part : List CodePoint} (hpart : ∀ c ∈ part, IsBare c)
    {cs : List CodePoint} :
    part <:+: quoteChars cs ↔ part <:+: cs := by
  have hquote : ¬ IsBare '"' := fun h => absurd h.escapeChar_eq (by decide)
  -- the quotes at the ends are of no use to a part without quotes
  have hprefix : ∀ rest, part <+: .char '"' :: rest → part = [] := by
    intro rest h
    rcases List.prefix_cons_iff.1 h with h | ⟨more, rfl, -⟩
    · exact h
    · exact absurd (hpart _ List.mem_cons_self) hquote
  have hsuffix : ∀ before, part <:+ before ++ [.char '"'] → part = [] := by
    intro before h
    rcases List.suffix_concat_iff.1 h with h | ⟨more, rfl, -⟩
    · exact h
    · exact absurd (hpart _ (List.mem_append_right _ List.mem_cons_self)) hquote
  rw [quoteChars, List.infix_cons_iff, List.infix_concat_iff, infix_escape_iff hpart]
  constructor
  · rintro (h | h | h)
    · exact hprefix _ h ▸ List.nil_infix
    · exact hsuffix _ h ▸ List.nil_infix
    · exact h
  · exact fun h => Or.inr (Or.inr h)

/-! ### Lines -/

theorem newline_notMem_escapeChar (c : CodePoint) : .char '\n' ∉ escapeChar c := by
  have hhex : ∀ n : Fin 32, .char '\n' ∉ Text.hexDigits 4 n := by decide +kernel
  rcases escapeChar_cases c with ⟨d, hescape, -, hd⟩ | ⟨hc, hescape⟩ | ⟨-, -, hc, hescape⟩
  · rw [hescape]
    -- there is no escape by a line feed
    have hne : '\n' ≠ d := by rintro rfl; cases hd
    simp [hne]
  · rw [hescape]
    simpa using hhex ⟨c.toNat, hc⟩
  · rw [hescape, List.mem_singleton]
    rintro rfl
    exact absurd hc (by decide)

/-- **A literal stays on one line.** -/
theorem newline_notMem_quoteChars (cs : List CodePoint) : .char '\n' ∉ quoteChars cs := by
  have hescape : .char '\n' ∉ escape cs := by
    rw [escape, List.mem_flatMap]
    rintro ⟨c, -, h⟩
    exact newline_notMem_escapeChar c h
  simp [quoteChars, hescape]

end SchemaScribe.Json
