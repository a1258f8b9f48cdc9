import SchemaScribe.Proofs.Json.Literal
import SchemaScribe.Proofs.Json.Separated
import SchemaScribe.Proofs.Typing.Keys

/-!
# Names of members and what stands behind them

The key of a member is the name itself or a string literal of it, and a mark follows: the question
mark of a member that may be absent, or the colon before its type.  Where the key ends does not
depend on knowing how it was written (`IsKey.append_inj`), so a text has one reading as a key and
the rest (`memberIdentifier_reads_back`).
-/

namespace SchemaScribe.Typing

/-! ### Keys -/

/-- **A key**: a plain identifier, or a string literal with anything between its quotes. -/
def IsKey (cs : List CodePoint) : Prop :=
  isPlainIdentifier cs = true ∨
    ∃ body, Json.IsLiteralBody body ∧ cs = .char '"' :: (body ++ [.char '"'])

/-- What stands behind a key begins with a mark. -/
def StartsMark (cs : List CodePoint) : Prop :=
  ∃ mark ∈ (['?', ':'] : List CodePoint), ∃ rest, cs = mark :: rest

variable {a b behind behind' : List CodePoint} {name : Text}

theorem StartsMark.exists_cons (h : StartsMark behind) :
    ∃ mark rest, behind = mark :: rest ∧ isIdentifierPart mark = false := by
  have hmarks : ∀ mark ∈ (['?', ':'] : List CodePoint), isIdentifierPart mark = false := by
    decide
  obtain ⟨mark, hmark, rest, rfl⟩ := h
  exact ⟨mark, rest, rfl, hmarks mark hmark⟩

/-- **A key ends at one place only**, whatever stands behind its mark. -/
theorem IsKey.append_inj (ha : IsKey a) (hb : IsKey b) (hbehind : StartsMark behind)
    (hbehind' : StartsMark behind') (h : a ++ behind = b ++ behind') :
    a = b ∧ behind = behind' := by
  have hword : ∀ {a}, IsKey a → Json.IsLiteralOrWord isIdentifierPart a := by
    rintro a (ha | hliteral)
    · exact Or.inr ⟨ne_nil_of_isPlainIdentifier ha, isIdentifierPart_of_isPlainIdentifier ha⟩
    · exact Or.inl hliteral
  have hstop : ∀ {behind}, StartsMark behind → ∀ c ∈ behind.head?, isIdentifierPart c = false := by
    intro behind hbehind
    obtain ⟨mark, rest, rfl, hmark⟩ := hbehind.exists_cons
    rintro c ⟨⟩
    exact hmark
  exact (hword ha).append_inj (by decide) (hword hb) (hstop hbehind) (hstop hbehind') h

/-! ### The two forms -/

theorem quote_ne_self : Json.quote name ≠ name := by
  intro h
  have hlength := Json.length_le_length_escape name.toList
  have hchars := congrArg List.length (Json.toList_quote name)
  rw [h, List.length_cons, List.length_append, List.length_singleton] at hchars
  omega

theorem memberIdentifier_eq_self_iff :
    memberIdentifier name = name ↔ isPlainIdentifier name.toList = true := by
  rw [memberIdentifier]
  split
  · next h => exact iff_of_true rfl h
  · next h => exact iff_of_false quote_ne_self h

theorem isKey_memberIdentifier (name : Text) : IsKey (memberIdentifier name).toList := by
  rw [memberIdentifier]
  split
  · next h => exact Or.inl h
  · exact Or.inr ⟨_, Json.isLiteralBody_escape _, Json.toList_quote name⟩

theorem not_control_of_isKey (ha : IsKey a) : ∀ c ∈ a, 0x20 ≤ c.toNat := by
  rcases ha with ha | ⟨body, hbody, rfl⟩
  · intro c hc
    have hpart := isIdentifierPart_of_isPlainIdentifier ha c hc
    by_contra hcontrol
    have hall : ∀ n : Fin 32, isIdentifierPart (CodePoint.ofNat n) = false := by decide +kernel
    have hnot := hall ⟨c.toNat, by omega⟩
    rw [CodePoint.ofNat_toNat, hpart] at hnot
    cases hnot
  · have hquote : 0x20 ≤ ('"').toNat := by decide
    rw [List.forall_mem_cons, List.forall_mem_append, List.forall_mem_singleton]
    exact ⟨hquote, hbody.not_control, hquote⟩

/-- **The key of a member is read back.**  It is the name itself just when that is an identifier of
ASCII, and otherwise a literal on one line whose only quotes are at its ends or escaped, and which
is read as the name.  In front of a mark it is the only key that the text begins with, and the name
is read from it; so different names have different keys, and those of identifiers differ from all
literals. -/
theorem memberIdentifier_reads_back (name : Text) :
    (memberIdentifier name = name ↔ IsPlainName name) ∧
      (¬ IsPlainName name →
        (∃ body, (memberIdentifier name).toList = .char '"' :: (body ++ [.char '"']) ∧
          Json.IsLiteralBody body) ∧
        Json.read (memberIdentifier name) = .ok (.string name)) ∧
      (∀ c ∈ (memberIdentifier name).toList, 0x20 ≤ c.toNat) ∧
      IsKey (memberIdentifier name).toList ∧
      (∀ behind, StartsMark behind →
        readName? ((memberIdentifier name).toList ++ behind) = some (name, behind) ∧
          ∀ key behind', IsKey key → StartsMark behind' →
            key ++ behind' = (memberIdentifier name).toList ++ behind →
              key = (memberIdentifier name).toList ∧ behind' = behind) ∧
      (∀ other, memberIdentifier other = memberIdentifier name → other = name) ∧
      (IsPlainName name → ∀ other, memberIdentifier name ≠ Json.quote other) := by
  rw [isPlainName_iff]
  have hkey := isKey_memberIdentifier name
  refine ⟨memberIdentifier_eq_self_iff, ?_, not_control_of_isKey hkey, hkey, ?_,
    fun other h => memberIdentifier_injective h, ?_⟩
  · intro hquoted
    rw [memberIdentifier, if_neg hquoted]
    exact ⟨⟨_, Json.toList_quote name, Json.isLiteralBody_escape _⟩,
      (Json.isScalarText_quote name).read_eq⟩
  · intro behind hbehind
    refine ⟨?_, fun key behind' hother hbehind' h => hother.append_inj hkey hbehind' hbehind h⟩
    obtain ⟨mark, rest, rfl, hmark⟩ := hbehind.exists_cons
    exact readName?_memberIdentifier name hmark rest
  · intro hplain other h
    rw [memberIdentifier_eq_self_iff.2 hplain] at h
    -- a literal begins with a quote, which is no part of an identifier
    have hchars := congrArg Text.toList h
    rw [Json.toList_quote, ← List.append_nil name.toList] at hchars
    exact Json.word_append_ne_quote (by decide) (ne_nil_of_isPlainIdentifier hplain)
      (isIdentifierPart_of_isPlainIdentifier hplain) hchars

set_option maxRecDepth 5000 in
/-- A name that a line feed keeps from being an identifier, in front of the marks of a member that
may be absent. -/
theorem memberIdentifier_of_broken_name :
    memberIdentifier "a\n" = "\"a\\n\"" ∧ memberIdentifier "a" = "a" ∧
      Json.read (memberIdentifier "a\n") = .ok (.string "a\n") ∧
      readName? (Text.toList "\"a\\n\"?: \"\\\"\";") =
        some (("a\n" : Text), Text.toList "?: \"\\\"\";") := by
  have hname : memberIdentifier "a\n" = "\"a\\n\"" := by decide
  have hbroken : ¬ IsPlainName "a\n" := by
    rw [isPlainName_iff]
    decide
  have hplain : IsPlainName "a" := by
    rw [isPlainName_iff]
    decide
  have hbehind : StartsMark (Text.toList "?: \"\\\"\";") := ⟨'?', by simp, _, rfl⟩
  obtain ⟨-, hquoted, -, -, hreading, -⟩ := memberIdentifier_reads_back "a\n"
  have hread := (hreading _ hbehind).1
  rw [hname] at hread
  exact ⟨hname, (memberIdentifier_reads_back "a").1.2 hplain, (hquoted hbroken).2, hread⟩

end SchemaScribe.Typing
