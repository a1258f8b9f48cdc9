import SchemaScribe.Proofs.Json.Separated
import SchemaScribe.Proofs.Snapshot.Written
import SchemaScribe.Proofs.Typing.Stored

/-!
# Unions of literals are unambiguous

A union of literals can be taken apart in one way only, and its literals are read as the values it
was made of, each once and in the order of their first occurrences (`literalUnion_unambiguous`).
Repeated values are left out by comparing their literals.  Since a literal is read back as its
value, this leaves out the same ones as a comparison of the values would.
-/

namespace SchemaScribe

/-- A value whose literal can be read: not an integer with too many digits, nor one of the numbers
without digits. -/
def ChoiceValue.isReadable : ChoiceValue → Bool
  | .int value => Binary64.decimalLength value.natAbs ≤ Numeral.digitLimit
  | .float value => value.isFinite
  | _ => true

/-- Values are told apart in their written form, by their kinds and by what they are. -/
theorem ChoiceValue.json_injective : Function.Injective ChoiceValue.json := by
  intro a b h
  cases a <;> cases b <;> simp_all [ChoiceValue.json]

namespace Typing

/-! ### Literals read back -/

variable {value : ChoiceValue} {values : List ChoiceValue}

/-- **A literal is the text of its value.** -/
theorem isScalarText_literal (h : value.isReadable = true) :
    Json.IsScalarText (literal value).toList value.json := by
  cases value with
  | null => exact Json.isScalarText_null
  | bool value =>
    cases value with
    | true => exact Json.isScalarText_true
    | false => exact Json.isScalarText_false
  | int value =>
    have hdigits := of_decide_eq_true h
    exact Json.isScalarText_of_readNumber (Json.readNumber_int hdigits)
  | float value => exact Json.isScalarText_of_readNumber (Json.readNumber_binary64 h literalWords)
  | text value => exact Json.isScalarText_quote value

theorem mapM_read_literal (h : ∀ value ∈ values, value.isReadable = true) :
    (values.map literal).mapM Json.read = .ok (values.map ChoiceValue.json) := by
  induction values with
  | nil => rfl
  | cons value values ih =>
    rw [List.forall_mem_cons] at h
    rw [List.map_cons, List.mapM_cons, (isScalarText_literal h.1).read_eq, ih h.2]
    rfl

/-- Lists of values are told from their literals. -/
theorem eq_of_map_literal_eq {others : List ChoiceValue}
    (h : ∀ value ∈ values, value.isReadable = true)
    (hothers : ∀ value ∈ others, value.isReadable = true)
    (heq : others.map literal = values.map literal) : others = values := by
  have hread := mapM_read_literal hothers
  rw [heq, mapM_read_literal h] at hread
  exact (List.map_injective_iff.2 ChoiceValue.json_injective) (Except.ok.inj hread).symm

theorem literal_injOn {a b : ChoiceValue} (ha : a.isReadable = true) (hb : b.isReadable = true)
    (h : literal a = literal b) : a = b := by
  have hread := (isScalarText_literal ha).read_eq
  rw [h, (isScalarText_literal hb).read_eq] at hread
  exact ChoiceValue.json_injective (Except.ok.inj hread).symm

/-! ### First occurrences -/

variable {α : Type} [DecidableEq α]

theorem distinct_filter (p : α → Bool) (as : List α) :
    distinct (as.filter p) = (distinct as).filter p := by
  induction as with
  | nil => rfl
  | cons a rest ih =>
    by_cases ha : p a = true
    · rw [List.filter_cons_of_pos ha, distinct, distinct, ih, List.filter_cons_of_pos ha,
        List.filter_comm]
    · rw [List.filter_cons_of_neg ha, distinct, ih, List.filter_cons_of_neg ha, List.filter_filter]
      apply List.filter_congr
      intro b _
      by_cases hb : b = a
      · simp [hb, ha]
      · simp [hb]

theorem distinct_eq_eraseDups (as : List α) : distinct as = as.eraseDups := by
  induction hn : as.length using Nat.strong_induction_on generalizing as with
  | _ n ih =>
    cases as with
    | nil => rfl
    | cons a rest =>
      have hlength : (rest.filter fun b => !b == a).length < n := by
        rw [← hn, List.length_cons]
        exact Nat.lt_succ_of_le (List.length_filter_le _ _)
      rw [distinct, List.eraseDups_cons, ← ih _ hlength _ rfl, distinct_filter]
      congr 1
      apply List.filter_congr
      intro b _
      rw [decide_not, beq_eq_decide]

theorem distinct_eq_self {as : List α} (h : as.Nodup) : distinct as = as := by
  induction as with
  | nil => rfl
  | cons a rest ih =>
    rw [List.nodup_cons] at h
    rw [distinct, ih h.2, List.filter_eq_self.2]
    intro b hb
    rw [decide_eq_true_eq]
    rintro rfl
    exact h.1 hb

theorem distinct_append_of_subset {as more : List α} (h : more ⊆ as) :
    distinct (as ++ more) = distinct as := by
  have hnone : more.removeAll as = [] := by
    rw [List.removeAll, List.filter_eq_nil_iff]
    intro a ha
    simpa using h ha
  rw [distinct_eq_eraseDups, distinct_eq_eraseDups, List.eraseDups_append, hnone,
    List.eraseDups_nil, List.append_nil]

/-! ### Unions -/

/-- Repeated values are those with repeated literals. -/
theorem literalUnion_eq (h : ∀ value ∈ values, value.isReadable = true) :
    literalUnion values = union (values.eraseDups.map literal) := by
  rw [literalUnion, distinct_map fun a ha b hb => literal_injOn (h a ha) (h b hb),
    distinct_eq_eraseDups]

/-- **A union of literals is told apart** from what other texts that can be read are joined to. -/
theorem eq_of_union_eq {parts : List Text} {found : List Json}
    (h : ∀ value ∈ values, value.isReadable = true) (hread : parts.mapM Json.read = .ok found)
    (heq : union parts = union (values.map literal)) : parts = values.map literal := by
  have hparts : ∀ cs ∈ parts.map Text.toList, ∃ found, Json.readDocument cs = .ok found := by
    rw [List.forall_mem_map]
    intro part hpart
    obtain ⟨value, hvalue⟩ := exists_forall₂_iff.1 ⟨found, mapM_eq_ok_iff.1 hread⟩ part hpart
    exact ⟨value, mapError_eq_ok_iff.1 hvalue⟩
  have htexts : ∀ cs ∈ (values.map literal).map Text.toList,
      ∃ value, Json.IsScalarText cs value := by
    rw [List.forall_mem_map, List.forall_mem_map]
    exact fun value hvalue => ⟨_, isScalarText_literal (h value hvalue)⟩
  have hchars := congrArg Text.toList heq
  rw [union, union, Text.toList_intercalate, Text.toList_intercalate] at hchars
  have hmark : Json.isSpace '|' = false := by decide
  have heq := Json.eq_of_intercalate_eq hmark htexts hparts hchars
  exact List.map_injective_iff.2 (fun _ _ => Text.toList_injective) heq

/-- **Unions of literals are unambiguous.** A union is put together in one way only from texts that
can be read, and these are read as the values it was made of, each once and in the order of first
occurrences.  So the union tells lists without repeated values apart, and further occurrences of
values do not change it. -/
theorem literalUnion_unambiguous (h : ∀ value ∈ values, value.isReadable = true) :
    (∃ literals : List Text,
      literals.mapM Json.read = .ok (values.eraseDups.map ChoiceValue.json) ∧
      union literals = literalUnion values ∧
      ∀ parts found, parts.mapM Json.read = .ok found → union parts = literalUnion values →
        parts = literals) ∧
    (values.Nodup → ∀ others : List ChoiceValue,
      (∀ value ∈ others, value.isReadable = true) → others.Nodup →
      literalUnion others = literalUnion values → others = values) ∧
    ∀ more, more ⊆ values → literalUnion (values ++ more) = literalUnion values := by
  have herased : ∀ value ∈ values.eraseDups, value.isReadable = true := by
    rw [← distinct_eq_eraseDups]
    exact fun value hvalue => h value (mem_distinct.1 hvalue)
  refine ⟨⟨values.eraseDups.map literal, mapM_read_literal herased, (literalUnion_eq h).symm, ?_⟩,
    ?_, ?_⟩
  · intro parts found hread heq
    rw [literalUnion_eq h] at heq
    exact eq_of_union_eq herased hread heq
  · intro hnodup others hothers hdistinct heq
    -- without repetitions a list is what is left of it
    rw [literalUnion_eq h, literalUnion_eq hothers, ← distinct_eq_eraseDups,
      ← distinct_eq_eraseDups, distinct_eq_self hnodup, distinct_eq_self hdistinct] at heq
    exact eq_of_map_literal_eq h hothers (eq_of_union_eq h (mapM_read_literal hothers) heq)
  · intro more hmore
    rw [literalUnion, List.map_append, distinct_append_of_subset (List.map_subset literal hmore)]
    rfl

/-- Values of all kinds, with some that are equal as numbers and one that shows a separator. -/
def variedValues : List ChoiceValue :=
  [.int 1, .float (.ofInt 1), .bool true, .text "1", .float (.zero false), .float (.zero true),
    .text "a | b", .null]

/-- Values of different kinds are kept, and repeated ones are left out. -/
theorem literalUnion_variedValues :
    (∀ value ∈ variedValues, value.isReadable = true) ∧ variedValues.Nodup ∧
    (∃ literals : List Text,
      literals.mapM Json.read = .ok (variedValues.map ChoiceValue.json) ∧
      union literals = literalUnion (variedValues ++ [.text "a | b", .int 1])) := by
  have hreadable : ∀ value ∈ variedValues, value.isReadable = true := by decide +kernel
  have hnodup : variedValues.Nodup := by decide +kernel
  have herased : variedValues.eraseDups = variedValues := by
    rw [← distinct_eq_eraseDups, distinct_eq_self hnodup]
  obtain ⟨⟨literals, hread, hunion, -⟩, -, happend⟩ := literalUnion_unambiguous hreadable
  rw [herased] at hread
  have hmore := happend [.text "a | b", .int 1] (by decide +kernel)
  exact ⟨hreadable, hnodup, literals, hread, hunion.trans hmore.symm⟩

end Typing

end SchemaScribe
