import SchemaScribe.Proofs.Text.Case
import SchemaScribe.Proofs.Typing.TypeName

/-!
# Names segment by segment

A separator cuts a name into parts that go into its Pascal case each for itself
(`pascalCase_segments`).  Upper case leads to no separator and is its own upper case, so nothing is
left to do in a name that has been through once.
-/

namespace SchemaScribe.Typing

variable {c d s : CodePoint} {cs : List CodePoint}

/-! ### Separators -/

theorem isSeparator_iff : isSeparator c = true ↔ c ∈ ([' ', '_', '-'] : List CodePoint) := by
  simp [isSeparator, or_assoc]

/-- Upper case makes no separators. -/
theorem isSeparator_of_mem_upperChar (hc : isSeparator c = false) (hd : d ∈ Text.upperChar c) :
    isSeparator d = false := by
  have hmarks : ∀ e ∈ ([' ', '_', '-'] : List CodePoint), e.toNat < 128 ∧ e.isUpper = false := by
    decide
  rw [Bool.eq_false_iff]
  intro hseparator
  obtain ⟨hascii, hsmall⟩ := hmarks d (isSeparator_iff.1 hseparator)
  rcases Text.eq_or_isUpper_of_mem_upperChar hd hascii with rfl | hcapital
  · rw [hc] at hseparator
    cases hseparator
  · rw [hsmall] at hcapital
    cases hcapital

/-- No separator is left. -/
theorem isSeparator_of_mem_pascalChars {atStart : Bool} (hd : d ∈ pascalChars atStart cs) :
    isSeparator d = false := by
  induction cs generalizing atStart with
  | nil => cases hd
  | cons c rest ih =>
    rw [pascalChars] at hd
    split at hd
    · exact ih hd
    · next hc =>
      rw [Bool.not_eq_true] at hc
      rcases List.mem_append.1 hd with hfirst | hrest
      · cases atStart with
        | true => exact isSeparator_of_mem_upperChar hc hfirst
        | false =>
          obtain rfl := List.mem_singleton.1 hfirst
          exact hc
      · exact ih hrest

theorem pascalChars_eq_nil_iff {atStart : Bool} :
    pascalChars atStart cs = [] ↔ ∀ c ∈ cs, isSeparator c = true := by
  induction cs generalizing atStart with
  | nil => simp [pascalChars]
  | cons c rest ih =>
    rw [pascalChars, List.forall_mem_cons]
    split
    · next hc => rw [ih, and_iff_right hc]
    · next hc =>
      obtain ⟨d, more, hupper, -⟩ := Text.exists_upperChar c
      refine iff_of_false ?_ fun h => hc h.1
      cases atStart <;> simp [hupper]

/-! ### Words -/

/-- A name without separators is one word. -/
theorem pascalChars_eq_capitalized (hcs : ∀ c ∈ cs, isSeparator c = false) :
    pascalChars true cs = capitalized cs := by
  rw [pascalChars_of_splitOnP (List.splitOnP_eq_singleton hcs) true, if_pos rfl, List.flatMap_nil,
    List.append_nil]

/-- A name in Pascal case begins with a capital. -/
theorem capitalized_pascalChars : capitalized (pascalChars true cs) = pascalChars true cs := by
  induction cs with
  | nil => rfl
  | cons c rest ih =>
    rw [pascalChars]
    split
    · exact ih
    · obtain ⟨d, more, hupper, hcapital⟩ := Text.exists_upperChar_eq c
      rw [if_pos rfl, hupper, List.cons_append, capitalized, hcapital, List.singleton_append]

/-- **A name in Pascal case is made segment by segment.**  What stands before a separator and what
stands behind it go into it each for itself.  No separator is left, and nothing is left just of a
name of separators; a name without any has its first character in upper case and stays as it is
otherwise.  A name in Pascal case stays as it is. -/
theorem pascalCase_segments (name : Text) :
    (∀ a b : Text, ∀ s ∈ ([' ', '_', '-'] : List CodePoint),
        pascalCase (a ++ Text.ofList [s] ++ b) = pascalCase a ++ pascalCase b) ∧
      (∀ d ∈ (pascalCase name).toList, d ∉ ([' ', '_', '-'] : List CodePoint)) ∧
      (pascalCase name = "" ↔ ∀ c ∈ name.toList, c ∈ ([' ', '_', '-'] : List CodePoint)) ∧
      (∀ c rest, name.toList = c :: rest →
        (∀ d ∈ c :: rest, d ∉ ([' ', '_', '-'] : List CodePoint)) →
        (pascalCase name).toList = Text.upperChar c ++ rest) ∧
      pascalCase (pascalCase name) = pascalCase name := by
  have hnone : ∀ d ∈ (pascalCase name).toList, isSeparator d = false := by
    intro d hd
    rw [pascalCase, Text.toList_ofList] at hd
    exact isSeparator_of_mem_pascalChars hd
  refine ⟨?_, ?_, ?_, ?_, ?_⟩
  · intro a b s hs
    have hcut := pascalChars_append_separator (isSeparator_iff.2 hs) true a.toList b.toList
    rw [pascalCase, Text.toList_append, Text.toList_append, Text.toList_ofList,
      List.append_assoc, List.singleton_append, hcut, Text.ofList_append]
    rfl
  · intro d hd hmark
    rw [← isSeparator_iff, hnone d hd] at hmark
    cases hmark
  · rw [pascalCase, ← Text.toList_eq_nil_iff, Text.toList_ofList, pascalChars_eq_nil_iff]
    exact forall₂_congr fun c _ => isSeparator_iff
  · intro c rest hname hrest
    have hword : ∀ d ∈ c :: rest, isSeparator d = false := fun d hd => by
      rw [Bool.eq_false_iff, ne_eq, isSeparator_iff]
      exact hrest d hd
    rw [pascalCase, Text.toList_ofList, hname, pascalChars_eq_capitalized hword, capitalized]
  · rw [pascalCase, pascalChars_eq_capitalized hnone]
    -- without separators only the first character is moved, which is in upper case already
    show Text.ofList (capitalized (Text.ofList _).toList) = _
    rw [Text.toList_ofList, capitalized_pascalChars, pascalCase]

set_option maxRecDepth 5000 in
/-- A name with two separators in a row and one at its end.  The upper case of its first character
has two characters. -/
theorem pascalCase_of_awkward_name :
    pascalCase ("ßa_" ++ Text.ofList ['-'] ++ "ǆ ") = "SSaǄ" ∧
      pascalCase "SSaǄ" = "SSaǄ" ∧
      (∀ d ∈ (Text.toList "SSaǄ"), d ∉ ([' ', '_', '-'] : List CodePoint)) := by
  have hbefore : pascalCase "ßa_" = "SSa" := by decide
  have hbehind : pascalCase "ǆ " = "Ǆ" := by decide
  have hname : pascalCase ("ßa_" ++ Text.ofList ['-'] ++ "ǆ ") = "SSaǄ" := by
    rw [(pascalCase_segments "").1 "ßa_" "ǆ " '-' (by simp), hbefore, hbehind]
    rfl
  obtain ⟨-, hnone, -, -, hagain⟩ :=
    pascalCase_segments ("ßa_" ++ Text.ofList ['-'] ++ "ǆ ")
  rw [hname] at hnone hagain
  exact ⟨hname, hagain, hnone⟩

end SchemaScribe.Typing
