import Mathlib.Data.Finset.Card
import Mathlib.Data.Finset.Dedup
import SchemaScribe.Proofs.Typing.Items

/-!
# Parentheses around the elements of arrays

The element of an array of choices is put in parentheses where its text shows a union separator.
Alternatives always show one.  A single literal shows one exactly if it is the literal of a text
that does so itself (`showsSeparator_literal_iff`), since a separator is never escaped and no other
literal holds a space.  So parentheses follow the number of literals for all choices but a single
one of that kind (`array_parentheses_iff`).
-/

namespace SchemaScribe.Typing

/-! ### Separators in literals -/

/-- **A text shows a union separator.** -/
def ShowsSeparator (text : Text) : Prop := unionSeparator.toList <:+: text.toList

instance (text : Text) : Decidable (ShowsSeparator text) :=
  decidable_of_iff _ (@occursIn_iff unionSeparator.toList text.toList)

theorem arrayOf_eq (element : Text) :
    arrayOf element =
      if ShowsSeparator element then "(" ++ element ++ ")[]" else element ++ "[]" := by
  unfold arrayOf
  exact if_congr occursIn_iff rfl rfl

/-- A separator stands for itself in a literal. -/
theorem isBare_of_mem_unionSeparator : ∀ c ∈ unionSeparator.toList, Json.IsBare c := by
  have hspace : Json.IsBare ' ' := ⟨by decide, by decide, by decide, by decide +kernel⟩
  have hbar : Json.IsBare '|' := ⟨by decide, by decide, by decide, by decide +kernel⟩
  simpa [unionSeparator] using ⟨hspace, hbar, hspace⟩

theorem not_showsSeparator_of_notMem {text : Text} (h : .char ' ' ∉ text.toList) :
    ¬ ShowsSeparator text := by
  intro hshown
  have hspace : .char ' ' ∈ unionSeparator.toList := by decide
  exact h (hshown.subset hspace)

theorem not_showsSeparator_of_isNumeral {text : Text} (h : Json.isNumeral text.toList = true) :
    ¬ ShowsSeparator text := by
  apply not_showsSeparator_of_notMem
  intro hspace
  have hpart := Json.isNumeralPart_of_isNumeral h ' ' hspace
  exact absurd hpart (by decide)

theorem not_showsSeparator_float (value : Binary64) :
    ¬ ShowsSeparator (value.text literalWords) := by
  cases value with
  | finite negative rank =>
    exact not_showsSeparator_of_isNumeral (Json.isNumeral_binary64 rfl literalWords)
  | infinite negative => cases negative <;> exact not_showsSeparator_of_notMem (by decide)
  | nan => exact not_showsSeparator_of_notMem (by decide)

/-- **Only the literals of texts show a separator**, and only of those that show it themselves. -/
theorem showsSeparator_literal_iff {value : ChoiceValue} :
    ShowsSeparator (literal value) ↔ ∃ text, value = .text text ∧ ShowsSeparator text := by
  cases value with
  | text text =>
    have hquote : ShowsSeparator (Json.quote text) ↔ ShowsSeparator text := by
      unfold ShowsSeparator Json.quote
      rw [Text.toList_ofList]
      exact Json.infix_quoteChars_iff isBare_of_mem_unionSeparator
    simpa [literal] using hquote
  | null => simpa [literal] using not_showsSeparator_of_notMem (by decide)
  | bool value =>
    cases value <;> simpa [literal] using not_showsSeparator_of_notMem (by decide)
  | int value =>
    simpa [literal] using not_showsSeparator_of_isNumeral (Json.isNumeral_toString_int value)
  | float value => simpa [literal] using not_showsSeparator_float value

/-! ### Separators in unions -/

/-- A union shows a separator between its members, and wherever one of them does. -/
theorem showsSeparator_union_iff {types : List Text} :
    ShowsSeparator (union types) ↔ 2 ≤ types.length ∨ ∃ type ∈ types, ShowsSeparator type := by
  cases types with
  | nil =>
    have hempty : ¬ ShowsSeparator (union []) := by decide
    simpa using hempty
  | cons first rest =>
    cases rest with
    | nil => simp [union]
    | cons second more =>
      refine iff_of_true ?_ (Or.inl (by simp))
      unfold ShowsSeparator union
      rw [Text.intercalate_cons_cons, Text.toList_append, Text.toList_append]
      exact List.infix_append _ _ _

theorem length_distinct {α : Type} [DecidableEq α] (as : List α) :
    (distinct as).length = as.toFinset.card := by
  rw [← List.toFinset_card_of_nodup (nodup_distinct as)]
  congr 1
  ext a
  simp

/-- How many literals values have. -/
def literalCount (values : List ChoiceValue) : Nat := (values.map literal).toFinset.card

/-- There is a text among the values that shows a separator. -/
def OffersSeparator (values : List ChoiceValue) : Prop :=
  ∃ text, ChoiceValue.text text ∈ values ∧ ShowsSeparator text

/-- **A union of literals shows a separator** if there are several of them, or if there is a text
among the values that shows one. -/
theorem showsSeparator_literalUnion_iff {values : List ChoiceValue} :
    ShowsSeparator (literalUnion values) ↔ 2 ≤ literalCount values ∨ OffersSeparator values := by
  unfold literalCount OffersSeparator
  rw [literalUnion, showsSeparator_union_iff, length_distinct]
  apply or_congr_right
  constructor
  · rintro ⟨type, htype, hshown⟩
    obtain ⟨value, hvalue, rfl⟩ := List.mem_map.1 (mem_distinct.1 htype)
    obtain ⟨text, rfl, htext⟩ := showsSeparator_literal_iff.1 hshown
    exact ⟨text, hvalue, htext⟩
  · rintro ⟨text, hvalue, htext⟩
    refine ⟨_, mem_distinct.2 (List.mem_map_of_mem hvalue), ?_⟩
    exact showsSeparator_literal_iff.2 ⟨text, rfl, htext⟩

theorem literalCount_pos {values : List ChoiceValue} (h : values ≠ []) :
    0 < literalCount values := by
  unfold literalCount
  rw [Finset.card_pos, List.toFinset_nonempty_iff]
  simpa using h

/-! ### Arrays of literals -/

variable {values : List ChoiceValue}

theorem arrayOf_literalUnion (h : 2 ≤ literalCount values ∨ OffersSeparator values) :
    arrayOf (literalUnion values) = "(" ++ literalUnion values ++ ")[]" := by
  rw [arrayOf_eq, if_pos (showsSeparator_literalUnion_iff.2 h)]

theorem arrayOf_literalUnion_of_single (h : ¬ 2 ≤ literalCount values)
    (hseparator : ¬ OffersSeparator values) :
    arrayOf (literalUnion values) = literalUnion values ++ "[]" := by
  rw [arrayOf_eq, if_neg]
  rw [showsSeparator_literalUnion_iff, not_or]
  exact ⟨h, hseparator⟩

/-- Parentheses around the element are told from none by the lengths of the two texts. -/
theorem parenthesized_ne (element : Text) : "(" ++ element ++ ")[]" ≠ element ++ "[]" := by
  intro heq
  have hlength := congrArg Text.length heq
  have hopening : ("(" : Text).length = 1 := rfl
  have hclosing : (")[]" : Text).length = 3 := rfl
  have hbrackets : ("[]" : Text).length = 2 := rfl
  simp only [Text.length_append] at hlength
  omega

/-! ### Arrays of choices -/

/-- **A field that takes some of its choices** and no other values. -/
structure TakesSome (field : Field) : Prop where
  structured : field.type ∈ structuredTypes
  interface : ∃ interface ∈ multiChoiceInterfaces ++ [treeChoiceInterface],
    field.interface = some interface
  choices : field.choices ≠ []
  closed : field.allowOther = false

/-- The values that a field offers: for the interface of trees, those of all choices in them. -/
def offeredValues (field : Field) : List ChoiceValue :=
  if field.interface = some treeChoiceInterface then flattenChoices field.choices
  else field.choices.map (·.value)

theorem offeredValues_ne_nil {field : Field} (h : field.choices ≠ []) :
    offeredValues field ≠ [] := by
  have hsubset := map_value_subset_flattenChoices field.choices
  have hvalues : field.choices.map (·.value) ≠ [] := by simpa using h
  unfold offeredValues
  split
  · intro hnil
    rw [hnil, List.subset_nil] at hsubset
    exact hvalues hsubset
  · exact hvalues

theorem primitiveType_of_takesSome {field : Field} (h : TakesSome field) (depth : Int) :
    primitiveType field depth = arrayOf (literalUnion (offeredValues field)) := by
  have hvalues := offeredValues_ne_nil h.choices
  obtain ⟨hstructured, ⟨interface, hinterface, hfield⟩, -, hclosed⟩ := h
  have hgeometry := geometryType?_of_structured hstructured
  have hlist : interface ≠ listInterface := by
    rintro rfl
    exact absurd hinterface (by decide)
  have hliterals : literalsOr (offeredValues field) field.allowOther "string" =
      literalUnion (offeredValues field) := by
    rw [literalsOr, hclosed, if_neg (by simpa using hvalues)]
  -- the interface decides which values are offered and how they are typed
  have hchosen : chosenType field.interface field.choices field.allowOther =
      arrayOf (literalsOr (offeredValues field) field.allowOther "string") := by
    rw [hfield, chosenType, offeredValues, hfield]
    simp only [Option.some.injEq]
    rcases List.mem_append.1 hinterface with hmulti | htree
    · have hne : interface ≠ treeChoiceInterface := by
        rintro rfl
        exact absurd hmulti (by decide)
      rw [if_pos (List.contains_iff_mem.2 hmulti), if_neg hne]
    · obtain rfl := List.mem_singleton.1 htree
      rw [if_neg (by decide), if_pos rfl, if_pos rfl]
  rw [← hliterals, ← hchosen]
  cases field
  simp only at hfield hstructured hgeometry
  rw [primitiveType, hgeometry]
  dsimp only
  rw [if_pos (List.contains_iff_mem.2 hstructured), hfield, if_neg (by simpa using hlist)]

/-- **Parentheses follow the number of literals**, except around the single literal of a text that
shows a union separator.  An array of choices is written with parentheses around its element if
the choices have several literals, or if there is such a text among them; so it is written as the
number of literals says, with several in parentheses and a single one without, exactly if there are
several or no text among the choices shows a separator. -/
theorem array_parentheses_iff {field : Field} (h : TakesSome field) (depth : Int) :
    0 < literalCount (offeredValues field) ∧
    (2 ≤ literalCount (offeredValues field) ∨ OffersSeparator (offeredValues field) →
      primitiveType field depth = "(" ++ literalUnion (offeredValues field) ++ ")[]") ∧
    (literalCount (offeredValues field) = 1 → ¬ OffersSeparator (offeredValues field) →
      primitiveType field depth = literalUnion (offeredValues field) ++ "[]") ∧
    (primitiveType field depth =
        (if 2 ≤ literalCount (offeredValues field)
          then "(" ++ literalUnion (offeredValues field) ++ ")[]"
          else literalUnion (offeredValues field) ++ "[]") ↔
      2 ≤ literalCount (offeredValues field) ∨ ¬ OffersSeparator (offeredValues field)) := by
  have hvalues : offeredValues field ≠ [] := offeredValues_ne_nil h.choices
  rw [primitiveType_of_takesSome h]
  generalize offeredValues field = values at hvalues ⊢
  refine ⟨literalCount_pos hvalues, arrayOf_literalUnion, fun hone hseparator => ?_, ?_⟩
  · exact arrayOf_literalUnion_of_single (by omega) hseparator
  · -- parentheses are right around several literals, and wrong around one with the separator in it
    by_cases hseveral : 2 ≤ literalCount values
    · rw [if_pos hseveral]
      exact iff_of_true (arrayOf_literalUnion (Or.inl hseveral)) (Or.inl hseveral)
    rw [if_neg hseveral, or_iff_right hseveral]
    by_cases hseparator : OffersSeparator values
    · rw [arrayOf_literalUnion (Or.inr hseparator)]
      exact iff_of_false (parenthesized_ne _) (not_not_intro hseparator)
    · exact iff_of_true (arrayOf_literalUnion_of_single hseveral hseparator) hseparator

/-- A field that takes some of the given choices. -/
def tagsField (choices : List Choice) : Field :=
  { name := "x", type := "json", interface := some "tags", choices := choices }

/-- Two literals are put in parentheses, though one of three values is repeated. -/
theorem array_of_pair :
    TakesSome (tagsField [⟨.text "a", []⟩, ⟨.int 1, []⟩, ⟨.text "a", []⟩]) ∧
      primitiveType (tagsField [⟨.text "a", []⟩, ⟨.int 1, []⟩, ⟨.text "a", []⟩]) 0 =
        "(\"a\" | 1)[]" := by
  have htakes : TakesSome (tagsField [⟨.text "a", []⟩, ⟨.int 1, []⟩, ⟨.text "a", []⟩]) :=
    ⟨by decide, ⟨"tags", by decide, rfl⟩, by decide, rfl⟩
  have hparentheses := (array_parentheses_iff htakes 0).2.1 (Or.inl (by decide))
  exact ⟨htakes, hparentheses.trans (by decide)⟩

/-- A single literal is put in parentheses where it shows a separator. -/
theorem array_of_separator :
    TakesSome (tagsField [⟨.text "a | b", []⟩]) ∧
      literalCount (offeredValues (tagsField [⟨.text "a | b", []⟩])) = 1 ∧
      primitiveType (tagsField [⟨.text "a | b", []⟩]) 0 ≠
        literalUnion (offeredValues (tagsField [⟨.text "a | b", []⟩])) ++ "[]" :=
  ⟨⟨by decide, ⟨"tags", by decide, rfl⟩, by decide, rfl⟩, by decide, by decide⟩

end SchemaScribe.Typing
