import SchemaScribe.Proofs.Json.Literal
import SchemaScribe.Proofs.Json.Separated
import SchemaScribe.Proofs.Schema.Equality
import SchemaScribe.Proofs.Typing.Parentheses

/-!
# What types show of choices

The type of a field shows nothing of its choices but the literals of those lists that are written
out (`shownChoices`).  For fields that agree in everything else it tells these lists apart, whatever
type or line it stands in (`tells_primitiveType`).

Types end where a blank, a bracket or a semicolon follows, which no literal but those of texts
contains, and fields that agree have the same texts among their choices.
-/

namespace SchemaScribe.Typing

/-! ### Telling apart -/

/-- **Two texts tell two lists apart**: in front of texts that are related, they are the same just
when the lists are. -/
structure Tells {α : Type} (Rests : List CodePoint → List CodePoint → Prop) (shown shown' : List α)
    (x y : List CodePoint) : Prop where
  length_eq : shown.length = shown'.length
  shown_eq : ∀ {rest rest'}, Rests rest rest' → x ++ rest = y ++ rest' → shown = shown'
  text_eq : shown = shown' → x = y

section Tells

variable {α : Type} {Rests Rests' : List CodePoint → List CodePoint → Prop}
  {shown shown' more more' : List α}
  {x y z w : List CodePoint}

theorem tells_self (x : List CodePoint) : Tells Rests ([] : List α) [] x x :=
  ⟨rfl, fun _ _ => rfl, fun _ => rfl⟩

/-- Texts one after the other tell apart lists one after the other. -/
theorem Tells.append (hx : Tells Rests shown shown' x y) (hz : Tells Rests' more more' z w)
    (hrests : ∀ {rest rest'}, Rests' rest rest' → Rests (z ++ rest) (w ++ rest')) :
    Tells Rests' (shown ++ more) (shown' ++ more') (x ++ z) (y ++ w) where
  length_eq := by rw [List.length_append, List.length_append, hx.length_eq, hz.length_eq]
  shown_eq := by
    intro rest rest' hrest h
    rw [List.append_assoc, List.append_assoc] at h
    have hfirst := hx.shown_eq (hrests hrest) h
    rw [hx.text_eq hfirst] at h
    rw [hfirst, hz.shown_eq hrest (List.append_cancel_left h)]
  text_eq := by
    intro h
    obtain ⟨hfirst, hmore⟩ := List.append_inj h hx.length_eq
    rw [hx.text_eq hfirst, hz.text_eq hmore]

theorem Tells.before (h : Tells Rests shown shown' x y) (before : List CodePoint) :
    Tells Rests shown shown' (before ++ x) (before ++ y) where
  length_eq := h.length_eq
  shown_eq hrest heq := by
    rw [List.append_assoc, List.append_assoc] at heq
    exact h.shown_eq hrest (List.append_cancel_left heq)
  text_eq hshown := by rw [h.text_eq hshown]

theorem Tells.of_before (before : List CodePoint)
    (h : Tells Rests shown shown' (before ++ x) (before ++ y)) : Tells Rests shown shown' x y where
  length_eq := h.length_eq
  shown_eq hrest heq := h.shown_eq hrest (by rw [List.append_assoc, List.append_assoc, heq])
  text_eq hshown := List.append_cancel_left (h.text_eq hshown)

theorem Tells.after (h : Tells Rests shown shown' x y) (after : List CodePoint)
    (hrests : ∀ {rest rest'}, Rests' rest rest' → Rests (after ++ rest) (after ++ rest')) :
    Tells Rests' shown shown' (x ++ after) (y ++ after) where
  length_eq := h.length_eq
  shown_eq hrest heq := by
    rw [List.append_assoc, List.append_assoc] at heq
    exact h.shown_eq (hrests hrest) heq
  text_eq hshown := by rw [h.text_eq hshown]

/-- What one text tells apart is the same. -/
theorem Tells.of_self (h : Tells Rests shown shown' x x) (rest : List CodePoint)
    (hrest : Rests rest rest) (y : List CodePoint) : Tells Rests' shown shown' y y := by
  obtain rfl := h.shown_eq hrest rfl
  exact ⟨rfl, fun _ _ => rfl, fun _ => rfl⟩

end Tells

/-! ### What follows a type -/

/-- The characters that follow types. -/
def typeEnds : List CodePoint := [' ', ';', ')', '[']

/-- **What follows two types alike**: it begins with the end of a type, and it is the same up to the
first semicolon. -/
def EndsAlike (rest rest' : List CodePoint) : Prop :=
  ∃ before after after', .char ';' ∉ before ∧ rest = before ++ .char ';' :: after ∧
    rest' = before ++ .char ';' :: after' ∧
      ∃ c ∈ typeEnds, ∃ more, before ++ [.char ';'] = c :: more

variable {rest rest' : List CodePoint}

theorem endsAlike_semicolon (after after' : List CodePoint) :
    EndsAlike (.char ';' :: after) (.char ';' :: after') :=
  ⟨[], after, after', by simp, rfl, rfl, ';', by simp [typeEnds], [], rfl⟩

theorem EndsAlike.append (h : EndsAlike rest rest') {c : CodePoint} (hc : c ∈ typeEnds)
    (more : List CodePoint) : EndsAlike (c :: more ++ rest) (c :: more ++ rest') := by
  by_cases hmem : .char ';' ∈ c :: more
  · -- the first semicolon stands in what was put in front
    obtain ⟨before, behind, hsplit, hbefore⟩ := List.eq_append_cons_of_mem hmem
    refine ⟨before, behind ++ rest, behind ++ rest', hbefore, ?_, ?_, c, hc, ?_⟩
    · rw [hsplit, List.append_assoc, List.cons_append]
    · rw [hsplit, List.append_assoc, List.cons_append]
    · cases before with
      | nil => exact ⟨[], by rw [(List.cons.inj hsplit).1]; rfl⟩
      | cons d before => exact ⟨before ++ [.char ';'], by rw [(List.cons.inj hsplit).1]; rfl⟩
  · obtain ⟨before, after, after', hbefore, rfl, rfl, -⟩ := h
    refine ⟨c :: more ++ before, after, after', ?_, ?_, ?_, c, hc,
      more ++ before ++ [.char ';'], ?_⟩
    · rw [List.mem_append, not_or]
      exact ⟨hmem, hbefore⟩
    · rw [List.append_assoc]
    · rw [List.append_assoc]
    · simp

theorem EndsAlike.exists_cons (h : EndsAlike rest rest') :
    (∃ c ∈ typeEnds, ∃ more, rest = c :: more) ∧ ∃ c ∈ typeEnds, ∃ more, rest' = c :: more := by
  obtain ⟨before, after, after', -, rfl, rfl, c, hc, more, hmore⟩ := h
  refine ⟨⟨c, hc, more ++ after, ?_⟩, c, hc, more ++ after', ?_⟩
  · rw [← List.singleton_append, ← List.append_assoc, hmore, List.cons_append]
  · rw [← List.singleton_append, ← List.append_assoc, hmore, List.cons_append]

theorem EndsAlike.symm (h : EndsAlike rest rest') : EndsAlike rest' rest := by
  obtain ⟨before, after, after', hbefore, hrest, hrest', hc⟩ := h
  exact ⟨before, after', after, hbefore, hrest', hrest, hc⟩

/-- Nothing without a semicolon fits between the two. -/
theorem EndsAlike.eq_nil (h : EndsAlike rest rest') {between : List CodePoint}
    (hbetween : .char ';' ∉ between)
    (heq : rest = between ++ rest') : between = [] := by
  obtain ⟨before, after, after', hbefore, rfl, rfl, -⟩ := h
  rw [← List.append_assoc] at heq
  have hsame : before = between ++ before :=
    (eq_of_append_cons_eq (p := (· ≠ (.char ';' : CodePoint)))
      (fun c hc => ne_of_mem_of_not_mem hc hbefore)
      (fun c hc => ne_of_mem_of_not_mem hc (by simp [hbetween, hbefore])) (by simp) heq).1
  have hlength := congrArg List.length hsame
  rw [List.length_append] at hlength
  exact List.eq_nil_of_length_eq_zero (by omega)

/-! ### Literals -/

/-- The characters that begin or end literals of texts and types. -/
def typeMarks : List CodePoint := .char '"' :: .char '(' :: typeEnds

/-- A text that is no literal of a text: it is not empty, and there are no marks in it. -/
def IsUnquoted (text : Text) : Prop :=
  text.toList ≠ [] ∧ text.toList.any typeMarks.contains = false

instance (text : Text) : Decidable (IsUnquoted text) := inferInstanceAs (Decidable (_ ∧ _))

theorem IsUnquoted.notMem {text : Text} (h : IsUnquoted text) {c : CodePoint} (hc : c ∈ typeMarks) :
    c ∉ text.toList := by
  intro hmem
  have hany := List.any_eq_false.1 h.2 c hmem
  exact hany (List.contains_iff_mem.2 hc)

theorem isUnquoted_of_isNumeral {text : Text} (h : Json.isNumeral text.toList = true) :
    IsUnquoted text := by
  have hmarks : typeMarks.any Json.isNumeralPart = false := by decide
  refine ⟨?_, List.any_eq_false.2 fun c hc hmark => ?_⟩
  · intro hnil
    rw [hnil] at h
    cases h
  · exact List.any_eq_false.1 hmarks c (List.contains_iff_mem.1 hmark)
      (Json.isNumeralPart_of_isNumeral h c hc)

theorem isUnquoted_literal {value : ChoiceValue} (h : ∀ text, value ≠ .text text) :
    IsUnquoted (literal value) := by
  cases value with
  | null => decide
  | bool value => cases value <;> decide
  | int value => exact isUnquoted_of_isNumeral (Json.isNumeral_toString_int value)
  | float value =>
    cases value with
    | finite negative rank =>
      exact isUnquoted_of_isNumeral (Json.isNumeral_binary64 rfl literalWords)
    | infinite negative => cases negative <;> decide
    | nan => decide
  | text text => exact absurd rfl (h text)

/-- The text of a literal. -/
def IsLiteralText (type : Text) : Prop := (∃ text, type = Json.quote text) ∨ IsUnquoted type

theorem isLiteralText_literal (value : ChoiceValue) : IsLiteralText (literal value) := by
  by_cases h : ∃ text, value = .text text
  · obtain ⟨text, rfl⟩ := h
    exact Or.inl ⟨text, rfl⟩
  · exact Or.inr (isUnquoted_literal fun text htext => h ⟨text, htext⟩)

theorem not_isUnquoted_quote (text : Text) : ¬ IsUnquoted (Json.quote text) := by
  intro h
  refine h.notMem (c := '"') (by simp [typeMarks]) ?_
  rw [Json.toList_quote]
  exact List.mem_cons_self

/-- **A literal is told apart from what follows it**, if that begins with the end of a type. -/
theorem IsLiteralText.eq_of_append {type type' : Text} (h : IsLiteralText type)
    (h' : IsLiteralText type') (hends : ∃ c ∈ typeEnds, ∃ more, rest = c :: more)
    (hends' : ∃ c ∈ typeEnds, ∃ more, rest' = c :: more)
    (heq : type.toList ++ rest = type'.toList ++ rest') : type = type' := by
  have hword : ∀ {type}, IsLiteralText type →
      Json.IsLiteralOrWord (fun c => !typeMarks.contains c) type.toList := by
    rintro type (⟨text, rfl⟩ | hunquoted)
    · exact Json.isLiteralOrWord_quote _ text
    · exact Or.inr ⟨hunquoted.1, fun c hc => by simpa using List.any_eq_false.1 hunquoted.2 c hc⟩
  have hstop : ∀ {rest : List CodePoint}, (∃ c ∈ typeEnds, ∃ more, rest = c :: more) →
      ∀ c ∈ rest.head?, (!typeMarks.contains c) = false := by
    rintro rest ⟨c, hc, more, rfl⟩ d ⟨⟩
    have hmark : typeMarks.contains c = true :=
      List.contains_iff_mem.2 (List.mem_cons_of_mem _ (List.mem_cons_of_mem _ hc))
    rw [hmark, Bool.not_true]
  have hinj := (hword h).append_inj (by decide) (hword h') (hstop hends) (hstop hends') heq
  exact Text.toList_injective hinj.1

/-! ### Unions -/

/-- Types with a separator in front of each. -/
def separated (types : List Text) : List CodePoint :=
  types.flatMap fun type => unionSeparator.toList ++ type.toList

theorem separator_append_union {types : List Text} (h : types ≠ []) :
    unionSeparator.toList ++ (union types).toList = separated types := by
  obtain ⟨first, more, rfl⟩ := List.exists_cons_of_ne_nil h
  rw [union, Text.toList_intercalate, List.map_cons, Json.append_intercalate, ← List.map_cons,
    List.flatMap_map]
  rfl

theorem ends_separated_append (types : List Text)
    (hends : ∃ c ∈ typeEnds, ∃ more, rest = c :: more) :
    ∃ c ∈ typeEnds, ∃ more, separated types ++ rest = c :: more := by
  cases types with
  | nil => exact hends
  | cons type types => exact ⟨' ', by simp [typeEnds], _, rfl⟩

/-- No literals fit between two ends that are alike, unless there is one of a text among them. -/
theorem eq_nil_of_separated_append {types : List Text} (h : ∀ type ∈ types, IsLiteralText type)
    (hnone : ∀ text, Json.quote text ∉ types) (hrest : EndsAlike rest rest')
    (heq : rest = separated types ++ rest') : types = [] := by
  have hsemicolon : .char ';' ∉ separated types := by
    rw [separated, List.mem_flatMap]
    rintro ⟨type, htype, hmem⟩
    rcases List.mem_append.1 hmem with hseparator | hmem
    · exact absurd hseparator (by decide)
    · rcases h type htype with ⟨text, rfl⟩ | hunquoted
      · exact hnone text htype
      · exact hunquoted.notMem (by simp [typeMarks, typeEnds]) hmem
  cases types with
  | nil => rfl
  | cons type types => cases hrest.eq_nil hsemicolon heq

/-- **Literals with separators in front of them are told apart** from others with the same literals
of texts among them, if the ends are alike. -/
theorem eq_of_separated_append {types types' : List Text}
    (h : ∀ type ∈ types, IsLiteralText type) (h' : ∀ type ∈ types', IsLiteralText type)
    (hnodup : types.Nodup) (hnodup' : types'.Nodup)
    (hquoted : ∀ text, Json.quote text ∈ types ↔ Json.quote text ∈ types')
    (hrest : EndsAlike rest rest')
    (heq : separated types ++ rest = separated types' ++ rest') : types = types' := by
  induction types generalizing types' with
  | nil =>
    exact (eq_nil_of_separated_append h' (fun text => by simp [← hquoted]) hrest heq).symm
  | cons first more ih =>
    cases types' with
    | nil =>
      exact eq_nil_of_separated_append h (fun text => by simp [hquoted]) hrest.symm heq.symm
    | cons first' more' =>
      rw [List.forall_mem_cons] at h h'
      rw [List.nodup_cons] at hnodup hnodup'
      obtain ⟨hends, hends'⟩ := hrest.exists_cons
      simp only [separated, List.flatMap_cons, List.append_assoc] at heq
      have hchars := List.append_cancel_left heq
      -- each literal ends where the next separator or the common end begins
      obtain rfl := h.1.eq_of_append h'.1 (ends_separated_append more hends)
        (ends_separated_append more' hends') hchars
      -- the first literal is not repeated, so the others have the same texts among them
      have hmore : ∀ text, Json.quote text ∈ more ↔ Json.quote text ∈ more' := by
        intro text
        have hboth := hquoted text
        rw [List.mem_cons, List.mem_cons] at hboth
        by_cases hfirst : Json.quote text = first
        · rw [hfirst]
          exact iff_of_false hnodup.1 hnodup'.1
        · rwa [or_iff_right hfirst, or_iff_right hfirst] at hboth
      rw [ih h.2 h'.2 hnodup.2 hnodup'.2 hmore (List.append_cancel_left hchars)]

variable {values values' : List ChoiceValue}

/-- Equal values have the same literals of texts among them. -/
theorem quote_mem_iff (h : List.Forall₂ (fun v w => v.same w = true) values values')
    (text : Text) :
    Json.quote text ∈ values.map literal ↔ Json.quote text ∈ values'.map literal := by
  have hquote : ∀ {v w : ChoiceValue}, v.same w = true →
      Json.quote text = literal v → Json.quote text = literal w := by
    intro v w hsame hv
    by_cases htext : ∃ text', v = .text text'
    · obtain ⟨text', rfl⟩ := htext
      rw [hv, (ChoiceValue.text_of_same hsame text').1 rfl]
    · refine absurd (isUnquoted_literal fun text' hv' => htext ⟨text', hv'⟩) ?_
      rw [← hv]
      exact not_isUnquoted_quote text
  induction h with
  | nil => rfl
  | @cons v w values values' hfirst _ ih =>
    have hback := (ChoiceValue.same_comm v w).symm.trans hfirst
    rw [List.map_cons, List.map_cons, List.mem_cons, List.mem_cons]
    exact or_congr ⟨hquote hfirst, hquote hback⟩ ih

theorem distinct_ne_nil {types : List Text} (h : types ≠ []) : distinct types ≠ [] := by
  cases types with
  | nil => exact absurd rfl h
  | cons type types => simp [distinct]

/-- **A union of literals tells its literals**, among those of equal values. -/
theorem tells_literalUnion (h : List.Forall₂ (fun v w => v.same w = true) values values')
    (hne : values ≠ []) :
    Tells EndsAlike [distinct (values.map literal)] [distinct (values'.map literal)]
      (literalUnion values).toList (literalUnion values').toList := by
  have hne' : values' ≠ [] := by
    rintro rfl
    cases h
    exact hne rfl
  have hliterals : ∀ values : List ChoiceValue,
      ∀ type ∈ distinct (values.map literal), IsLiteralText type := by
    intro values type htype
    obtain ⟨value, -, rfl⟩ := List.mem_map.1 (mem_distinct.1 htype)
    exact isLiteralText_literal value
  -- with a separator before each literal they are told apart one by one
  refine Tells.of_before unionSeparator.toList ?_
  rw [literalUnion, literalUnion, separator_append_union (distinct_ne_nil (by simpa using hne)),
    separator_append_union (distinct_ne_nil (by simpa using hne'))]
  refine ⟨rfl, fun hrest heq => ?_, fun hshown => by rw [(List.cons.inj hshown).1]⟩
  refine congrArg (fun types => [types]) ?_
  refine eq_of_separated_append (hliterals _) (hliterals _) (nodup_distinct _) (nodup_distinct _)
    (fun text => ?_) hrest heq
  rw [mem_distinct, mem_distinct, quote_mem_iff h]

/-- A union of literals does not begin with a parenthesis. -/
theorem literalUnion_append_ne (hne : values ≠ []) (more : List CodePoint) :
    (literalUnion values).toList ++ rest ≠ .char '(' :: more := by
  intro heq
  have hliterals : values.map literal ≠ [] := by simpa using hne
  obtain ⟨first, others, hdistinct⟩ := List.exists_cons_of_ne_nil (distinct_ne_nil hliterals)
  have hunion : (literalUnion values).toList = first.toList ++ separated others := by
    have hseparated := separator_append_union (List.cons_ne_nil first others)
    rw [separated, List.flatMap_cons, List.append_assoc] at hseparated
    rw [literalUnion, hdistinct]
    exact List.append_cancel_left hseparated
  obtain ⟨value, -, hvalue⟩ := List.mem_map.1
    (mem_distinct.1 (hdistinct ▸ List.mem_cons_self : first ∈ distinct (values.map literal)))
  rw [hunion, List.append_assoc] at heq
  -- a literal begins with a quote, or holds no parenthesis at all
  rcases isLiteralText_literal value with ⟨text, hquote⟩ | hunquoted
  · rw [← hvalue, hquote, Json.toList_quote] at heq
    exact absurd (List.cons.inj heq).1 (by decide)
  · rw [hvalue] at hunquoted
    cases hchars : first.toList with
    | nil => exact hunquoted.1 hchars
    | cons c cs =>
      rw [hchars] at heq
      refine hunquoted.notMem (c := '(') (by simp [typeMarks]) ?_
      rw [hchars, (List.cons.inj heq).1]
      exact List.mem_cons_self

/-- **The type of lists of literals tells the literals**, also where there are parentheses in one
type only. -/
theorem tells_arrayOf (h : List.Forall₂ (fun v w => v.same w = true) values values')
    (hne : values ≠ []) :
    Tells EndsAlike [distinct (values.map literal)] [distinct (values'.map literal)]
      (arrayOf (literalUnion values)).toList (arrayOf (literalUnion values')).toList := by
  have hunion := tells_literalUnion h hne
  have hne' : values' ≠ [] := by
    rintro rfl
    cases h
    exact hne rfl
  rw [arrayOf_eq, arrayOf_eq]
  split <;> split
  · simp only [Text.toList_append]
    exact (hunion.before _).after _ fun hrest =>
      hrest.append (c := ')') (by simp [typeEnds]) (Text.toList "[]")
  · next hseparator hnone =>
    -- one is in parentheses and the other is not: neither goes on as the other
    refine ⟨rfl, fun _ heq => ?_, fun hshown => ?_⟩
    · simp only [Text.toList_append, List.append_assoc] at heq
      exact absurd heq.symm (literalUnion_append_ne hne' _)
    · rw [Text.toList_injective (hunion.text_eq hshown)] at hseparator
      exact absurd hseparator hnone
  · next hnone hseparator =>
    refine ⟨rfl, fun _ heq => ?_, fun hshown => ?_⟩
    · simp only [Text.toList_append, List.append_assoc] at heq
      exact absurd heq (literalUnion_append_ne hne _)
    · rw [Text.toList_injective (hunion.text_eq hshown)] at hnone
      exact absurd hseparator hnone
  · rw [Text.toList_append, Text.toList_append]
    exact hunion.after _ fun hrest => hrest.append (c := '[') (by simp [typeEnds]) (Text.toList "]")

/-! ### Choices -/

/-- **The literals that a list of choices is written as**, if it is written out: each once. -/
def writtenOut (values : List ChoiceValue) (allowOther : Bool) : List (List Text) :=
  if allowOther || values.isEmpty then [] else [distinct (values.map literal)]

/-- The literals in the type of a structured value whose interface is not the list. -/
def chosenLiterals (interface : Option Text) (choices : List Choice) (allowOther : Bool) :
    List (List Text) :=
  match interface with
  | none => []
  | some interface =>
    if multiChoiceInterfaces.contains interface then
      writtenOut (choices.map (·.value)) allowOther
    else if interface = treeChoiceInterface then writtenOut (flattenChoices choices) allowOther
    else []

/-- The literals in the type of a scalar value. -/
def selectedLiterals (interface : Option Text) (choices : List Choice) (allowOther : Bool) :
    List (List Text) :=
  if interface.any singleChoiceInterfaces.contains then
    writtenOut (choices.map (·.value)) allowOther
  else []

mutual

/-- **The lists of literals in the type of the value that a field stores**, within `depth`
lists. -/
def shownChoices : Field → Int → List (List Text)
  | ⟨_, type, _, _, _, interface, choices, allowOther, subFields, _⟩, depth =>
    match geometryType? type with
    | some _ => []
    | none =>
      if structuredTypes.contains type then
        if interface = some listInterface then
          if maxListDepth ≤ depth then [] else shownInItems subFields (depth + 1)
        else chosenLiterals interface choices allowOther
      else selectedLiterals interface choices allowOther

/-- The lists of literals in the types of the sub-fields that store a value. -/
def shownInItems : List Field → Int → List (List Text)
  | [], _ => []
  | field :: rest, depth =>
    if field.isPresentational then shownInItems rest depth
    else shownChoices field depth ++ shownInItems rest depth

end

theorem isEmpty_eq_of_same (h : List.Forall₂ (fun v w => v.same w = true) values values') :
    values'.isEmpty = values.isEmpty := by
  cases h <;> rfl

theorem tells_literalsOr (h : List.Forall₂ (fun v w => v.same w = true) values values')
    (allowOther : Bool) (fallback : Text) :
    Tells EndsAlike (writtenOut values allowOther) (writtenOut values' allowOther)
      (literalsOr values allowOther fallback).toList
      (literalsOr values' allowOther fallback).toList := by
  rw [writtenOut, writtenOut, literalsOr, literalsOr, isEmpty_eq_of_same h]
  split
  · exact tells_self _
  · next hshown => exact tells_literalUnion h (by simp at hshown; simp [hshown])

theorem tells_array_literalsOr (h : List.Forall₂ (fun v w => v.same w = true) values values')
    (allowOther : Bool) (fallback : Text) :
    Tells EndsAlike (writtenOut values allowOther) (writtenOut values' allowOther)
      (arrayOf (literalsOr values allowOther fallback)).toList
      (arrayOf (literalsOr values' allowOther fallback)).toList := by
  rw [writtenOut, writtenOut, literalsOr, literalsOr, isEmpty_eq_of_same h]
  split
  · exact tells_self _
  · next hshown => exact tells_arrayOf h (by simp at hshown; simp [hshown])

variable {choices choices' : List Choice}

theorem tells_chosenType (h : Choice.sameList choices choices' = true) (interface : Option Text)
    (allowOther : Bool) :
    Tells EndsAlike (chosenLiterals interface choices allowOther)
      (chosenLiterals interface choices' allowOther)
      (chosenType interface choices allowOther).toList
      (chosenType interface choices' allowOther).toList := by
  cases interface with
  | none => exact tells_self _
  | some interface =>
    rw [chosenLiterals, chosenLiterals, chosenType, chosenType]
    split
    · exact tells_array_literalsOr (forall₂_values h) _ _
    split
    · exact tells_array_literalsOr (forall₂_flattenChoices h) _ _
    · exact tells_self _

theorem tells_selectedType (h : Choice.sameList choices choices' = true) (type : Text)
    (interface : Option Text) (allowOther : Bool) :
    Tells EndsAlike (selectedLiterals interface choices allowOther)
      (selectedLiterals interface choices' allowOther)
      (selectedType type interface choices allowOther).toList
      (selectedType type interface choices' allowOther).toList := by
  rw [selectedLiterals, selectedLiterals, selectedType, selectedType]
  split
  · exact tells_literalsOr (forall₂_values h) _ _
  · exact tells_self _

/-! ### Lists -/

/-- The members of the items of a list, with a separator in front of each. -/
def listed (members : List Text) : List CodePoint :=
  members.flatMap fun member => (Text.toList "; ") ++ member.toList

theorem toList_listType {members : List Text} (h : members ≠ []) :
    (Text.toList "; ") ++ (Text.intercalate "; " members).toList = listed members := by
  obtain ⟨first, more, rfl⟩ := List.exists_cons_of_ne_nil h
  rw [Text.toList_intercalate, List.map_cons, Json.append_intercalate, ← List.map_cons,
    List.flatMap_map]
  rfl

theorem endsAlike_listed_append {members members' : List Text}
    (h : members = [] ↔ members' = []) (hrest : EndsAlike rest rest') :
    EndsAlike (listed members ++ rest) (listed members' ++ rest') := by
  cases members with
  | nil =>
    obtain rfl := h.1 rfl
    exact hrest
  | cons first more =>
    cases members' with
    | nil => cases h.2 rfl
    | cons first' more' => exact endsAlike_semicolon _ _

variable {α : Type} {shown shown' : List α}

theorem tells_itemMember {f g : Field} (h : f.Agrees g) {type type' : Text}
    (htype : Tells EndsAlike shown shown' type.toList type'.toList) :
    Tells EndsAlike shown shown' (itemMember f type).toList (itemMember g type').toList := by
  have hkey : itemMember g type' = memberIdentifier f.name ++ (if f.required then "" else "?") ++
      ": " ++ type' ++ (if f.nullable then " | null" else "") := by
    rw [itemMember, h.eq]
  rw [hkey, itemMember]
  simp only [Text.toList_append (_ ++ _ ++ _ ++ _), Text.toList_append _ type,
    Text.toList_append _ type']
  refine (htype.before _).after _ fun hrest => ?_
  split
  · exact hrest.append (c := ' ') (by simp [typeEnds]) (Text.toList "| null")
  · exact hrest

theorem tells_listType {members members' : List Text} (h : members = [] ↔ members' = [])
    (htells : Tells EndsAlike shown shown' (listed members) (listed members')) :
    Tells EndsAlike shown shown' (listType members).toList (listType members').toList := by
  by_cases hmembers : members = []
  · obtain rfl := h.1 hmembers
    subst hmembers
    exact htells.of_self [.char ';'] (endsAlike_semicolon [] []) _
  · have hmembers' : members' ≠ [] := fun hnil => hmembers (h.2 hnil)
    rw [← toList_listType hmembers, ← toList_listType hmembers'] at htells
    rw [listType, listType, if_neg (by simpa using hmembers), if_neg (by simpa using hmembers'),
      Text.toList_append, Text.toList_append, Text.toList_append, Text.toList_append]
    exact ((htells.of_before _).before _).after _ fun hrest =>
      hrest.append (c := ' ') (by simp [typeEnds]) (Text.toList "\x7d[]")

/-! ### Values -/

mutual

/-- **The type of a value tells the choices that it shows**, among fields that agree in everything
but the values of choices. -/
theorem tells_primitiveType : ∀ (f g : Field) (depth : Int), f.Agrees g →
    Tells EndsAlike (shownChoices f depth) (shownChoices g depth)
      (primitiveType f depth).toList (primitiveType g depth).toList
  | ⟨_, type, _, _, _, interface, choices, allowOther, subFields, _⟩, g, depth, h => by
    obtain ⟨heq, hchoices, hsubFields⟩ := h
    rw [heq]
    generalize g.choices = choices' at hchoices
    generalize g.subFields = subFields' at hsubFields
    simp only [shownChoices, primitiveType]
    cases geometryType? type with
    | some geometry => exact tells_self _
    | none =>
      dsimp only at hchoices ⊢
      split
      · split
        · split
          · exact tells_self _
          · obtain ⟨hnil, hitems⟩ := tells_itemMembers subFields subFields' (depth + 1) hsubFields
            exact tells_listType hnil hitems
        · exact tells_chosenType hchoices _ _
      · exact tells_selectedType hchoices _ _ _

theorem tells_itemMembers : ∀ (fs gs : List Field) (depth : Int), Field.sameList fs gs = true →
    (itemMembers fs depth = [] ↔ itemMembers gs depth = []) ∧
      Tells EndsAlike (shownInItems fs depth) (shownInItems gs depth)
        (listed (itemMembers fs depth)) (listed (itemMembers gs depth))
  | [], [], _, _ => ⟨Iff.rfl, tells_self _⟩
  | [], _ :: _, _, h => by cases h
  | _ :: _, [], _, h => by cases h
  | f :: fs, g :: gs, depth, h => by
    rw [Field.sameList, Bool.and_eq_true] at h
    have hagrees : f.Agrees g := Field.agrees_of_same h.1
    obtain ⟨hnil, hitems⟩ := tells_itemMembers fs gs depth h.2
    rw [itemMembers, itemMembers, shownInItems, shownInItems, hagrees.isPresentational]
    split
    · exact ⟨hnil, hitems⟩
    · have hmember := tells_itemMember hagrees (tells_primitiveType f g depth hagrees)
      refine ⟨by simp, (hmember.before (Text.toList "; ")).append hitems fun hrest => ?_⟩
      exact endsAlike_listed_append hnil hrest

end

end SchemaScribe.Typing
