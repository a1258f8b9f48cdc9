import Mathlib.Data.List.Infix
import SchemaScribe.Proofs.Json.WrittenNumber
import SchemaScribe.Proofs.Typing.Composition

/-!
# What the types of stored values denote

The type that a field stores is a type of its own, apart from how it is written (`storedType`):
geometry, lists of objects, lists of choices and scalars.  The text of `primitiveType` denotes it at
every depth of lists (`primitiveType_denotes_storedType`), whatever the names and choices hold.
-/

namespace SchemaScribe

/-- A value that can be written as a literal: any but the infinite numbers and `nan`. -/
def ChoiceValue.isFinite : ChoiceValue → Bool
  | .float value => value.isFinite
  | _ => true

namespace Typing

open TypeExpr (unite)

/-! ### Literals -/

/-- The literal of a choice. -/
def choiceLiteral : ChoiceValue → Literal
  | .null => .null
  | .bool value => .bool value
  | .int value => .numeral (toString value)
  | .float value => .numeral (value.text literalWords)
  | .text value => .text value

/-- How a literal is written. -/
def Literal.spelling : Literal → Text
  | .null => "null"
  | .bool true => "true"
  | .bool false => "false"
  | .numeral spelling => spelling
  | .text value => Json.quote value

/-- A literal whose numeral is one. -/
def Literal.isProper : Literal → Bool
  | .numeral spelling => Json.isNumeral spelling.toList
  | _ => true

theorem spelling_choiceLiteral (value : ChoiceValue) :
    (choiceLiteral value).spelling = literal value := by
  cases value with
  | bool value => cases value <;> rfl
  | _ => rfl

theorem isProper_choiceLiteral {value : ChoiceValue} (h : value.isFinite = true) :
    (choiceLiteral value).isProper = true := by
  cases value with
  | int value => exact Json.isNumeral_toString_int value
  | float value => exact Json.isNumeral_binary64 h literalWords
  | _ => rfl

/-- **A literal is read back.** -/
theorem single_spelling {literal : Literal} (h : literal.isProper = true) :
    Single literal.spelling (.literal literal) := by
  refine ⟨?_, rfl⟩
  cases literal with
  | null => exact reads_word (by decide)
  | bool value => cases value <;> exact reads_word (by decide)
  | numeral spelling => exact reads_numeral h
  | text value => exact reads_quote value

/-- Literals are told from how they are written. -/
theorem spelling_injOn {a b : Literal} (ha : a.isProper = true) (hb : b.isProper = true)
    (h : a.spelling = b.spelling) : a = b := by
  have hread := (single_spelling ha).1.union.read?_eq
  rw [h, (single_spelling hb).1.union.read?_eq] at hread
  exact (TypeExpr.literal.inj (Option.some.inj hread)).symm

/-- The first of equal members are the same before and after a map that tells them apart. -/
theorem distinct_map {α β : Type} [DecidableEq α] [DecidableEq β] {f : α → β} {as : List α}
    (hf : ∀ a ∈ as, ∀ b ∈ as, f a = f b → a = b) : distinct (as.map f) = (distinct as).map f := by
  induction as with
  | nil => rfl
  | cons a rest ih =>
    have hrest : ∀ b ∈ rest, ∀ c ∈ rest, f b = f c → b = c := by
      intro b hb c hc
      exact hf b (List.mem_cons_of_mem a hb) c (List.mem_cons_of_mem a hc)
    rw [List.map_cons, distinct, distinct, List.map_cons, ih hrest, List.filter_map]
    congr 2
    apply List.filter_congr
    intro b hb
    have hb : b ∈ rest := mem_distinct.1 hb
    have hiff : f b = f a ↔ b = a :=
      ⟨hf b (List.mem_cons_of_mem a hb) a List.mem_cons_self, congrArg f⟩
    simp [hiff]

/-! ### Choices -/

/-- The literals of values, each once and in the order of its first value. -/
def choiceTypes (values : List ChoiceValue) : List TypeExpr :=
  (distinct (values.map choiceLiteral)).map .literal

/-- The type of one of the given values, or `fallback` if there are none or others are allowed. -/
def choiceType (values : List ChoiceValue) (allowOther : Bool) (fallback : TypeExpr) : TypeExpr :=
  if allowOther || values.isEmpty then fallback else unite (choiceTypes values)

theorem joined_literalUnion {values : List ChoiceValue} (hne : values ≠ [])
    (h : ∀ value ∈ values, value.isFinite = true) :
    Joined " | " Single (literalUnion values) (choiceTypes values) := by
  have hproper : ∀ literal ∈ values.map choiceLiteral, literal.isProper = true := by
    intro literal hliteral
    obtain ⟨value, hvalue, rfl⟩ := List.mem_map.1 hliteral
    exact isProper_choiceLiteral (h value hvalue)
  -- literals are told apart by their texts, so the same ones of both are repeated
  have htexts : distinct (values.map literal) =
      (distinct (values.map choiceLiteral)).map Literal.spelling := by
    rw [← distinct_map fun a ha b hb => spelling_injOn (hproper a ha) (hproper b hb), List.map_map]
    congr 1
    exact List.map_congr_left fun value _ => (spelling_choiceLiteral value).symm
  rw [literalUnion, Typing.union, htexts, choiceTypes]
  apply joined_intercalate
  · cases values with
    | nil => exact absurd rfl hne
    | cons value rest =>
      rw [List.map_cons, distinct]
      exact List.cons_ne_nil _ _
  · rw [List.forall₂_map_left_iff, List.forall₂_map_right_iff, List.forall₂_same]
    intro literal hliteral
    exact single_spelling (hproper literal (mem_distinct.1 hliteral))

/-- **Choices are written as the type of one of them.** -/
theorem writes_literalsOr {values : List ChoiceValue} {allowOther : Bool} {text : Text}
    {fallback : TypeExpr} (hfallback : Writes text fallback)
    (h : ∀ value ∈ values, value.isFinite = true) :
    Writes (literalsOr values allowOther text) (choiceType values allowOther fallback) := by
  rw [literalsOr, choiceType]
  split
  · exact hfallback
  · next hne =>
    rw [Bool.or_eq_true, not_or, List.isEmpty_iff] at hne
    exact writes_unite (joined_literalUnion hne.2 h)

/-! ### Lists of types -/

theorem occursIn_iff {part cs : List CodePoint} : occursIn part cs = true ↔ part <:+: cs := by
  induction cs with
  | nil => rw [occursIn, List.isEmpty_iff, List.infix_nil]
  | cons c cs ih =>
    rw [occursIn, Bool.or_eq_true, List.isPrefixOf_iff_prefix, ih, List.infix_cons_iff]

/-- A text is shown among others that it is joined with. -/
theorem infix_intercalate {separator part : Text} {parts : List Text} (h : part ∈ parts) :
    part.toList <:+: (Text.intercalate separator parts).toList := by
  induction parts with
  | nil => cases h
  | cons first rest ih =>
    cases rest with
    | nil => rw [List.mem_singleton.1 h, Text.intercalate_singleton]
    | cons second more =>
      rw [Text.intercalate_cons_cons, Text.toList_append, Text.toList_append]
      rcases List.mem_cons.1 h with rfl | h
      · rw [List.append_assoc]
        exact (List.prefix_append _ _).isInfix
      · exact (ih h).trans (List.suffix_append _ _).isInfix

/-- **Lists of a type that is written.**  Alternatives are put in parentheses: they are told by the
bar between them, and where a literal only shows one the parentheses do no harm. -/
theorem Writes.arrayOf {text : Text} {type : TypeExpr} (h : Writes text type) :
    Single (arrayOf text) (.array type) := by
  rw [Typing.arrayOf]
  split
  · have htext : "(" ++ text ++ ")[]" = "(" ++ text ++ ")" ++ "[]" := by
      rw [Text.append_assoc, Text.append_assoc]
      rfl
    rw [htext]
    exact ⟨h.reads.parentheses.array, rfl⟩
  · next hbar =>
    -- without a bar there is one alternative only
    have htype : type.isUnion = false := by
      rw [Bool.eq_false_iff]
      intro htype
      obtain ⟨before, after, rfl⟩ := h.exists_bar htype
      apply hbar
      rw [occursIn_iff, Text.toList_append, Text.toList_append]
      exact List.infix_append _ _ _
    exact (h.single htype).array

/-! ### Geometry -/

/-- A type within levels of lists. -/
def listsOf : Nat → TypeExpr → TypeExpr
  | 0, type => type
  | levels + 1, type => listsOf levels (.array type)

/-- The type of a shape whose points stand in levels of lists. -/
def shapeType (shape : Text) (levels : Nat) : TypeExpr :=
  .object [⟨"type", false, .literal (.text shape)⟩,
    ⟨"coordinates", false, listsOf levels (.tuple [.named "number", .named "number"])⟩]

/-- The type of a geometry field. -/
def shapeType? (type : Text) : Option TypeExpr :=
  (geometryShapes.find? fun entry => type == "geometry." ++ entry.1).map fun entry =>
    shapeType entry.1 entry.2

theorem geometryType?_eq_none_iff {type : Text} :
    geometryType? type = none ↔ shapeType? type = none := by
  simp [geometryType?, shapeType?]

theorem geometryType?_of_structured {type : Text} (h : type ∈ structuredTypes) :
    geometryType? type = none := by
  have hall : ∀ type ∈ structuredTypes, geometryType? type = none := by decide
  exact hall type h

theorem reads_lists {text : Text} {type : TypeExpr} (h : Reads operand? [] text type)
    (levels : Nat) :
    Reads operand? [] (text ++ Text.join (List.replicate levels "[]")) (listsOf levels type) := by
  induction levels generalizing text type with
  | zero =>
    rw [List.replicate_zero, Text.join_nil, Text.append_empty]
    exact h
  | succ levels ih =>
    rw [listsOf, List.replicate_succ, Text.join_cons, ← Text.append_assoc]
    exact ih h.array

/-- **A shape is written as its type**, if its name needs no escapes. -/
theorem single_geometryObject {shape : Text} (hshape : Json.quote shape = "\"" ++ shape ++ "\"")
    (levels : Nat) : Single (geometryObject shape levels) (shapeType shape levels) := by
  have hnumber : Reads operand? [] "number" (.named "number") := reads_word (by decide)
  have hpoints := reads_lists (reads_tuple ((Joined.one hnumber.union).more hnumber.union)) levels
  have hjoined :
      Joined ", " (Reads objectMember? [.char '?', .char ':', .char '|', .char '&']) _ _ :=
    (Joined.one (reads_objectMember "type" false (reads_quote shape).union)).more
      (reads_objectMember "coordinates" false hpoints.union)
  have hmembers := reads_object (c := ',') (by decide) (by decide) (by decide) hjoined
  have htype : memberIdentifier "type" = "type" := if_pos (by decide)
  have hcoordinates : memberIdentifier "coordinates" = "coordinates" := if_pos (by decide)
  rw [htype, hcoordinates, hshape] at hmembers
  refine ⟨?_, rfl⟩
  convert hmembers using 1
  · simp [geometryObject, ← Text.toList_inj]
  · rfl

/-! ### Scalars and choices -/

theorem single_word {name : Text} (h : isPlainIdentifier name.toList = true)
    (hname : wordType name = .named name) : Single name (.named name) :=
  ⟨hname ▸ reads_word h, rfl⟩

theorem single_scalarType (type : Text) :
    Single (scalarType type) (.named (scalarType type)) := by
  rw [scalarType]
  split
  · exact single_word (by decide) rfl
  split
  · exact single_word (by decide) rfl
  · exact single_word (by decide) rfl

/-- The type of a scalar value. -/
def scalarChoice (type : Text) (interface : Option Text) (choices : List Choice)
    (allowOther : Bool) : TypeExpr :=
  if interface.any singleChoiceInterfaces.contains then
    choiceType (choices.map (·.value)) allowOther (.named (scalarType type))
  else .named (scalarType type)

/-- The type of a structured value whose interface is not the list. -/
def structuredChoice (interface : Option Text) (choices : List Choice) (allowOther : Bool) :
    TypeExpr :=
  if interface.any multiChoiceInterfaces.contains then
    .array (choiceType (choices.map (·.value)) allowOther (.named "string"))
  else if interface = some treeChoiceInterface then
    .array (choiceType (flattenChoices choices) allowOther (.named "string"))
  else .named "unknown"

/-! ### Stored values -/

/-- A type, with null as one more alternative where it may be null. -/
def withNull (nullable : Bool) (type : TypeExpr) : TypeExpr :=
  if nullable then unite [type, .literal .null] else type

/-- The type of a list whose items have the given members. -/
def itemsType (members : List (ObjectMember TypeExpr)) : TypeExpr :=
  .array (if members.isEmpty then .applied "Record" [.named "string", .named "unknown"]
    else .object members)

mutual

/-- **The type of the value that a field stores**, within `depth` lists. -/
def storedType : Field → Int → TypeExpr
  | ⟨_, type, _, _, _, interface, choices, allowOther, subFields, _⟩, depth =>
    match shapeType? type with
    | some shape => shape
    | none =>
      if structuredTypes.contains type then
        if interface = some listInterface then
          if maxListDepth ≤ depth then .named "unknown"
          else itemsType (storedMembers subFields (depth + 1))
        else structuredChoice interface choices allowOther
      else scalarChoice type interface choices allowOther

/-- The members of the items of a list: one for each sub-field that stores a value, which may be
left out unless it is required, and may be null where it is nullable. -/
def storedMembers : List Field → Int → List (ObjectMember TypeExpr)
  | [], _ => []
  | field :: rest, depth =>
    if field.isPresentational then storedMembers rest depth
    else
      ⟨field.name, !field.required, withNull field.nullable (storedType field depth)⟩ ::
        storedMembers rest depth

end

mutual

/-- The values of the choices of a field and of all its sub-fields. -/
def choiceValues : Field → List ChoiceValue
  | ⟨_, _, _, _, _, _, choices, _, subFields, _⟩ =>
    flattenChoices choices ++ choiceValuesIn subFields

/-- The values of the choices of fields. -/
def choiceValuesIn : List Field → List ChoiceValue
  | [] => []
  | field :: rest => choiceValues field ++ choiceValuesIn rest

end

/-- The values of choices are among those of all choices in their trees. -/
theorem map_value_subset_flattenChoices (choices : List Choice) :
    choices.map (·.value) ⊆ flattenChoices choices := by
  induction choices with
  | nil => exact List.nil_subset _
  | cons first rest ih =>
    obtain ⟨value, children⟩ := first
    rw [List.map_cons, flattenChoices, flattenChoice, List.cons_append]
    exact List.cons_subset_cons value (List.subset_append_of_subset_right _ ih)

theorem writes_structuredChoice (interface : Option Text) {choices : List Choice}
    (allowOther : Bool) (h : ∀ value ∈ flattenChoices choices, value.isFinite = true) :
    Writes (chosenType interface choices allowOther)
      (structuredChoice interface choices allowOther) := by
  have hvalues : ∀ value ∈ choices.map (·.value), value.isFinite = true :=
    fun value hvalue => h value (map_value_subset_flattenChoices choices hvalue)
  have htext : Writes "string" (.named "string") := (single_word (by decide) rfl).writes
  have hunknown : Writes unknownType (.named "unknown") := (single_word (by decide) rfl).writes
  cases interface with
  | none => exact hunknown
  | some interface =>
    rw [chosenType, structuredChoice, Option.any_some]
    split
    · exact (writes_literalsOr htext hvalues).arrayOf.writes
    · simp only [Option.some.injEq]
      split
      · exact (writes_literalsOr htext h).arrayOf.writes
      · exact hunknown

theorem writes_scalarChoice (type : Text) (interface : Option Text) {choices : List Choice}
    (allowOther : Bool) (h : ∀ value ∈ flattenChoices choices, value.isFinite = true) :
    Writes (selectedType type interface choices allowOther)
      (scalarChoice type interface choices allowOther) := by
  have hvalues : ∀ value ∈ choices.map (·.value), value.isFinite = true :=
    fun value hvalue => h value (map_value_subset_flattenChoices choices hvalue)
  rw [selectedType, scalarChoice]
  split
  · exact writes_literalsOr (single_scalarType type).writes hvalues
  · exact (single_scalarType type).writes

/-! ### Reading stored types -/

/-- The members of the items of a list may be anything. -/
theorem single_listType {texts : List Text} {members : List (ObjectMember TypeExpr)}
    (h : List.Forall₂ (Reads objectMember? [.char '?', .char ':', .char '|', .char '&']) texts
      members) :
    Single (listType texts) (itemsType members) := by
  refine ⟨?_, rfl⟩
  rw [listType, itemsType]
  cases h with
  | nil =>
    have hstring : Reads operand? [] "string" (.named "string") := reads_word (by decide)
    have hunknown : Reads operand? [] "unknown" (.named "unknown") := reads_word (by decide)
    have hname : isPlainIdentifier (Text.toList "Record") = true := by decide
    exact (reads_applied hname ((Joined.one hstring.union).more hunknown.union)).array
  | cons hfirst hrest =>
    have hjoined :
        Joined "; " (Reads objectMember? [.char '?', .char ':', .char '|', .char '&']) _ _ :=
      joined_intercalate (List.cons_ne_nil _ _) (.cons hfirst hrest)
    have hobject := reads_object (c := ';') (by decide) (by decide) (by decide) hjoined
    rw [List.isEmpty_cons, List.isEmpty_cons, if_neg Bool.false_ne_true, if_neg Bool.false_ne_true]
    convert hobject.array using 1
    simp [← Text.toList_inj]

/-- A member of the items of a list is written with its name, its mark and its type. -/
theorem reads_itemMember {field : Field} {text : Text} {type : TypeExpr} (h : Writes text type) :
    Reads objectMember? [.char '?', .char ':', .char '|', .char '&'] (itemMember field text)
      ⟨field.name, !field.required, withNull field.nullable type⟩ := by
  have hnull : Single "null" (.literal .null) := ⟨reads_word (by decide), rfl⟩
  have htype : Reads union? [.char '|', .char '&']
      (text ++ (if field.nullable then " | null" else "")) (withNull field.nullable type) := by
    rw [withNull]
    split
    · have hor := (h.or hnull).reads
      rwa [Text.append_assoc] at hor
    · rw [Text.append_empty]
      exact h.reads
  have hmember := reads_objectMember field.name (!field.required) htype
  convert hmember using 1
  rw [← Text.toList_inj]
  cases hrequired : field.required <;> simp [itemMember, hrequired]

mutual

/-- The type of a stored value is written, at any depth of lists. -/
theorem writes_primitiveType :
    ∀ (field : Field) (depth : Int), (∀ value ∈ choiceValues field, value.isFinite = true) →
      Writes (primitiveType field depth) (storedType field depth)
  | ⟨_, type, _, _, _, interface, choices, allowOther, subFields, _⟩, depth, h => by
    rw [choiceValues, List.forall_mem_append] at h
    rw [primitiveType, storedType, geometryType?, shapeType?]
    cases hfound : geometryShapes.find? fun entry => type == "geometry." ++ entry.1 with
    | some entry =>
      -- names of shapes are written bare, which is how they are quoted
      have hall : (geometryShapes.all fun entry =>
          Json.quote entry.1 == "\"" ++ entry.1 ++ "\"") = true := by decide
      have hquote := List.all_eq_true.1 hall entry (List.mem_of_find?_eq_some hfound)
      exact (single_geometryObject (by simpa using hquote) entry.2).writes
    | none =>
      simp only [Option.map_none]
      split
      · split
        · split
          · exact (single_word (by decide) rfl).writes
          · exact (single_listType (forall₂_itemMembers subFields (depth + 1) h.2)).writes
        · exact writes_structuredChoice interface allowOther h.1
      · exact writes_scalarChoice type interface allowOther h.1

theorem forall₂_itemMembers :
    ∀ (fields : List Field) (depth : Int),
      (∀ value ∈ choiceValuesIn fields, value.isFinite = true) →
      List.Forall₂ (Reads objectMember? [.char '?', .char ':', .char '|', .char '&'])
        (itemMembers fields depth) (storedMembers fields depth)
  | [], _, _ => by
    rw [itemMembers, storedMembers]
    exact .nil
  | field :: rest, depth, h => by
    rw [choiceValuesIn, List.forall_mem_append] at h
    have hrest := forall₂_itemMembers rest depth h.2
    rw [itemMembers, storedMembers]
    split
    · exact hrest
    · exact .cons (reads_itemMember (writes_primitiveType field depth h.1)) hrest

end

end Typing

end SchemaScribe
