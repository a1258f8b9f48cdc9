import SchemaScribe.Proofs.Snapshot.Loaded
import SchemaScribe.Proofs.Typing.Stored

/-!
# Well-formed schemas

A schema is well-formed when its collections, fields and sub-fields have names and types, names are
told apart, relations of a known kind name what they point to, and choices stand for values that can
be written (`Schema.IsWellFormed`).  A field is asked about together with its family, the sub-fields
at every depth.

Every loaded schema is well-formed (`isWellFormed_of_load`): each field of the family of a decoded
field is a decoded field itself (`isDecoded_of_mem_family`), and so is each choice below a decoded
choice.
-/

namespace SchemaScribe

open Typing (flattenChoice flattenChoices choiceValues choiceValuesIn)

/-! ### Families of fields -/

mutual

/-- A field and its sub-fields at every depth. -/
def Field.family : Field → List Field
  | ⟨name, type, nullable, required, primaryKey, interface, choices, allowOther, subFields,
      relation⟩ =>
    ⟨name, type, nullable, required, primaryKey, interface, choices, allowOther, subFields,
      relation⟩ :: familyOf subFields

/-- Fields and their sub-fields at every depth. -/
def familyOf : List Field → List Field
  | [] => []
  | field :: rest => field.family ++ familyOf rest

end

theorem mem_familyOf_iff {fields : List Field} {member : Field} :
    member ∈ familyOf fields ↔ ∃ field ∈ fields, member ∈ field.family := by
  induction fields with
  | nil => simp [familyOf]
  | cons field rest ih => simp [familyOf, ih]

mutual

/-- The choices of a field are those of its family. -/
theorem choiceValues_eq_flatMap : ∀ field : Field,
    choiceValues field = field.family.flatMap fun member => flattenChoices member.choices
  | ⟨_, _, _, _, _, _, _, _, subFields, _⟩ => by
    rw [choiceValues, Field.family, List.flatMap_cons, choiceValuesIn_eq_flatMap subFields]

theorem choiceValuesIn_eq_flatMap : ∀ fields : List Field,
    choiceValuesIn fields = (familyOf fields).flatMap fun member => flattenChoices member.choices
  | [] => by rw [choiceValuesIn, familyOf, List.flatMap_nil]
  | field :: rest => by
    rw [choiceValuesIn, familyOf, List.flatMap_append, choiceValues_eq_flatMap field,
      choiceValuesIn_eq_flatMap rest]

end

/-! ### Well-formed parts -/

/-- **A field whose own parts are well-formed**, its sub-fields aside. -/
structure Field.IsProper (field : Field) : Prop where
  named : field.name ≠ ""
  typed : field.type ≠ ""
  related : field.relation.all Relation.isProper = true
  /-- The choices at every depth of their trees can be written. -/
  finite : ∀ value ∈ flattenChoices field.choices, value.isFinite = true

instance (field : Field) : Decidable field.IsProper :=
  decidable_of_iff (field.name ≠ "" ∧ field.type ≠ "" ∧
      field.relation.all Relation.isProper = true ∧
      ∀ value ∈ flattenChoices field.choices, value.isFinite = true)
    ⟨fun h => ⟨h.1, h.2.1, h.2.2.1, h.2.2.2⟩,
      fun h => ⟨h.named, h.typed, h.related, h.finite⟩⟩

/-- **A schema whose parts are well-formed and told apart by their names.**  Sub-fields may repeat a
name. -/
structure Schema.IsWellFormed (schema : Schema) : Prop where
  named : ∀ c ∈ schema.collections, c.name ≠ ""
  distinct : schema.names.Nodup
  distinctFields : ∀ c ∈ schema.collections, (c.fields.map (·.name)).Nodup
  proper : ∀ c ∈ schema.collections, ∀ field ∈ c.fields, ∀ member ∈ field.family, member.IsProper

instance (schema : Schema) : Decidable schema.IsWellFormed :=
  decidable_of_iff ((∀ c ∈ schema.collections, c.name ≠ "") ∧ schema.names.Nodup ∧
      (∀ c ∈ schema.collections, (c.fields.map (·.name)).Nodup) ∧
      ∀ c ∈ schema.collections, ∀ field ∈ c.fields, ∀ member ∈ field.family, member.IsProper)
    ⟨fun h => ⟨h.1, h.2.1, h.2.2.1, h.2.2.2⟩,
      fun h => ⟨h.named, h.distinct, h.distinctFields, h.proper⟩⟩

/-- All choices of a well-formed schema can be written, those of sub-fields included. -/
theorem Schema.IsWellFormed.isFinite {schema : Schema} (hs : schema.IsWellFormed) {c : Collection}
    (hc : c ∈ schema.collections) {field : Field} (hf : field ∈ c.fields) :
    ∀ value ∈ choiceValues field, value.isFinite = true := by
  intro value hvalue
  rw [choiceValues_eq_flatMap, List.mem_flatMap] at hvalue
  obtain ⟨member, hmember, hvalue⟩ := hvalue
  exact (hs.proper c hc field hf member hmember).finite value hvalue

namespace Snapshot

/-! ### Decoded choices -/

theorem isFinite_of_decodeChoiceValue {label : Text} {value : Json} {decoded : ChoiceValue}
    (h : decodeChoiceValue label value = .ok decoded) : decoded.isFinite = true := by
  cases value with
  | float x =>
    rw [decodeChoiceValue] at h
    split at h
    · next hx =>
      obtain rfl := Except.ok.inj h
      exact hx
    · cases h
  | array _ | object _ => cases h
  | _ =>
    obtain rfl := Except.ok.inj h
    rfl

/-- A choice that comes out of a decoded value. -/
def IsDecodedChoice (choice : Choice) : Prop :=
  ∃ label value, decodeChoice label value = .ok choice

theorem isDecodedChoice_of_decodeChoices {label : Text} {value : Json} {choices : List Choice}
    (h : decodeChoices label value = .ok choices) : ∀ choice ∈ choices, IsDecodedChoice choice := by
  intro choice hchoice
  rcases decodeChoices_eq_ok_iff.1 h with ⟨-, rfl⟩ | ⟨items, -, hall⟩
  · cases hchoice
  · obtain ⟨item, hitem⟩ := exists_item_of_forall₂ hall hchoice
    exact ⟨label, item, hitem⟩

/-- A decoded choice stands for a value that can be written, and its children are decoded. -/
theorem IsDecodedChoice.parts {choice : Choice} (h : IsDecodedChoice choice) :
    choice.value.isFinite = true ∧ ∀ child ∈ choice.children, IsDecodedChoice child := by
  obtain ⟨label, value, h⟩ := h
  rcases decodeChoice_eq_ok_iff.1 h with ⟨_, _, -, -, hchildren, hvalue⟩ | ⟨-, hvalue, hchildren⟩
  · exact ⟨isFinite_of_decodeChoiceValue hvalue, isDecodedChoice_of_decodeChoices hchildren⟩
  · refine ⟨isFinite_of_decodeChoiceValue hvalue, ?_⟩
    simp [hchildren]

mutual

theorem isFinite_of_mem_flattenChoice :
    ∀ choice : Choice, IsDecodedChoice choice →
      ∀ value ∈ flattenChoice choice, value.isFinite = true
  | ⟨_, children⟩, h => by
    obtain ⟨hvalue, hchildren⟩ := h.parts
    rw [flattenChoice, List.forall_mem_cons]
    exact ⟨hvalue, isFinite_of_mem_flattenChoices children hchildren⟩

theorem isFinite_of_mem_flattenChoices :
    ∀ choices : List Choice, (∀ choice ∈ choices, IsDecodedChoice choice) →
      ∀ value ∈ flattenChoices choices, value.isFinite = true
  | [], _ => by simp [flattenChoices]
  | choice :: rest, h => by
    rw [List.forall_mem_cons] at h
    rw [flattenChoices, List.forall_mem_append]
    exact ⟨isFinite_of_mem_flattenChoice choice h.1, isFinite_of_mem_flattenChoices rest h.2⟩

end

/-! ### Decoded fields -/

/-- A field that comes out of a decoded value. -/
def IsDecoded (field : Field) : Prop := ∃ owner value, decodeField owner value = .ok field

theorem ne_empty_of_decodeType {label type : Text} {value : Json}
    (h : decodeType label value = .ok type) : type ≠ "" := by
  rcases decodeType_eq_ok_iff.1 h with ⟨-, rfl⟩ | ⟨-, h⟩
  · decide
  · exact h

/-- The options of an interface hold decoded choices and decoded sub-fields. -/
theorem isDecoded_of_decodeOptions {label : Text} {value : Json} {options : InterfaceOptions}
    (h : decodeOptions label value = .ok options) :
    (∀ choice ∈ options.choices, IsDecodedChoice choice) ∧
      ∀ field ∈ options.subFields, IsDecoded field := by
  cases value with
  | null =>
    rw [decodeOptions] at h
    obtain rfl := Except.ok.inj h
    exact ⟨by simp, by simp⟩
  | object members =>
    obtain ⟨hchoices, -, hall, -⟩ := decodeOptions_eq_ok_iff.1 h
    obtain ⟨_, hchoices⟩ := exists_decodeChoices_of_decodeOffered hchoices
    refine ⟨isDecodedChoice_of_decodeChoices hchoices, fun field hfield => ?_⟩
    obtain ⟨item, hitem⟩ := exists_item_of_forall₂ hall hfield
    exact ⟨label, item, hitem⟩
  | _ =>
    rw [decodeOptions] at h
    · cases h
    all_goals simp

/-- **A decoded field is proper, and its sub-fields are decoded fields.** -/
theorem IsDecoded.parts {field : Field} (h : IsDecoded field) :
    field.IsProper ∧ ∀ subField ∈ field.subFields, IsDecoded subField := by
  obtain ⟨owner, value, h⟩ := h
  obtain ⟨members, rfl⟩ := exists_members_of_decodeField h
  obtain ⟨head, options, hhead, hoptions, hrelation, hfield⟩ := decodeField_eq_ok_iff.1 h
  obtain ⟨-, hname, htype, -⟩ := decodeHead_eq_ok_iff.1 hhead
  obtain ⟨hchoices, hsubFields⟩ := isDecoded_of_decodeOptions hoptions
  rw [hfield]
  exact ⟨⟨hname, ne_empty_of_decodeType htype, isProper_of_decodeRelation hrelation,
    isFinite_of_mem_flattenChoices _ hchoices⟩, hsubFields⟩

mutual

/-- **The family of a decoded field is decoded**: what one step of the decoder makes sure of holds
at every depth. -/
theorem isDecoded_of_mem_family :
    ∀ field : Field, IsDecoded field → ∀ member ∈ field.family, IsDecoded member
  | ⟨_, _, _, _, _, _, _, _, subFields, _⟩, h => by
    rw [Field.family, List.forall_mem_cons]
    exact ⟨h, isDecoded_of_mem_familyOf subFields h.parts.2⟩

theorem isDecoded_of_mem_familyOf :
    ∀ fields : List Field, (∀ field ∈ fields, IsDecoded field) →
      ∀ member ∈ familyOf fields, IsDecoded member
  | [], _ => by simp [familyOf]
  | field :: rest, h => by
    rw [List.forall_mem_cons] at h
    rw [familyOf, List.forall_mem_append]
    exact ⟨isDecoded_of_mem_family field h.1, isDecoded_of_mem_familyOf rest h.2⟩

end

/-! ### Loaded schemas -/

theorem ne_empty_of_decodeParts {key : Option Text} {value : Json} {parts : Collection}
    (h : decodeParts key value = .ok parts) : parts.name ≠ "" := by
  have hentry : IsEntry (key, value) parts.name := exists_decodeParts_iff.1 ⟨parts, h, rfl⟩
  obtain ⟨members, -, hentry⟩ := hentry
  exact hentry.nonempty

/-- **A loaded schema is well-formed.** -/
theorem isWellFormed_of_load {text : Text} {schema : Schema} (h : load text = .ok schema) :
    schema.IsWellFormed := by
  refine ⟨fun c hc => ?_, (isSound_of_load h).distinct, fun c hc => nodup_fieldNames_of_load h hc,
    fun c hc field hf member hmember => ?_⟩
  · obtain ⟨key, value, hentry⟩ := exists_entry_of_load h hc
    exact ne_empty_of_decodeParts hentry
  · obtain ⟨item, hitem⟩ := exists_item_of_load h hc hf
    exact (isDecoded_of_mem_family field ⟨c.name, item, hitem⟩ member hmember).parts.1

/-- **The choices of a loaded schema can be written as literals**, those of sub-fields at any depth
included. -/
theorem isFinite_of_load {text : Text} {schema : Schema} (h : load text = .ok schema)
    {c : Collection} (hc : c ∈ schema.collections) {field : Field} (hf : field ∈ c.fields) :
    ∀ value ∈ choiceValues field, value.isFinite = true :=
  (isWellFormed_of_load h).isFinite hc hf

end Snapshot

end SchemaScribe
