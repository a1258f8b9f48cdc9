import SchemaScribe.Proofs.Snapshot.WellFormed

/-!
# Schemas written as snapshots

Each part of a schema is written as a decoded value, with every member of the format spelled out
(`Choice.json`, `Relation.json`, `Field.json`, `Collection.json`), and a schema as an object of its
collections under their names or as an array of them.  A well-formed schema is read back from either
of them (`decode_reads_back`): for each kind of part, the decoder gives back the part that was
written.
-/

namespace SchemaScribe

open Typing (flattenChoice flattenChoices)

/-! ### The written form -/

/-- The value of a choice as it is written. -/
def ChoiceValue.json : ChoiceValue → Json
  | .null => .null
  | .bool value => .bool value
  | .int value => .int value
  | .float value => .float value
  | .text value => .string value

mutual

/-- **A choice as it is written**, with its children. -/
def Choice.json : Choice → Json
  | ⟨value, children⟩ =>
    .object [("value", value.json), ("children", .array (choicesJson children))]

/-- Choices as they are written. -/
def choicesJson : List Choice → List Json
  | [] => []
  | choice :: rest => choice.json :: choicesJson rest

end

/-- **A relation as it is written**: its kind, and the collection or collections that it points
to. -/
def Relation.json : Relation → Json
  | .one target => .object [("type", .string "one"), ("collection", .string target)]
  | .many target => .object [("type", .string "many"), ("collection", .string target)]
  | .any targets =>
    .object [("type", .string "any"), ("collections", .array (targets.map .string))]
  | .anyType targets =>
    .object [("type", .string "any_type"), ("collections", .array (targets.map .string))]
  | .unknown kind => .object [("type", .string kind)]

/-- The options of an interface as they are written, with their sub-fields in place. -/
def optionsJson (choices : List Choice) (allowOther : Bool) (subFields : List Json) : Json :=
  .object [
    ("choices", .array (choicesJson choices)),
    ("allowOther", .bool allowOther),
    ("fields", .array subFields)]

/-- The members of a field as it is written, with its sub-fields in place. -/
def Field.jsonMembers (field : Field) (subFields : List Json) : List (Text × Json) := [
  ("field", .string field.name),
  ("type", .string field.type),
  ("schema", .object [
    ("is_nullable", .bool field.nullable),
    ("is_primary_key", .bool field.primaryKey)]),
  ("meta", .object [
    ("interface", field.interface.elim .null .string),
    ("required", .bool field.required),
    ("options", optionsJson field.choices field.allowOther subFields)]),
  ("relation", field.relation.elim .null Relation.json)]

mutual

/-- **A field as it is written**, with its sub-fields. -/
def Field.json : Field → Json
  | ⟨name, type, nullable, required, primaryKey, interface, choices, allowOther, subFields,
      relation⟩ =>
    .object (Field.jsonMembers ⟨name, type, nullable, required, primaryKey, interface, choices,
      allowOther, subFields, relation⟩ (fieldsJson subFields))

/-- Fields as they are written. -/
def fieldsJson : List Field → List Json
  | [] => []
  | field :: rest => field.json :: fieldsJson rest

end

/-- **A collection as it is written.** -/
def Collection.json (c : Collection) : Json :=
  .object [
    ("collection", .string c.name),
    ("meta", .object [("singleton", .bool c.singleton)]),
    ("fields", .array (fieldsJson c.fields))]

/-- A schema as an object of its collections under their names. -/
def Schema.jsonObject (schema : Schema) : Json :=
  .object (schema.collections.map fun c => (c.name, c.json))

/-- A schema as an array of its collections. -/
def Schema.jsonArray (schema : Schema) : Json :=
  .array (schema.collections.map Collection.json)

namespace Snapshot

/-! ### Flags -/

@[simp] theorem isTrue_bool (value : Bool) : (Json.bool value).isTrue = value := by
  cases value <;> rfl

/-! ### Choices -/

theorem decodeChoiceValue_json (label : Text) {value : ChoiceValue}
    (h : value.isFinite = true) : decodeChoiceValue label value.json = .ok value := by
  cases value with
  | float value => exact if_pos h
  | _ => rfl

mutual

/-- A choice is read back, with the trees below it. -/
theorem decodeChoice_json (label : Text) :
    ∀ choice : Choice, (∀ value ∈ flattenChoice choice, value.isFinite = true) →
      decodeChoice label choice.json = .ok choice
  | ⟨value, children⟩, h => by
    rw [flattenChoice, List.forall_mem_cons] at h
    have hvalue := decodeChoiceValue_json label h.1
    have hchildren := forall₂_choicesJson label children h.2
    rw [Choice.json, decodeChoice_eq_ok_iff]
    refine Or.inl ⟨_, value.json, rfl, ?_, ?_, hvalue⟩
    · simp [Association.get?]
    · exact decodeChoices_eq_ok_iff.2 (Or.inr ⟨_, by simp [memberOf, Association.get?], hchildren⟩)

theorem forall₂_choicesJson (label : Text) :
    ∀ choices : List Choice, (∀ value ∈ flattenChoices choices, value.isFinite = true) →
      List.Forall₂ (fun item choice => decodeChoice label item = .ok choice) (choicesJson choices)
        choices
  | [], _ => by
    rw [choicesJson]
    exact .nil
  | choice :: rest, h => by
    rw [flattenChoices, List.forall_mem_append] at h
    rw [choicesJson]
    exact .cons (decodeChoice_json label choice h.1) (forall₂_choicesJson label rest h.2)

end

/-! ### Relations -/

theorem decodeTargets_json (label : Text) (kind : RelationKind) (targets : List Text) :
    decodeTargets label kind (.array (targets.map .string)) = .ok targets := by
  have htexts : (targets.map Json.string).mapM Json.text? = some targets := by
    induction targets with
    | nil => rfl
    | cons target rest ih => simp [Json.text?, ih]
  rw [decodeTargets, htexts]

/-- A relation of a known kind is read back. -/
theorem decodeRelation_json (label : Text) {relation : Option Relation}
    (h : relation.all Relation.isProper = true) :
    decodeRelation label (relation.elim .null Relation.json) = .ok relation := by
  cases relation with
  | none => rfl
  | some relation =>
    cases relation with
    | one target | many target =>
      have hne : target ≠ "" := by simpa [Relation.isProper] using h
      simp [Relation.json, decodeRelation, RelationKind.of?, RelationKind.word, memberOf,
        Association.get?, decodeTarget, hne]
    | any targets | anyType targets =>
      simp [Relation.json, decodeRelation, RelationKind.of?, RelationKind.word, memberOf,
        Association.get?, decodeTargets_json]
    | unknown kind => cases h

/-! ### Fields -/

/-- The parts of a field outside of its options and its relation are read back. -/
theorem decodeHead_jsonMembers (owner : Text) {field : Field} (hname : field.name ≠ "")
    (htype : field.type ≠ "") (subFields : List Json) :
    decodeHead owner (field.jsonMembers subFields) = .ok {
      name := field.name, type := field.type, interface := field.interface,
      nullable := field.nullable, required := field.required,
      primaryKey := field.primaryKey } := by
  rw [decodeHead_eq_ok_iff]
  have hinterface : ∀ label, decodeInterface label (field.interface.elim .null .string) =
      .ok field.interface := by
    intro label
    cases field.interface <;> rfl
  simp [Field.jsonMembers, memberOf, Association.get?, membersIn, Json.members?, IsPart, hname,
    decodeType_eq_ok_iff, htype, hinterface]

/-- The options of an interface are read back when their sub-fields are. -/
theorem decodeOptions_json {label : Text} {choices : List Choice} (allowOther : Bool)
    {items : List Json} {subFields : List Field}
    (hchoices : ∀ value ∈ flattenChoices choices, value.isFinite = true)
    (hfields : List.Forall₂ (fun item field => decodeField label item = .ok field) items
      subFields) :
    decodeOptions label (optionsJson choices allowOther items) =
      .ok ⟨choices, allowOther, subFields⟩ := by
  have hlist : decodeChoices label (.array (choicesJson choices)) = .ok choices :=
    decodeChoices_eq_ok_iff.2 (Or.inr ⟨_, rfl, forall₂_choicesJson label choices hchoices⟩)
  have hnone : decodeChoices label .null = .ok [] := decodeChoices_eq_ok_iff.2 (Or.inl ⟨rfl, rfl⟩)
  rw [optionsJson, decodeOptions_eq_ok_iff]
  refine ⟨?_, ?_, ?_, ?_⟩
  · rw [decodeOffered, bind_eq_ok_iff]
    refine ⟨choices, by simpa [memberOf, Association.get?] using hlist, ?_⟩
    split
    -- where there are no choices the presets are looked for, and none are written
    · next hempty =>
      rw [List.isEmpty_iff.1 hempty]
      simpa [memberOf, Association.get?] using hnone
    · rfl
  · simp [memberOf, Association.get?, IsListPart]
  · simpa [memberOf, Association.get?, itemsIn, Json.items?] using hfields
  · have hnull : Json.null.isTrue = false := rfl
    simp [allowOtherKeys, memberOf, Association.get?, hnull]

mutual

/-- **A field is read back**, with its choices, its sub-fields and its relation. -/
theorem decodeField_json (owner : Text) :
    ∀ field : Field, (∀ member ∈ field.family, member.IsProper) →
      decodeField owner field.json = .ok field
  | ⟨name, type, nullable, required, primaryKey, interface, choices, allowOther, subFields,
      relation⟩, h => by
    rw [Field.family, List.forall_mem_cons] at h
    obtain ⟨hproper, hsubFields⟩ := h
    have hfields := forall₂_fieldsJson (owner ++ "." ++ name) subFields hsubFields
    rw [Field.json, decodeField_eq_ok_iff]
    refine ⟨_, ⟨choices, allowOther, subFields⟩,
      decodeHead_jsonMembers owner hproper.named hproper.typed _, ?_, ?_, rfl⟩
    · exact decodeOptions_json allowOther hproper.finite hfields
    · exact decodeRelation_json _ hproper.related

theorem forall₂_fieldsJson (owner : Text) :
    ∀ fields : List Field, (∀ member ∈ familyOf fields, member.IsProper) →
      List.Forall₂ (fun item field => decodeField owner item = .ok field) (fieldsJson fields) fields
  | [], _ => by
    rw [fieldsJson]
    exact .nil
  | field :: rest, h => by
    rw [familyOf, List.forall_mem_append] at h
    rw [fieldsJson]
    exact .cons (decodeField_json owner field h.1) (forall₂_fieldsJson owner rest h.2)

end

/-! ### Schemas -/

/-- A collection is read back under its own name, or where it stands under no key. -/
theorem decodeParts_json {key : Option Text} {c : Collection}
    (hkey : ∀ k, key = some k → k = c.name) (hname : c.name ≠ "")
    (hdistinct : (c.fields.map (·.name)).Nodup)
    (hproper : ∀ field ∈ c.fields, ∀ member ∈ field.family, member.IsProper) :
    decodeParts key c.json = .ok c := by
  have hall := forall₂_fieldsJson c.name c.fields fun member hmember => by
    obtain ⟨field, hfield, hmember⟩ := mem_familyOf_iff.1 hmember
    exact hproper field hfield member hmember
  have hfields : decodeFields c.name (fieldsJson c.fields) = .ok c.fields :=
    decodeDistinct_eq_ok_iff.2 ⟨hall, hdistinct, by simp⟩
  rw [Collection.json, decodeParts_eq_ok_iff, decodeName_eq_ok_iff]
  refine ⟨⟨Or.inl ?_, hname, hkey⟩, ?_, ?_, ?_, ?_⟩
  · simp [Association.get?]
  · simp [memberOf, Association.get?, IsPart]
  · simp [memberOf, Association.get?, IsListPart]
  · simpa [memberOf, Association.get?, itemsIn, Json.items?] using hfields
  · simp [memberOf, Association.get?, membersIn, Json.members?]

/-- **A well-formed schema is read back**, whether it is written as an object of its collections
under their names or as an array of them. -/
theorem decode_reads_back {schema : Schema} (h : schema.IsWellFormed) :
    decode schema.jsonObject = .ok schema ∧ decode schema.jsonArray = .ok schema := by
  have hparts : ∀ c ∈ schema.collections, ∀ key : Option Text,
      (∀ k, key = some k → k = c.name) → decodeParts key c.json = .ok c := by
    intro c hc key hkey
    exact decodeParts_json hkey (h.named c hc) (h.distinctFields c hc) (h.proper c hc)
  constructor
  · refine decode_eq_ok_iff.2 ⟨_, rfl, ?_, h.distinct⟩
    rw [List.map_map, List.forall₂_map_left_iff, List.forall₂_same]
    intro c hc
    exact hparts c hc (some c.name) (by simp)
  · refine decode_eq_ok_iff.2 ⟨_, rfl, ?_, h.distinct⟩
    rw [List.map_map, List.forall₂_map_left_iff, List.forall₂_same]
    intro c hc
    exact hparts c hc none (by simp)

/-- A schema with a choice of every kind, trees of choices, lists within lists whose members share a
name, an empty interface, and all kinds of relation. -/
def catalogue : Schema := ⟨[
  { name := "songs", fields := [
    { name := "id", type := "integer", primaryKey := true },
    { name := "rating", type := "float", nullable := true, interface := some "select-radio",
      allowOther := true, choices := [
        ⟨.int 1, [⟨.float (.zero true), [⟨.null, []⟩]⟩]⟩,
        ⟨.float (.finite false ⟨1023 * Nat.pow 2 52, by decide⟩), []⟩,
        ⟨.bool true, [⟨.text "", []⟩]⟩] },
    { name := "credits", type := "json", interface := some "list", subFields := [
      { name := "name", type := "alias", interface := some "" },
      { name := "name", type := "json", required := true, interface := some "list", subFields := [
        { name := "role", type := "string", relation := some (.one "nobody"),
          choices := [⟨.bool false, []⟩, ⟨.int 0, []⟩] }] }] },
    { name := "album", type := "uuid", relation := some (.many "albums") },
    { name := "item", type := "string", relation := some (.any ["albums", ""]) },
    { name := "kind", type := "string", relation := some (.anyType []) }] },
  { name := "albums", singleton := true }]⟩

/-- `catalogue` is well-formed and so it is read back. -/
theorem decode_catalogue :
    catalogue.IsWellFormed ∧ decode catalogue.jsonObject = .ok catalogue ∧
      decode catalogue.jsonArray = .ok catalogue :=
  have hformed : catalogue.IsWellFormed := by decide
  ⟨hformed, decode_reads_back hformed⟩

end Snapshot

end SchemaScribe
