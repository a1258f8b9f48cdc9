import Mathlib.Data.List.Forall2
import SchemaScribe.Proofs.Snapshot.Field

/-!
# What choices and fields are decoded from

The decoders search the members of an object for the one that goes on.  Here each search is the
lookup of a member (`decodeMetaOptions_eq`, `decodeChildren_eq`), each list is worked off item by
item, and what a part comes out as is said in terms of the members that it is made of:
`decodeChoice_eq_ok_iff` for choices, `decodeOptions_eq_ok_iff` and `decodeField_eq_ok_iff` for
fields.  What holds of all decoded trees follows from these by induction on the tree that comes out.
-/

namespace SchemaScribe.Snapshot

variable {label owner : Text} {members : List (Text × Json)}

/-! ### Choices -/

theorem decodeChildren_eq (label : Text) (members : List (Text × Json)) :
    decodeChildren label members = decodeChoices label (memberOf "children" members) := by
  induction members with
  | nil => rw [decodeChildren, memberOf, Association.get?_nil, Option.getD_none, decodeChoices]
  | cons member rest ih =>
    rw [decodeChildren, memberOf, Association.get?]
    split
    · rfl
    · exact ih

theorem decodeChoiceItems_eq_mapM (label : Text) (items : List Json) :
    decodeChoiceItems label items = items.mapM (decodeChoice label) := by
  induction items with
  | nil => rw [decodeChoiceItems]; rfl
  | cons item rest ih => rw [decodeChoiceItems, List.mapM_cons, ih]

/-- Choices are those of the items of a list, and none where the list is missing. -/
theorem decodeChoices_eq_ok_iff {value : Json} {choices : List Choice} :
    decodeChoices label value = .ok choices ↔
      (value = .null ∧ choices = []) ∨ ∃ items, value = .array items ∧
        List.Forall₂ (fun item choice => decodeChoice label item = .ok choice) items choices := by
  cases value with
  | null =>
    rw [decodeChoices]
    simp [eq_comm]
  | array items =>
    rw [decodeChoices, decodeChoiceItems_eq_mapM, mapM_eq_ok_iff]
    simp
  | _ =>
    rw [decodeChoices]
    · simp
    all_goals simp

/-- A choice is an object with a value and children, or else the bare value. -/
theorem decodeChoice_eq_ok_iff {value : Json} {choice : Choice} :
    decodeChoice label value = .ok choice ↔
      (∃ members own, value = .object members ∧
        Association.get? ("value" : Text) members = some own ∧
        decodeChoices label (memberOf "children" members) = .ok choice.children ∧
        decodeChoiceValue label own = .ok choice.value) ∨
      ((∀ members, value ≠ .object members) ∧
        decodeChoiceValue label value = .ok choice.value ∧ choice.children = []) := by
  obtain ⟨own, children⟩ := choice
  cases value with
  | object members =>
    rw [decodeChoice, decodeChildren_eq]
    cases hv : Association.get? ("value" : Text) members with
    | none => simp [hv]
    | some value =>
      simp only [bind_eq_ok_iff, pure_eq_ok_iff, Choice.mk.injEq]
      simp [hv]
  | _ =>
    rw [decodeChoice]
    · simp only [bind_eq_ok_iff, pure_eq_ok_iff, Choice.mk.injEq]
      simp [eq_comm (a := [])]
    all_goals simp

/-- The choices of options come from the member for choices, or else from the one for presets. -/
theorem exists_decodeChoices_of_decodeOffered {choices : List Choice}
    (h : decodeOffered label members = .ok choices) :
    ∃ value, decodeChoices label value = .ok choices := by
  rw [decodeOffered] at h
  obtain ⟨own, hown, h⟩ := bind_eq_ok_iff.1 h
  split at h
  · exact ⟨_, h⟩
  · obtain rfl := pure_eq_ok_iff.1 h
    exact ⟨_, hown⟩

/-! ### The head of a field -/

/-- A type that is missing is that of texts. -/
theorem decodeType_eq_ok_iff {value : Json} {type : Text} :
    decodeType label value = .ok type ↔
      (value.isTruthy = false ∧ type = "string") ∨ (value = .string type ∧ type ≠ "") := by
  have htext : ∀ text : Text, (Json.string text).isTruthy = true ↔ text ≠ "" := by
    simp [Json.isTruthy]
  cases value with
  | string text => grind [decodeType]
  | _ =>
    simp only [decodeType, reduceCtorEq, false_and, or_false]
    split
    · next h => simp [h]
    · next h => simp [h, eq_comm (a := ("string" : Text))]

/-- The parts of a field outside of its options and its relation. -/
theorem decodeHead_eq_ok_iff {head : Field} :
    decodeHead owner members = .ok head ↔
      memberOf "field" members = .string head.name ∧ head.name ≠ "" ∧
      decodeType (owner ++ "." ++ head.name) (memberOf "type" members) = .ok head.type ∧
      IsPart (memberOf "schema" members) ∧ IsPart (memberOf "meta" members) ∧
      decodeInterface (owner ++ "." ++ head.name)
        (memberOf "interface" (membersIn (memberOf "meta" members))) = .ok head.interface ∧
      head = {
        name := head.name, type := head.type, interface := head.interface,
        nullable := (memberOf "is_nullable" (membersIn (memberOf "schema" members))).isTrue,
        required := (memberOf "required" (membersIn (memberOf "meta" members))).isTrue,
        primaryKey :=
          (memberOf "is_primary_key" (membersIn (memberOf "schema" members))).isTrue } := by
  rw [decodeHead, bind_eq_ok_iff]
  constructor
  · rintro ⟨name, hname, h⟩
    obtain ⟨type, htype, h⟩ := bind_eq_ok_iff.1 h
    obtain ⟨hnamed, hne⟩ := decodeFieldName_eq_ok_iff.1 hname
    split at h
    · next schema presentation hschema hmeta =>
      obtain ⟨interface, hinterface, h⟩ := bind_eq_ok_iff.1 h
      obtain rfl := pure_eq_ok_iff.1 h
      obtain ⟨hstored, rfl⟩ := partMembers?_eq_some_iff.1 hschema
      obtain ⟨hshown, rfl⟩ := partMembers?_eq_some_iff.1 hmeta
      exact ⟨hnamed, hne, htype, hstored, hshown, hinterface, rfl⟩
    · cases h
  · rintro ⟨hnamed, hne, htype, hstored, hshown, hinterface, hhead⟩
    refine ⟨head.name, decodeFieldName_eq_ok_iff.2 ⟨hnamed, hne⟩, ?_⟩
    refine bind_eq_ok_iff.2 ⟨head.type, htype, ?_⟩
    rw [partMembers?_eq_some_iff.2 ⟨hstored, rfl⟩, partMembers?_eq_some_iff.2 ⟨hshown, rfl⟩]
    refine bind_eq_ok_iff.2 ⟨head.interface, hinterface, ?_⟩
    rw [pure_eq_ok_iff, ← hhead]

/-! ### Fields -/

theorem decodeOptionsIn_eq (label : Text) (members : List (Text × Json)) :
    decodeOptionsIn label members = decodeOptions label (memberOf "options" members) := by
  induction members with
  | nil => rw [decodeOptionsIn, memberOf, Association.get?_nil, Option.getD_none, decodeOptions]
  | cons member rest ih =>
    rw [decodeOptionsIn, memberOf, Association.get?]
    split
    · rfl
    · exact ih

theorem decodeMetaOptions_eq (label : Text) (members : List (Text × Json)) :
    decodeMetaOptions label members =
      decodeOptions label (memberOf "options" (membersIn (memberOf "meta" members))) := by
  rw [← decodeOptionsIn_eq]
  induction members with
  | nil => rfl
  | cons member rest ih =>
    rw [decodeMetaOptions.eq_def]
    dsimp only
    rw [memberOf, Association.get?]
    split
    · rw [Option.getD_some]
      cases member.2 <;> rfl
    · exact ih

theorem decodeSubFields_eq_mapM (label : Text) (items : List Json) :
    decodeSubFields label items = items.mapM (decodeField label) := by
  induction items with
  | nil => rw [decodeSubFields]; rfl
  | cons item rest ih => rw [decodeSubFields, List.mapM_cons, ih]

/-- Sub-fields are decoded one by one from a list, which may be missing. -/
theorem decodeSubFieldsIn_eq (label : Text) (members : List (Text × Json)) :
    decodeSubFieldsIn label members =
      (partItems? (memberOf "fields" members)).elim (.error (.subFields label))
        fun items => items.mapM (decodeField label) := by
  induction members with
  | nil => rfl
  | cons member rest ih =>
    obtain ⟨key, value⟩ := member
    rw [memberOf, Association.get?]
    by_cases hkey : key = "fields"
    · rw [if_pos hkey, Option.getD_some]
      cases value with
      | array items =>
        rw [decodeSubFieldsIn, if_pos hkey, decodeSubFields_eq_mapM]
        cases items <;> rfl
      | _ =>
        rw [decodeSubFieldsIn, if_pos hkey]
        · unfold partItems?
          split <;> rfl
        all_goals simp
    · rw [if_neg hkey, decodeSubFieldsIn.eq_def]
      simp only [if_neg hkey]
      exact ih

theorem decodeSubFieldsIn_eq_ok_iff {fields : List Field} :
    decodeSubFieldsIn label members = .ok fields ↔
      IsListPart (memberOf "fields" members) ∧
        List.Forall₂ (fun item field => decodeField label item = .ok field)
          (itemsIn (memberOf "fields" members)) fields := by
  rw [decodeSubFieldsIn_eq]
  cases hitems : partItems? (memberOf "fields" members) with
  | none =>
    refine iff_of_false (by simp) ?_
    rintro ⟨hlisted, -⟩
    rw [partItems?_eq_some_iff.2 ⟨hlisted, rfl⟩] at hitems
    cases hitems
  | some items =>
    obtain ⟨hlisted, hin⟩ := partItems?_eq_some_iff.1 hitems
    rw [Option.elim_some, mapM_eq_ok_iff, hin, and_iff_right hlisted]

/-- The options of an interface are its choices, its sub-fields, and the key that allows others. -/
theorem decodeOptions_eq_ok_iff {options : InterfaceOptions} :
    decodeOptions label (.object members) = .ok options ↔
      decodeOffered label members = .ok options.choices ∧
      IsListPart (memberOf "fields" members) ∧
      List.Forall₂ (fun item field => decodeField label item = .ok field)
        (itemsIn (memberOf "fields" members)) options.subFields ∧
      options.allowOther = allowOtherKeys.any fun key => (memberOf key members).isTrue := by
  rw [decodeOptions, bind_eq_ok_iff]
  constructor
  · rintro ⟨choices, hchoices, h⟩
    obtain ⟨subFields, hsubFields, h⟩ := bind_eq_ok_iff.1 h
    obtain rfl := pure_eq_ok_iff.1 h
    obtain ⟨hlisted, hall⟩ := decodeSubFieldsIn_eq_ok_iff.1 hsubFields
    exact ⟨hchoices, hlisted, hall, rfl⟩
  · rintro ⟨hchoices, hlisted, hall, hother⟩
    refine ⟨options.choices, hchoices, bind_eq_ok_iff.2 ⟨options.subFields, ?_, ?_⟩⟩
    · exact decodeSubFieldsIn_eq_ok_iff.2 ⟨hlisted, hall⟩
    · rw [pure_eq_ok_iff, ← hother]

/-- **A field is its head, its options and its relation.** -/
theorem decodeField_eq_ok_iff {field : Field} :
    decodeField owner (.object members) = .ok field ↔
      ∃ head options, decodeHead owner members = .ok head ∧
        decodeOptions (owner ++ "." ++ head.name)
          (memberOf "options" (membersIn (memberOf "meta" members))) = .ok options ∧
        decodeRelation (owner ++ "." ++ head.name) (memberOf "relation" members) =
          .ok field.relation ∧
        field = { head with
          choices := options.choices, allowOther := options.allowOther,
          subFields := options.subFields, relation := field.relation } := by
  rw [decodeField, bind_eq_ok_iff]
  constructor
  · rintro ⟨head, hhead, h⟩
    obtain ⟨options, hoptions, h⟩ := bind_eq_ok_iff.1 h
    obtain ⟨relation, hrelation, h⟩ := bind_eq_ok_iff.1 h
    obtain rfl := pure_eq_ok_iff.1 h
    rw [decodeMetaOptions_eq] at hoptions
    exact ⟨head, options, hhead, hoptions, hrelation, rfl⟩
  · rintro ⟨head, options, hhead, hoptions, hrelation, hfield⟩
    rw [← decodeMetaOptions_eq] at hoptions
    refine ⟨head, hhead, bind_eq_ok_iff.2 ⟨options, hoptions, ?_⟩⟩
    refine bind_eq_ok_iff.2 ⟨field.relation, hrelation, ?_⟩
    rw [pure_eq_ok_iff, ← hfield]

/-- Only objects are decoded to fields. -/
theorem exists_members_of_decodeField {value : Json} {field : Field}
    (h : decodeField owner value = .ok field) : ∃ members, value = .object members := by
  cases value with
  | object members => exact ⟨members, rfl⟩
  | _ =>
    rw [decodeField] at h
    · cases h
    all_goals simp

/-- Decoded fields have the name that they are given. -/
theorem fieldName_of_decodeField {value : Json} {field : Field}
    (h : decodeField owner value = .ok field) : field.name = fieldName value := by
  obtain ⟨members, rfl⟩ := exists_members_of_decodeField h
  obtain ⟨head, options, hhead, -, -, hfield⟩ := decodeField_eq_ok_iff.1 h
  obtain ⟨hname, -⟩ := decodeHead_eq_ok_iff.1 hhead
  rw [hfield, fieldName, membersIn, Json.members?, Option.getD_some, hname]
  rfl

end SchemaScribe.Snapshot
