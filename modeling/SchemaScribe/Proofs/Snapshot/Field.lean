import SchemaScribe.Proofs.Outcome
import SchemaScribe.Proofs.Snapshot.Grammar
import SchemaScribe.Snapshot.Decode

/-!
# Which fields the decoder accepts

`succeeds_decodeField_iff`: a decoded value is accepted as a field exactly when the grammar says
that it is one, and likewise for choices (`succeeds_decodeChoices_iff`), relations
(`succeeds_decodeRelation_iff`) and the parts outside of a field's options
(`succeeds_decodeHead_iff`).  What a field belongs to shows in faults only.

The decoders of choices and of fields recurse through the members of objects in search of the one
that goes on, and the inductions here do the same: the lemma on a search says what holds of the
member that it is for.
-/

namespace SchemaScribe.Snapshot

/-! ### Choices -/

theorem succeeds_decodeChoiceValue_iff {label : Text} {value : Json} :
    Succeeds (decodeChoiceValue label value) ↔ IsScalar value := by
  cases value with
  | float x => by_cases h : x.isFinite <;> simp [decodeChoiceValue, IsScalar, h]
  | _ => simp [decodeChoiceValue, IsScalar]

mutual

/-- A list of choices is accepted exactly when it is one. -/
theorem succeeds_decodeChoices_iff (label : Text) :
    ∀ value : Json, Succeeds (decodeChoices label value) ↔ IsChoices value
  | .null => by
    rw [decodeChoices]
    exact iff_of_true succeeds_ok .missing
  | .array items => by
    rw [decodeChoices, succeeds_decodeChoiceItems_iff label items]
    constructor
    · intro h; exact .array h
    · intro h
      cases h with
      | array h => exact h
  | .bool _ | .int _ | .float _ | .string _ | .object _ => by
    rw [decodeChoices]
    · refine iff_of_false not_succeeds_error ?_
      intro h; cases h
    -- the equation for the other values asks that the value is none of the first two kinds
    all_goals simp

theorem succeeds_decodeChoiceItems_iff (label : Text) :
    ∀ items : List Json,
      Succeeds (decodeChoiceItems label items) ↔ ∀ item ∈ items, IsChoice item
  | [] => by
    rw [decodeChoiceItems]
    exact iff_of_true succeeds_ok (by simp)
  | item :: rest => by
    have hrest := succeeds_decodeChoiceItems_iff label rest
    rw [decodeChoiceItems, List.forall_mem_cons, ← succeeds_decodeChoice_iff label item, ← hrest]
    refine succeeds_bind_const_iff fun choice _ => ?_
    rw [succeeds_bind_iff_of_forall (by simp)]

theorem succeeds_decodeChoice_iff (label : Text) :
    ∀ value : Json, Succeeds (decodeChoice label value) ↔ IsChoice value
  | .object members => by
    rw [decodeChoice]
    have hchildren := succeeds_decodeChildren_iff label members
    cases hv : Association.get? ("value" : Text) members with
    | none =>
      -- an object is no choice by itself: it has to have a value
      refine iff_of_false not_succeeds_error ?_
      intro h
      cases h with
      | bare h => exact h
      | object h => rw [hv] at h; cases h
    | some value =>
      dsimp only
      rw [succeeds_bind_const_iff (p := IsScalar value), hchildren]
      · constructor
        · rintro ⟨hc, hs⟩; exact .object hv hs hc
        · intro h
          cases h with
          | bare h => exact h.elim
          | object h hs hc =>
            rw [hv] at h
            obtain rfl := Option.some.inj h
            exact ⟨hc, hs⟩
      · intro children _
        rw [succeeds_bind_iff_of_forall (by simp),
          succeeds_decodeChoiceValue_iff]
  | .null | .bool _ | .int _ | .float _ | .string _ | .array _ => by
    rw [decodeChoice]
    · rw [succeeds_bind_iff_of_forall (by simp), succeeds_decodeChoiceValue_iff]
      constructor
      · intro h; exact .bare h
      · intro h; cases h; assumption
    all_goals simp

theorem succeeds_decodeChildren_iff (label : Text) :
    ∀ members : List (Text × Json),
      Succeeds (decodeChildren label members) ↔ IsChoices (memberOf "children" members)
  | [] => by
    rw [decodeChildren]
    exact iff_of_true succeeds_ok .missing
  | (key, value) :: rest => by
    have hvalue := succeeds_decodeChoices_iff label value
    have hrest := succeeds_decodeChildren_iff label rest
    rw [decodeChildren, memberOf, Association.get?]
    split
    · exact hvalue
    · exact hrest

end

/-- Choices come out of a list exactly when there are some in it. -/
theorem eq_nil_iff_of_decodeChoices {label : Text} {value : Json} {choices : List Choice}
    (h : decodeChoices label value = .ok choices) : choices = [] ↔ OffersNothing value := by
  cases value with
  | null =>
    rw [decodeChoices] at h
    obtain rfl := Except.ok.inj h
    exact iff_of_true rfl (Or.inl rfl)
  | array items =>
    rw [decodeChoices] at h
    cases items with
    | nil =>
      rw [decodeChoiceItems] at h
      obtain rfl := Except.ok.inj h
      exact iff_of_true rfl (Or.inr rfl)
    | cons item rest =>
      rw [decodeChoiceItems] at h
      obtain ⟨choice, -, h⟩ := bind_eq_ok_iff.1 h
      obtain ⟨more, -, h⟩ := bind_eq_ok_iff.1 h
      obtain rfl := pure_eq_ok_iff.1 h
      exact iff_of_false (by simp) (by simp [OffersNothing])
  | _ =>
    rw [decodeChoices] at h
    · cases h
    all_goals simp

/-- Presets have to be sound only where the choices offer nothing. -/
theorem succeeds_decodeOffered_iff {label : Text} {members : List (Text × Json)} :
    Succeeds (decodeOffered label members) ↔ IsChoices (memberOf "choices" members) ∧
      (OffersNothing (memberOf "choices" members) → IsChoices (memberOf "presets" members)) := by
  rw [← succeeds_decodeChoices_iff label]
  refine succeeds_bind_const_iff fun choices h => ?_
  have hnil := eq_nil_iff_of_decodeChoices h
  -- the presets are decoded in place of choices that offer nothing, and ignored otherwise
  by_cases hc : choices = []
  · rw [if_pos (by rw [hc, List.isEmpty_nil]), succeeds_decodeChoices_iff]
    simp [hnil.1 hc]
  · rw [if_neg (by simpa using hc)]
    exact iff_of_true succeeds_pure fun h => absurd (hnil.2 h) hc

/-! ### Relations -/

theorem succeeds_decodeTarget_iff {label : Text} {kind : RelationKind} {value : Json} :
    Succeeds (decodeTarget label kind value) ↔
      ∃ target, value = .string target ∧ target ≠ "" := by
  cases value with
  | string text => by_cases h : text = "" <;> simp [decodeTarget, h]
  | _ => simp [decodeTarget]

theorem succeeds_decodeTargets_iff {label : Text} {kind : RelationKind} {value : Json} :
    Succeeds (decodeTargets label kind value) ↔
      ∃ items, value = .array items ∧ ∀ item ∈ items, ∃ text, item = .string text := by
  cases value with
  | array items =>
    have hall : (∃ texts, items.mapM Json.text? = some texts) ↔
        ∀ item ∈ items, ∃ text, item = .string text := by
      induction items with
      | nil => simp
      | cons item rest ih =>
        rw [List.forall_mem_cons, ← ih]
        cases item <;> cases hr : rest.mapM Json.text? <;> simp [Json.text?, hr]
    cases ht : items.mapM Json.text? with
    | none => simp [decodeTargets, ht, ← hall]
    | some texts => simp [decodeTargets, ht, ← hall]
  | _ => simp [decodeTargets]

/-- The word of a relation's kind decides what else the relation needs. -/
theorem RelationKind.of?_eq_some_iff {value : Json} {kind : RelationKind} :
    RelationKind.of? value = some kind ↔ value = .string kind.word := by
  cases value with
  | string text =>
    simp only [RelationKind.of?, List.find?_cons, List.find?_nil, Json.string.injEq]
    cases kind <;> simp only [RelationKind.word] <;> grind
  | _ => simp [RelationKind.of?]

/-- A relation with a target is one of the two kinds that point to one collection. -/
theorem isRelation_object_iff {members : List (Text × Json)} {kind : RelationKind}
    (h : memberOf "type" members = .string kind.word) :
    IsRelation (.object members) ↔
      match kind with
      | .one | .many => ∃ target, memberOf "collection" members = .string target ∧ target ≠ ""
      | .any | .anyType => ∃ items, memberOf "collections" members = .array items ∧
        ∀ item ∈ items, ∃ text, item = .string text := by
  constructor
  · intro hr
    cases hr with
    | toCollection ht hk hc hne =>
      rw [h, Json.string.injEq] at ht
      -- of the four kinds, two have another word than the constructor asks for
      cases kind <;> first
        | exact ⟨_, hc, hne⟩
        | exact absurd (ht ▸ hk) (by decide)
    | toCollections ht hk hc hall =>
      rw [h, Json.string.injEq] at ht
      cases kind <;> first
        | exact ⟨_, hc, hall⟩
        | exact absurd (ht ▸ hk) (by decide)
  · intro hr
    cases kind with
    | one | many =>
      obtain ⟨target, hc, hne⟩ := hr
      exact .toCollection h (by decide) hc hne
    | any | anyType =>
      obtain ⟨items, hc, hall⟩ := hr
      exact .toCollections h (by decide) hc hall

/-- A relation is accepted exactly when it is one. -/
theorem succeeds_decodeRelation_iff {label : Text} {value : Json} :
    Succeeds (decodeRelation label value) ↔ IsRelation value := by
  cases value with
  | null => exact iff_of_true succeeds_ok .missing
  | object members =>
    rw [decodeRelation]
    cases hk : RelationKind.of? (memberOf "type" members) with
    | none =>
      have hnone : ∀ kind : RelationKind, memberOf "type" members ≠ .string kind.word := by
        intro kind ht
        rw [RelationKind.of?_eq_some_iff.2 ht] at hk
        cases hk
      refine iff_of_false not_succeeds_error ?_
      intro h
      -- each constructor names the word of a kind, and none stands there
      cases h with
      | toCollection ht hw =>
        rcases hw with rfl | rfl
        · exact hnone .one ht
        · exact hnone .many ht
      | toCollections ht hw =>
        rcases hw with rfl | rfl
        · exact hnone .any ht
        · exact hnone .anyType ht
    | some kind =>
      rw [isRelation_object_iff (RelationKind.of?_eq_some_iff.1 hk)]
      cases kind with
      | one | many =>
        dsimp only
        rw [succeeds_bind_iff_of_forall (by simp), succeeds_decodeTarget_iff]
      | any | anyType =>
        dsimp only
        rw [succeeds_bind_iff_of_forall (by simp), succeeds_decodeTargets_iff]
  | _ =>
    refine iff_of_false not_succeeds_error ?_
    intro h; cases h

/-! ### Fields -/

theorem partMembers?_eq_some_iff {value : Json} {members : List (Text × Json)} :
    partMembers? value = some members ↔ IsPart value ∧ membersIn value = members := by
  cases value with
  | object ms => cases ms <;> simp [partMembers?, IsPart, membersIn, Json.members?, Json.isTruthy]
  | _ => simp [partMembers?, IsPart, membersIn, Json.members?]

theorem partItems?_eq_some_iff {value : Json} {items : List Json} :
    partItems? value = some items ↔ IsListPart value ∧ itemsIn value = items := by
  cases value with
  | array js => cases js <;> simp [partItems?, IsListPart, itemsIn, Json.items?, Json.isTruthy]
  | _ => simp [partItems?, IsListPart, itemsIn, Json.items?]

theorem decodeFieldName_eq_ok_iff {owner name : Text} {value : Json} :
    decodeFieldName owner value = .ok name ↔ value = .string name ∧ name ≠ "" := by
  cases value with
  | string text => by_cases h : text = "" <;> grind [decodeFieldName]
  | _ => simp [decodeFieldName]

theorem succeeds_decodeType_iff {label : Text} {value : Json} :
    Succeeds (decodeType label value) ↔ IsTextPart value := by
  by_cases h : value.isTruthy
  · cases value <;> simp_all [decodeType, IsTextPart]
  · simp [decodeType, IsTextPart, h]

theorem succeeds_decodeInterface_iff {label : Text} {value : Json} :
    Succeeds (decodeInterface label value) ↔ value = .null ∨ ∃ text, value = .string text := by
  cases value <;> simp [decodeInterface]

/-- The parts of a field outside of its options and its relation are accepted exactly when the field
has a head. -/
theorem succeeds_decodeHead_iff {owner : Text} {members : List (Text × Json)} :
    Succeeds (decodeHead owner members) ↔ IsFieldHead members := by
  rw [decodeHead, succeeds_bind_iff]
  constructor
  · rintro ⟨name, hname, h⟩
    obtain ⟨type, htype, h⟩ := succeeds_bind_iff.1 h
    split at h
    · next schema presentation hschema hmeta =>
      obtain ⟨interface, hinterface, -⟩ := succeeds_bind_iff.1 h
      obtain ⟨hstored, -⟩ := partMembers?_eq_some_iff.1 hschema
      obtain ⟨hshown, hin⟩ := partMembers?_eq_some_iff.1 hmeta
      refine ⟨⟨name, decodeFieldName_eq_ok_iff.1 hname⟩, succeeds_decodeType_iff.1 ⟨type, htype⟩,
        hstored, hshown, ?_⟩
      rw [hin]
      exact succeeds_decodeInterface_iff.1 ⟨interface, hinterface⟩
    · exact absurd h not_succeeds_throw
  · -- every part can be decoded by itself, in the order in which they are read
    rintro ⟨⟨name, hname⟩, htyped, hstored, hshown, hinterfaced⟩
    refine ⟨name, decodeFieldName_eq_ok_iff.2 hname, ?_⟩
    rw [partMembers?_eq_some_iff.2 ⟨hstored, rfl⟩, partMembers?_eq_some_iff.2 ⟨hshown, rfl⟩]
    obtain ⟨type, htype⟩ := succeeds_decodeType_iff.2 htyped
    obtain ⟨interface, hinterface⟩ := succeeds_decodeInterface_iff.2 hinterfaced
    exact succeeds_bind_iff.2 ⟨type, htype, succeeds_bind_iff.2 ⟨interface, hinterface,
      succeeds_pure⟩⟩

mutual

/-- **A field is accepted exactly when it is one**, whatever it belongs to. -/
theorem succeeds_decodeField_iff (owner : Text) :
    ∀ value : Json, Succeeds (decodeField owner value) ↔ IsField value
  | .object members => by
    rw [decodeField, succeeds_bind_const_iff
      (p := IsOptions (memberOf "options" (membersIn (memberOf "meta" members))) ∧
        IsRelation (memberOf "relation" members)), succeeds_decodeHead_iff]
    · constructor
      · rintro ⟨hhead, hoptions, hrelation⟩; exact .object hhead hoptions hrelation
      · intro h
        cases h with
        | object hhead hoptions hrelation => exact ⟨hhead, hoptions, hrelation⟩
    · intro head _
      rw [← succeeds_decodeMetaOptions_iff _ members]
      refine succeeds_bind_const_iff fun options _ => ?_
      rw [succeeds_bind_iff_of_forall (by simp), succeeds_decodeRelation_iff]
  | .null | .bool _ | .int _ | .float _ | .string _ | .array _ => by
    rw [decodeField]
    · refine iff_of_false not_succeeds_error ?_
      intro h; cases h
    all_goals simp

theorem succeeds_decodeMetaOptions_iff (label : Text) :
    ∀ members : List (Text × Json), Succeeds (decodeMetaOptions label members) ↔
      IsOptions (memberOf "options" (membersIn (memberOf "meta" members)))
  | [] => iff_of_true succeeds_ok .missing
  | (key, .object members) :: rest => by
    have hmembers := succeeds_decodeOptionsIn_iff label members
    have hrest := succeeds_decodeMetaOptions_iff label rest
    -- only the lookup of the part is opened; the one inside it is what `hmembers` is about
    rw [decodeMetaOptions, memberOf.eq_1 "meta", Association.get?]
    split
    · exact hmembers
    · exact hrest
  | (key, .null) :: rest | (key, .bool _) :: rest | (key, .int _) :: rest
  | (key, .float _) :: rest | (key, .string _) :: rest | (key, .array _) :: rest => by
    have hrest := succeeds_decodeMetaOptions_iff label rest
    rw [decodeMetaOptions, memberOf.eq_1 "meta", Association.get?]
    · split
      · exact iff_of_true succeeds_ok .missing
      · exact hrest
    all_goals simp

theorem succeeds_decodeOptionsIn_iff (label : Text) :
    ∀ members : List (Text × Json), Succeeds (decodeOptionsIn label members) ↔
      IsOptions (memberOf "options" members)
  | [] => iff_of_true succeeds_ok .missing
  | (key, value) :: rest => by
    have hvalue := succeeds_decodeOptions_iff label value
    have hrest := succeeds_decodeOptionsIn_iff label rest
    rw [decodeOptionsIn, memberOf, Association.get?]
    split
    · exact hvalue
    · exact hrest

theorem succeeds_decodeOptions_iff (label : Text) :
    ∀ value : Json, Succeeds (decodeOptions label value) ↔ IsOptions value
  | .null => by
    rw [decodeOptions]
    exact iff_of_true succeeds_ok .missing
  | .object members => by
    have hsubFields := succeeds_decodeSubFieldsIn_iff label members
    rw [decodeOptions, succeeds_bind_const_iff
      (p := IsListPart (memberOf "fields" members) ∧
        ∀ item ∈ itemsIn (memberOf "fields" members), IsField item), succeeds_decodeOffered_iff]
    · constructor
      · rintro ⟨⟨hchoices, hpresets⟩, hlisted, hfields⟩
        exact .object hchoices hpresets hlisted hfields
      · intro h
        cases h with
        | object hchoices hpresets hlisted hfields =>
          exact ⟨⟨hchoices, hpresets⟩, hlisted, hfields⟩
    · intro choices _
      rw [succeeds_bind_iff_of_forall (by simp), hsubFields]
  | .bool _ | .int _ | .float _ | .string _ | .array _ => by
    rw [decodeOptions]
    · refine iff_of_false not_succeeds_error ?_
      intro h; cases h
    all_goals simp

theorem succeeds_decodeSubFieldsIn_iff (label : Text) :
    ∀ members : List (Text × Json), Succeeds (decodeSubFieldsIn label members) ↔
      IsListPart (memberOf "fields" members) ∧
        ∀ item ∈ itemsIn (memberOf "fields" members), IsField item
  | [] => iff_of_true succeeds_ok ⟨Or.inl rfl, by simp [memberOf, itemsIn, Json.items?]⟩
  | (key, .array items) :: rest => by
    have hitems := succeeds_decodeSubFields_iff label items
    have hrest := succeeds_decodeSubFieldsIn_iff label rest
    rw [decodeSubFieldsIn, memberOf, Association.get?]
    split
    · -- this is the member that is looked for, and otherwise it is among the rest
      rw [Option.getD_some, hitems]
      constructor
      · intro h; exact ⟨Or.inr ⟨items, rfl⟩, h⟩
      · rintro ⟨-, h⟩; exact h
    · exact hrest
  | (key, .null) :: rest | (key, .bool _) :: rest | (key, .int _) :: rest
  | (key, .float _) :: rest | (key, .string _) :: rest | (key, .object _) :: rest => by
    have hrest := succeeds_decodeSubFieldsIn_iff label rest
    rw [decodeSubFieldsIn, memberOf, Association.get?]
    · split
      · rw [Option.getD_some]
        split
        · next h => simp [IsListPart, h]
        · next h => simp [IsListPart, h, itemsIn, Json.items?]
      · exact hrest
    all_goals simp

theorem succeeds_decodeSubFields_iff (label : Text) :
    ∀ items : List Json,
      Succeeds (decodeSubFields label items) ↔ ∀ item ∈ items, IsField item
  | [] => by
    rw [decodeSubFields]
    exact iff_of_true succeeds_ok (by simp)
  | item :: rest => by
    have hrest := succeeds_decodeSubFields_iff label rest
    rw [decodeSubFields, List.forall_mem_cons, ← succeeds_decodeField_iff label item, ← hrest]
    refine succeeds_bind_const_iff fun field _ => ?_
    rw [succeeds_bind_iff_of_forall (by simp)]

end

end SchemaScribe.Snapshot
