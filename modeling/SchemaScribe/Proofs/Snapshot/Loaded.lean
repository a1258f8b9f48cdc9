import Mathlib.Data.List.Nodup
import SchemaScribe.Proofs.Snapshot.Acceptance

/-!
# What holds of a loaded schema

A schema that comes out of a snapshot text is more than a list of collections: their names are
distinct, and every relation is of a known kind (`isSound_of_load`).  The names of the fields of
each collection are distinct too (`nodup_fieldNames_of_load`).
-/

namespace SchemaScribe

/-! ### Lookup in a schema with distinct names -/

/-- In a schema with distinct names, each collection is the one that is found under its name. -/
theorem Schema.find?_name_of_mem {schema : Schema} (hd : schema.names.Nodup) {c : Collection}
    (hc : c ∈ schema.collections) : schema.find? c.name = some c := by
  obtain ⟨collections⟩ := schema
  rw [Schema.find?]
  induction collections with
  | nil => cases hc
  | cons d rest ih =>
    have hd := List.nodup_cons.1 hd
    rcases List.mem_cons.1 hc with rfl | hc
    · rw [List.find?_cons_of_pos (by simp)]
    · have hmem : c.name ∈ rest.map (·.name) := List.mem_map_of_mem hc
      have hne : d.name ≠ c.name := fun h => hd.1 (by rwa [← h] at hmem)
      rw [List.find?_cons_of_neg (by simpa using hne)]
      exact ih hd.2 hc

/-- In a schema with distinct names, a collection is told by its name. -/
theorem Schema.eq_of_name_eq {schema : Schema} (hd : schema.names.Nodup) {c d : Collection}
    (hc : c ∈ schema.collections) (hd' : d ∈ schema.collections) (h : c.name = d.name) : c = d :=
  List.inj_on_of_nodup_map hd hc hd' h

/-- In a schema with distinct names, what holds of a collection of a given name holds of the only
one. -/
theorem Schema.exists_named_iff {schema : Schema} (hd : schema.names.Nodup) {c : Collection}
    (hc : c ∈ schema.collections) {p : Collection → Prop} :
    (∃ d ∈ schema.collections, d.name = c.name ∧ p d) ↔ p c := by
  constructor
  · rintro ⟨d, hd', hname, hp⟩
    rwa [Schema.eq_of_name_eq hd hd' hc hname] at hp
  · intro hp
    exact ⟨c, hc, rfl, hp⟩

/-! ### Relations -/

/-- A relation of a known kind, which names the collection that it points to. -/
def Relation.isProper : Relation → Bool
  | .one target | .many target => target != ""
  | .any _ | .anyType _ => true
  | .unknown _ => false

namespace Snapshot

/-! ### Invariants of loading -/

/-- **A schema whose parts fit together.** -/
structure IsSound (schema : Schema) : Prop where
  /-- No two collections have the same name. -/
  distinct : schema.names.Nodup
  /-- No relation is of an unknown kind. -/
  known : ∀ c ∈ schema.collections, ∀ f ∈ c.fields, ∀ kind, f.relation ≠ some (.unknown kind)

/-- Loading is reading the text and decoding the value. -/
theorem load_eq (text : Text) :
    load text = (Json.read text).mapError LoadFault.ofReadError >>= decode := by
  rw [load]
  cases Json.read text <;> rfl

/-- A schema that is loaded from a text is decoded from the value that the text is read as. -/
theorem exists_of_load {text : Text} {schema : Schema} (h : load text = .ok schema) :
    ∃ value, Json.read text = .ok value ∧ decode value = .ok schema := by
  rw [load_eq] at h
  obtain ⟨value, hread, h⟩ := bind_eq_ok_iff.1 h
  exact ⟨value, mapError_eq_ok_iff.1 hread, h⟩

theorem ne_empty_of_decodeTarget {label target : Text} {kind : RelationKind} {value : Json}
    (h : decodeTarget label kind value = .ok target) : target ≠ "" := by
  cases value with
  | string text => grind [decodeTarget]
  | _ => cases h

/-- A decoded relation is of one of the four kinds, and its target has a name. -/
theorem isProper_of_decodeRelation {label : Text} {value : Json} {relation : Option Relation}
    (h : decodeRelation label value = .ok relation) :
    relation.all Relation.isProper = true := by
  cases value with
  | null =>
    obtain rfl := Except.ok.inj h
    rfl
  | object members =>
    rw [decodeRelation] at h
    split at h
    · obtain ⟨target, htarget, h⟩ := bind_eq_ok_iff.1 h
      obtain rfl := pure_eq_ok_iff.1 h
      simpa [Relation.isProper] using ne_empty_of_decodeTarget htarget
    · obtain ⟨target, htarget, h⟩ := bind_eq_ok_iff.1 h
      obtain rfl := pure_eq_ok_iff.1 h
      simpa [Relation.isProper] using ne_empty_of_decodeTarget htarget
    · obtain ⟨targets, -, h⟩ := bind_eq_ok_iff.1 h
      obtain rfl := pure_eq_ok_iff.1 h
      rfl
    · obtain ⟨targets, -, h⟩ := bind_eq_ok_iff.1 h
      obtain rfl := pure_eq_ok_iff.1 h
      rfl
    · cases h
  | _ => cases h

theorem relation_ne_unknown_of_decodeField {owner kind : Text} {value : Json} {field : Field}
    (h : decodeField owner value = .ok field) : field.relation ≠ some (.unknown kind) := by
  obtain ⟨members, rfl⟩ := exists_members_of_decodeField h
  obtain ⟨head, options, -, -, hrelation, -⟩ := decodeField_eq_ok_iff.1 h
  intro hunknown
  have hproper := isProper_of_decodeRelation hrelation
  rw [hunknown] at hproper
  cases hproper

/-- The fields of a decoded collection are decoded fields. -/
theorem exists_item_of_decodeParts {key : Option Text} {value : Json} {parts : Collection}
    (h : decodeParts key value = .ok parts) {field : Field} (hf : field ∈ parts.fields) :
    ∃ item, decodeField parts.name item = .ok field := by
  cases value with
  | object members =>
    obtain ⟨-, -, -, hfields, -⟩ := decodeParts_eq_ok_iff.1 h
    obtain ⟨hall, -⟩ := decodeDistinct_eq_ok_iff.1 hfields
    exact exists_item_of_forall₂ hall hf
  | _ => simp [decodeParts] at h

/-- The collections of a loaded schema are decoded from the entries of a snapshot. -/
theorem exists_entry_of_load {text : Text} {schema : Schema} (h : load text = .ok schema)
    {c : Collection} (hc : c ∈ schema.collections) :
    ∃ key value, decodeParts key value = .ok c := by
  obtain ⟨value, -, h⟩ := exists_of_load h
  obtain ⟨entries, -, hall, -⟩ := decode_eq_ok_iff.1 h
  obtain ⟨entry, hentry⟩ := exists_item_of_forall₂ hall hc
  exact ⟨entry.1, entry.2, hentry⟩

/-- The fields of a loaded schema are decoded fields. -/
theorem exists_item_of_load {text : Text} {schema : Schema} (h : load text = .ok schema)
    {c : Collection} (hc : c ∈ schema.collections) {field : Field} (hf : field ∈ c.fields) :
    ∃ item, decodeField c.name item = .ok field := by
  obtain ⟨key, value, hentry⟩ := exists_entry_of_load h hc
  exact exists_item_of_decodeParts hentry hf

/-- **No two fields of a loaded collection have the same name.** -/
theorem nodup_fieldNames_of_load {text : Text} {schema : Schema} (h : load text = .ok schema)
    {c : Collection} (hc : c ∈ schema.collections) : (c.fields.map (·.name)).Nodup := by
  obtain ⟨key, value, hentry⟩ := exists_entry_of_load h hc
  cases value with
  | object members =>
    obtain ⟨-, -, -, hfields, -⟩ := decodeParts_eq_ok_iff.1 hentry
    exact nodup_of_decodeFields hfields
  | _ => simp [decodeParts] at hentry

/-- **A loaded schema is sound.** -/
theorem isSound_of_load {text : Text} {schema : Schema} (h : load text = .ok schema) :
    IsSound schema := by
  obtain ⟨value, -, hdecode⟩ := exists_of_load h
  obtain ⟨entries, -, -, hdistinct⟩ := decode_eq_ok_iff.1 hdecode
  refine ⟨hdistinct, ?_⟩
  intro c hc f hf kind
  obtain ⟨item, hitem⟩ := exists_item_of_load h hc hf
  exact relation_ne_unknown_of_decodeField hitem

end Snapshot

end SchemaScribe
