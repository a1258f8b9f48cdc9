import SchemaScribe.Proofs.Snapshot.Parts

/-!
# Which snapshots the decoder accepts

`decode_accepts_exactly_snapshots`: a decoded value gives a schema exactly when the grammar says
that it is a snapshot, and what goes wrong otherwise is a fault of the snapshot.  The second half
rests on what the decoder makes sure of by itself: fields of a collection and collections come out
with distinct names (`decodeDistinct_eq_ok_iff`), so the constructors of the model find nothing to
object to (`decodeCollection_eq`, `ofKeyed_names`).
-/

namespace SchemaScribe.Snapshot

/-! ### Collections -/

/-- **Parts with distinct names.**  They come out in order, each decoded from its own item, and
their names differ from each other and from those seen before. -/
theorem decodeDistinct_eq_ok_iff {ε ι α : Type} {decodeItem : ι → Except ε α} {name : α → Text}
    {repeated : Text → ε} {items : List ι} {parts : List α} {seen : List Text} :
    decodeDistinct decodeItem name repeated seen items = .ok parts ↔
      List.Forall₂ (fun item part => decodeItem item = .ok part) items parts ∧
        (parts.map name).Nodup ∧ ∀ part ∈ parts, name part ∉ seen := by
  induction items generalizing parts seen with
  | nil =>
    rw [decodeDistinct]
    constructor
    · intro h
      obtain rfl := Except.ok.inj h
      simp
    · rintro ⟨h, -⟩
      rw [List.forall₂_nil_left_iff.1 h]
  | cons item rest ih =>
    rw [decodeDistinct, bind_eq_ok_iff, List.forall₂_cons_left_iff]
    constructor
    · rintro ⟨part, hpart, h⟩
      split at h
      · cases h
      · next hseen =>
        obtain ⟨more, hmore, h⟩ := bind_eq_ok_iff.1 h
        obtain rfl := pure_eq_ok_iff.1 h
        obtain ⟨hall, hnodup, hnew⟩ := ih.1 hmore
        refine ⟨⟨part, more, hpart, hall, rfl⟩, ?_, ?_⟩
        -- the rest was decoded with the name of `part` among those seen
        · rw [List.map_cons, List.nodup_cons]
          refine ⟨?_, hnodup⟩
          intro hmem
          obtain ⟨other, hother, heq⟩ := List.mem_map.1 hmem
          exact hnew other hother (by rw [heq]; exact List.mem_cons_self)
        · rw [List.forall_mem_cons]
          refine ⟨by simpa using hseen, fun other hother hmem => ?_⟩
          exact hnew other hother (List.mem_cons_of_mem _ hmem)
    · rintro ⟨⟨part, more, hpart, hall, rfl⟩, hnodup, hnew⟩
      rw [List.map_cons, List.nodup_cons] at hnodup
      rw [List.forall_mem_cons] at hnew
      refine ⟨part, hpart, ?_⟩
      rw [if_neg (by simpa using hnew.1)]
      refine bind_eq_ok_iff.2 ⟨more, ih.2 ⟨hall, hnodup.2, ?_⟩, rfl⟩
      intro other hother hmem
      rcases List.mem_cons.1 hmem with heq | hmem
      · exact hnodup.1 (heq ▸ List.mem_map_of_mem hother)
      · exact hnew.2 other hother hmem

/-- What goes wrong with parts goes wrong with one of them, unless a name is repeated. -/
theorem error_of_decodeDistinct {ε ι α : Type} {decodeItem : ι → Except ε α} {name : α → Text}
    {repeated : Text → ε} {items : List ι} {fault : ε} :
    ∀ {seen : List Text}, decodeDistinct decodeItem name repeated seen items = .error fault →
      (∃ item ∈ items, decodeItem item = .error fault) ∨ ∃ name, fault = repeated name := by
  induction items with
  | nil => intro seen h; cases h
  | cons item rest ih =>
    intro seen h
    rw [decodeDistinct] at h
    rcases bind_eq_error_iff.1 h with h | ⟨part, -, h⟩
    · exact Or.inl ⟨item, List.mem_cons_self, h⟩
    · split at h
      · exact Or.inr ⟨name part, (Except.error.inj h).symm⟩
      · rcases bind_eq_error_iff.1 h with h | ⟨more, -, h⟩
        · rcases ih h with ⟨other, hother, h⟩ | h
          · exact Or.inl ⟨other, List.mem_cons_of_mem _ hother, h⟩
          · exact Or.inr h
        · cases h

/-- Decoded fields have the names that they are given. -/
theorem names_of_forall₂_decodeField {owner : Text} {items : List Json} {fields : List Field}
    (h : List.Forall₂ (fun item field => decodeField owner item = .ok field) items fields) :
    fields.map (·.name) = items.map fieldName := by
  induction h with
  | nil => rfl
  | cons hfield _ ih => rw [List.map_cons, List.map_cons, fieldName_of_decodeField hfield, ih]

/-- The fields of a collection come out with distinct names. -/
theorem nodup_of_decodeFields {collection : Text} {items : List Json} {fields : List Field}
    (h : decodeFields collection items = .ok fields) : (fields.map (·.name)).Nodup :=
  (decodeDistinct_eq_ok_iff.1 h).2.1

/-- The fields of a collection are accepted exactly when all of them are fields and their names
differ from each other. -/
theorem succeeds_decodeFields_iff {collection : Text} {items : List Json} :
    Succeeds (decodeFields collection items) ↔
      (∀ item ∈ items, IsField item) ∧ (items.map fieldName).Nodup := by
  constructor
  · rintro ⟨fields, h⟩
    obtain ⟨hall, hnodup, -⟩ := decodeDistinct_eq_ok_iff.1 h
    rw [names_of_forall₂_decodeField hall] at hnodup
    refine ⟨fun item hitem => ?_, hnodup⟩
    have hfield : Succeeds (decodeField collection item) :=
      exists_forall₂_iff.1 ⟨fields, hall⟩ item hitem
    exact (succeeds_decodeField_iff collection item).1 hfield
  · rintro ⟨hall, hnodup⟩
    have hex : ∀ item ∈ items, ∃ field, decodeField collection item = .ok field :=
      fun item hitem => (succeeds_decodeField_iff collection item).2 (hall item hitem)
    obtain ⟨fields, hfields⟩ := exists_forall₂_iff.2 hex
    refine ⟨fields, decodeDistinct_eq_ok_iff.2 ⟨hfields, ?_, by simp⟩⟩
    rw [names_of_forall₂_decodeField hfields]
    exact hnodup

/-- The name of a collection is its own or else its key, and equal to its key if there is one. -/
theorem decodeName_eq_ok_iff {key : Option Text} {members : List (Text × Json)}
    {name : Text} :
    decodeName key members = .ok name ↔
      (Association.get? ("collection" : Text) members = some (.string name) ∨
        Association.get? ("collection" : Text) members = none ∧ key = some name) ∧
      name ≠ "" ∧ ∀ k, key = some k → k = name := by
  cases hc : Association.get? ("collection" : Text) members with
  | none => cases key <;> grind [decodeName]
  | some value => cases value <;> cases key <;> grind [decodeName, Json.text?]

/-- What the parts of a collection are decoded from. -/
theorem decodeParts_eq_ok_iff {key : Option Text} {members : List (Text × Json)}
    {parts : Collection} :
    decodeParts key (.object members) = .ok parts ↔
      decodeName key members = .ok parts.name ∧ IsPart (memberOf "meta" members) ∧
        IsListPart (memberOf "fields" members) ∧
        decodeFields parts.name (itemsIn (memberOf "fields" members)) = .ok parts.fields ∧
        parts.singleton = (memberOf "singleton" (membersIn (memberOf "meta" members))).isTrue := by
  rw [decodeParts, bind_eq_ok_iff]
  constructor
  · rintro ⟨name, hname, h⟩
    split at h
    · cases h
    · next presentation hmeta =>
      split at h
      · cases h
      · next items hitems =>
        obtain ⟨fields, hfields, h⟩ := bind_eq_ok_iff.1 h
        obtain rfl := pure_eq_ok_iff.1 h
        obtain ⟨hshown, rfl⟩ := partMembers?_eq_some_iff.1 hmeta
        obtain ⟨hlisted, rfl⟩ := partItems?_eq_some_iff.1 hitems
        exact ⟨hname, hshown, hlisted, hfields, rfl⟩
  · rintro ⟨hname, hshown, hlisted, hfields, hsingleton⟩
    refine ⟨parts.name, hname, ?_⟩
    rw [partMembers?_eq_some_iff.2 ⟨hshown, rfl⟩]
    dsimp only
    rw [partItems?_eq_some_iff.2 ⟨hlisted, rfl⟩]
    refine bind_eq_ok_iff.2 ⟨parts.fields, hfields, ?_⟩
    rw [pure_eq_ok_iff, ← hsingleton]

/-- The parts of an entry are accepted under a name exactly when it is an entry of that name. -/
theorem exists_decodeParts_iff {entry : Option Text × Json} {name : Text} :
    (∃ parts, decodeParts entry.1 entry.2 = .ok parts ∧ parts.name = name) ↔
      IsEntry entry name := by
  obtain ⟨key, value⟩ := entry
  cases value with
  | object members =>
    constructor
    · rintro ⟨parts, h, rfl⟩
      obtain ⟨hname, hshown, hlisted, hfields, -⟩ := decodeParts_eq_ok_iff.1 h
      obtain ⟨hnamed, hne, hkeyed⟩ := decodeName_eq_ok_iff.1 hname
      obtain ⟨hall, hdistinct⟩ := succeeds_decodeFields_iff.1 ⟨_, hfields⟩
      exact ⟨members, rfl, hnamed, hne, hkeyed, hshown, hlisted, hall, hdistinct⟩
    -- nothing is asked of the mark of a singleton, so it is left to be what the text says
    · rintro ⟨_, ⟨⟩, h⟩
      have hfields : Succeeds (decodeFields name (itemsIn (memberOf "fields" members))) :=
        succeeds_decodeFields_iff.2 ⟨h.fields, h.distinct⟩
      obtain ⟨fields, hfields⟩ := hfields
      exact ⟨⟨name, _, fields⟩, decodeParts_eq_ok_iff.2
        ⟨decodeName_eq_ok_iff.2 ⟨h.named, h.nonempty, h.keyed⟩, h.shown, h.listed, hfields, rfl⟩,
        rfl⟩
  | _ => simp [decodeParts, IsEntry]

/-! ### The checks of the model

The constructors of the model check again what the decoder has made sure of. -/

/-- The parts of a collection that were accepted make one. -/
theorem decodeCollection_eq (key : Option Text) (value : Json) :
    decodeCollection key value = (decodeParts key value).mapError .snapshot := by
  rw [decodeCollection]
  cases h : decodeParts key value with
  | error fault => rfl
  | ok parts =>
    have hnodup : (parts.fields.map (·.name)).Nodup := by
      cases value with
      | object members => exact nodup_of_decodeFields (decodeParts_eq_ok_iff.1 h).2.2.2.1
      | _ => simp [decodeParts] at h
    have hnone : firstRepeated? [] (parts.fields.map (·.name)) = none :=
      firstRepeated?_eq_none_iff.2 ⟨hnodup, by simp⟩
    show (Collection.of parts.name parts.singleton parts.fields).mapError LoadFault.model =
      .ok parts
    rw [Collection.of, hnone]
    rfl

/-- Collections under their own names make a schema. -/
theorem ofKeyed_names (collections : List Collection) :
    Schema.ofKeyed (collections.map fun c => (c.name, c)) = .ok ⟨collections⟩ := by
  have hnone : (collections.map fun c => (c.name, c)).find? (fun pair => pair.1 != pair.2.name) =
      none := by
    rw [List.find?_eq_none]
    intro pair hpair
    obtain ⟨c, -, rfl⟩ := List.mem_map.1 hpair
    simp
  rw [Schema.ofKeyed, hnone]
  simp [Function.comp_def]

/-- A schema is what comes out of the entries of a snapshot. -/
theorem decode_eq_ok_iff {value : Json} {schema : Schema} :
    decode value = .ok schema ↔ ∃ entries, entries? value = some entries ∧
      List.Forall₂ (fun entry collection => decodeParts entry.1 entry.2 = .ok collection) entries
        schema.collections ∧ schema.names.Nodup := by
  rw [decode]
  cases entries? value with
  | none => simp
  | some entries =>
    simp only [bind_eq_ok_iff, ofKeyed_names, mapError_eq_ok_iff, Option.some.injEq,
      exists_eq_left', decodeEntries, decodeDistinct_eq_ok_iff, decodeCollection_eq]
    constructor
    · rintro ⟨collections, ⟨hall, hnodup, -⟩, h⟩
      obtain rfl := Except.ok.inj h
      exact ⟨hall, hnodup⟩
    · rintro ⟨hall, hnodup⟩
      exact ⟨schema.collections, ⟨hall, hnodup, by simp⟩, rfl⟩

/-- Whatever is wrong with a snapshot is a fault of the snapshot, and none of the model. -/
theorem snapshot_of_decode_eq_error {value : Json} {fault : LoadFault}
    (h : decode value = .error fault) : ∃ cause, fault = .snapshot cause := by
  rw [decode] at h
  cases he : entries? value with
  | none =>
    rw [he] at h
    exact ⟨.root, (Except.error.inj h).symm⟩
  | some entries =>
    rw [he] at h
    -- an entry is at fault or a name is repeated; the model itself has nothing to object to
    rcases bind_eq_error_iff.1 h with h | ⟨collections, -, h⟩
    · rcases error_of_decodeDistinct h with ⟨entry, -, h⟩ | ⟨name, h⟩
      · rw [decodeCollection_eq] at h
        obtain ⟨cause, -, rfl⟩ := mapError_eq_error_iff.1 h
        exact ⟨cause, rfl⟩
      · exact ⟨_, h⟩
    · rw [ofKeyed_names] at h
      cases h

/-! ### Snapshots -/

/-- Entries are accepted exactly when each is an entry of some name and the names differ. -/
theorem exists_entries_iff {entries : List (Option Text × Json)} :
    (∃ collections : List Collection,
      List.Forall₂ (fun entry collection => decodeParts entry.1 entry.2 = .ok collection) entries
        collections ∧ (collections.map (·.name)).Nodup) ↔
      ∃ names, List.Forall₂ IsEntry entries names ∧ names.Nodup := by
  constructor
  · rintro ⟨collections, hall, hnodup⟩
    refine ⟨collections.map (·.name), ?_, hnodup⟩
    rw [List.forall₂_map_right_iff]
    exact hall.imp fun entry collection h => exists_decodeParts_iff.1 ⟨collection, h, rfl⟩
  · rintro ⟨names, hall, hnodup⟩
    -- each entry is decoded by itself, so their collections can be listed
    have hex : ∃ collections : List Collection,
        List.Forall₂ (fun entry collection => decodeParts entry.1 entry.2 = .ok collection) entries
          collections ∧ collections.map (·.name) = names := by
      clear hnodup
      induction hall with
      | nil => exact ⟨[], .nil, rfl⟩
      | cons hentry _ ih =>
        obtain ⟨collection, hcollection, rfl⟩ := exists_decodeParts_iff.2 hentry
        obtain ⟨collections, hall, rfl⟩ := ih
        exact ⟨collection :: collections, .cons hcollection hall, rfl⟩
    obtain ⟨collections, hparts, rfl⟩ := hex
    exact ⟨collections, hparts, hnodup⟩

/-- A snapshot is accepted exactly when it is one. -/
theorem succeeds_decode_iff {value : Json} : Succeeds (decode value) ↔ IsSnapshot value := by
  have hentries : Succeeds (decode value) ↔ ∃ entries, entries? value = some entries ∧
      ∃ names, List.Forall₂ IsEntry entries names ∧ names.Nodup := by
    simp only [← exists_entries_iff]
    constructor
    · rintro ⟨schema, h⟩
      obtain ⟨entries, he, hall, hnodup⟩ := decode_eq_ok_iff.1 h
      exact ⟨entries, he, schema.collections, hall, hnodup⟩
    · rintro ⟨entries, he, collections, hall, hnodup⟩
      exact ⟨⟨collections⟩, decode_eq_ok_iff.2 ⟨entries, he, hall, hnodup⟩⟩
  -- only objects and arrays have entries
  rw [hentries]
  constructor
  · rintro ⟨entries, he, names, hall, hnodup⟩
    cases value with
    | object members =>
      obtain rfl := Option.some.inj he
      exact .object hall hnodup
    | array items =>
      obtain rfl := Option.some.inj he
      exact .array hall hnodup
    | _ => cases he
  · intro h
    cases h with
    | object hall hnodup => exact ⟨_, rfl, _, hall, hnodup⟩
    | array hall hnodup => exact ⟨_, rfl, _, hall, hnodup⟩

/-- **The decoder accepts exactly the snapshots, and it fails only with faults of the snapshot.** -/
theorem decode_accepts_exactly_snapshots (value : Json) :
    ((∃ schema, decode value = .ok schema) ↔ IsSnapshot value) ∧
      ∀ fault, decode value = .error fault → ∃ cause, fault = .snapshot cause :=
  ⟨succeeds_decode_iff, fun _ => snapshot_of_decode_eq_error⟩

end SchemaScribe.Snapshot
