import SchemaScribe.Proofs.Association
import SchemaScribe.Proofs.Snapshot.Forms

/-!
# What is recognised in a snapshot

The decoder looks up some keys of the objects that a snapshot is made of (`recognised`) and no
others.  Two values are the same for it (`Same`) if they are equal but for the members under other
keys and for the order of members, in all of these objects at any depth.  They are decoded alike,
fault for fault (`decode_sees_recognised_only`).

The proof goes by the relation: each kind of object has its own notion of being decoded alike
(`Part.Agree`), which follows for an object from what its recognised members are decoded to.
-/

namespace SchemaScribe.Snapshot

/-! ### Parts and their keys -/

/-- **The kinds of objects that a snapshot is made of.** -/
inductive Part where
  | collection
  | collectionMeta
  | field
  | fieldSchema
  | fieldMeta
  | options
  | choice
  | relation
  deriving DecidableEq, Repr

/-- What stands under a recognised key: a value that is taken as it is, one that may be a part, or
one that may be a list of parts. -/
inductive Slot where
  | exact
  | part (kind : Part)
  | list (kind : Part)
  deriving DecidableEq, Repr

/-- **The keys that are recognised in an object.**  Which ones are in a relation is told by its
type. -/
def recognised (kind : Part) (members : List (Text × Json)) : List (Text × Slot) :=
  match kind with
  | .collection => [("collection", .exact), ("meta", .part .collectionMeta),
    ("fields", .list .field)]
  | .collectionMeta => [("singleton", .exact)]
  | .field => [("field", .exact), ("type", .exact), ("schema", .part .fieldSchema),
    ("meta", .part .fieldMeta), ("relation", .part .relation)]
  | .fieldSchema => [("is_nullable", .exact), ("is_primary_key", .exact)]
  | .fieldMeta => [("interface", .exact), ("required", .exact), ("options", .part .options)]
  | .options => [("choices", .list .choice), ("presets", .list .choice), ("allowOther", .exact),
    ("allowCustom", .exact), ("allow_other", .exact), ("fields", .list .field)]
  | .choice => [("value", .exact), ("children", .list .choice)]
  | .relation => ("type", .exact) :: match RelationKind.of? (memberOf "type" members) with
    | some .one => [("collection", .exact)]
    | some .many => [("collection", .exact)]
    | some .any => [("collections", .exact)]
    | some .anyType => [("collections", .exact)]
    | none => []

/-- **Two values are the same for the decoder.**  They are equal, or they are objects of one kind
that have the same recognised keys, with values that are the same in turn, or arrays whose items
are. -/
inductive Same : Slot → Json → Json → Prop
  | refl (slot : Slot) (value : Json) : Same slot value value
  | object {kind : Part} {members members' : List (Text × Json)}
      (hgiven : ∀ entry ∈ recognised kind members,
        (Association.get? entry.1 members = none ↔ Association.get? entry.1 members' = none))
      (hsame : ∀ entry ∈ recognised kind members,
        Same entry.2 (memberOf entry.1 members) (memberOf entry.1 members')) :
      Same (.part kind) (.object members) (.object members')
  | item {kind : Part} {first first' : Json} {rest rest' : List Json}
      (hfirst : Same (.part kind) first first')
      (hrest : Same (.list kind) (.array rest) (.array rest')) :
      Same (.list kind) (.array (first :: rest)) (.array (first' :: rest'))

/-- **Two snapshots are the same for the decoder**: their collections are, one by one, and stand
under the same keys. -/
inductive SameSnapshot : Json → Json → Prop
  | refl (value : Json) : SameSnapshot value value
  | object {members members' : List (Text × Json)}
      (h : List.Forall₂ (fun member member' => member.1 = member'.1 ∧
        Same (.part .collection) member.2 member'.2) members members') :
      SameSnapshot (.object members) (.object members')
  | array {items items' : List Json}
      (h : List.Forall₂ (Same (.part .collection)) items items') :
      SameSnapshot (.array items) (.array items')

/-! ### What is decoded alike -/

/-- Two parts that may be missing are missing together, or the same is looked up in them. -/
def FoundAlike {α : Type} (look : List (Text × Json) → α) (value value' : Json) : Prop :=
  (partMembers? value).map look = (partMembers? value').map look

/-- The decoder makes the same of two values that stand for a part. -/
def Part.Agree : Part → Json → Json → Prop
  | .collection, value, value' => ∀ key, decodeParts key value = decodeParts key value'
  | .collectionMeta, value, value' => FoundAlike (memberOf "singleton") value value'
  | .field, value, value' => ∀ owner, decodeField owner value = decodeField owner value'
  | .fieldSchema, value, value' => FoundAlike (fun members =>
      (memberOf "is_nullable" members, memberOf "is_primary_key" members)) value value'
  | .fieldMeta, value, value' => FoundAlike (fun members =>
      (memberOf "interface" members, memberOf "required" members)) value value' ∧
    ∀ label, decodeOptions label (memberOf "options" (membersIn value)) =
      decodeOptions label (memberOf "options" (membersIn value'))
  | .options, value, value' => ∀ label, decodeOptions label value = decodeOptions label value'
  | .choice, value, value' => ∀ label, decodeChoice label value = decodeChoice label value'
  | .relation, value, value' => ∀ label, decodeRelation label value = decodeRelation label value'

/-- The decoder makes the same of two values under a recognised key. -/
def Slot.Agree : Slot → Json → Json → Prop
  | .exact, value, value' => value = value'
  | .part kind, value, value' => kind.Agree value value'
  | .list kind, value, value' => value = value' ∨ ∃ items items', value = .array items ∧
    value' = .array items' ∧ List.Forall₂ kind.Agree items items'

theorem Part.Agree.refl (kind : Part) (value : Json) : kind.Agree value value := by
  cases kind with
  | collectionMeta => exact Eq.refl _
  | fieldSchema => exact Eq.refl _
  | fieldMeta => exact ⟨rfl, fun label => rfl⟩
  | _ => exact fun label => rfl

theorem Slot.Agree.refl (slot : Slot) (value : Json) : slot.Agree value value := by
  cases slot with
  | exact => exact Eq.refl value
  | part kind => exact Part.Agree.refl kind value
  | list kind => exact Or.inl rfl

/-- A list of parts that may be missing is given as one of as many parts, each decoded alike. -/
theorem partItems?_agree {kind : Part} {value value' : Json}
    (h : Slot.Agree (.list kind) value value') :
    (partItems? value = none ∧ partItems? value' = none) ∨ ∃ items items',
      partItems? value = some items ∧ partItems? value' = some items' ∧
        List.Forall₂ kind.Agree items items' := by
  have harray : ∀ items, partItems? (.array items) = some items := by
    intro items
    cases items <;> rfl
  rcases h with rfl | ⟨items, items', rfl, rfl, hitems⟩
  · cases hvalue : partItems? value with
    | none => exact Or.inl ⟨rfl, rfl⟩
    | some items =>
      exact Or.inr ⟨items, items, rfl, rfl, List.forall₂_same.2 fun item _ => .refl kind item⟩
  · exact Or.inr ⟨items, items', harray items, harray items', hitems⟩

/-! ### One kind of object after the other -/

variable {members members' : List (Text × Json)}

/-- Objects of a kind agree in what is recognised in them. -/
def MembersAgree (kind : Part) (members members' : List (Text × Json)) : Prop :=
  ∀ entry ∈ recognised kind members,
    (Association.get? entry.1 members = none ↔ Association.get? entry.1 members' = none) ∧
      entry.2.Agree (memberOf entry.1 members) (memberOf entry.1 members')

/-- A key has the same value, or none, in two objects that have equal members under it. -/
theorem get?_congr {key : Text}
    (hgiven : Association.get? key members = none ↔ Association.get? key members' = none)
    (h : memberOf key members = memberOf key members') :
    Association.get? key members = Association.get? key members' := by
  unfold memberOf at h
  cases hvalue : Association.get? key members with
  | none => exact (hgiven.1 hvalue).symm
  | some value =>
    cases hvalue' : Association.get? key members' with
    | none =>
      rw [hgiven.2 hvalue'] at hvalue
      cases hvalue
    | some value' =>
      rw [hvalue, hvalue'] at h
      exact congrArg some h

theorem FoundAlike.object {α : Type} {look : List (Text × Json) → α}
    (h : look members = look members') : FoundAlike look (.object members) (.object members') := by
  have hobject : ∀ members, partMembers? (.object members) = some members := by
    intro members
    cases members <;> rfl
  unfold FoundAlike
  rw [hobject, hobject, Option.map_some, Option.map_some, h]

theorem FoundAlike.cases {α : Type} {look : List (Text × Json) → α} {value value' : Json}
    (h : FoundAlike look value value') :
    (partMembers? value = none ∧ partMembers? value' = none) ∨ ∃ members members',
      partMembers? value = some members ∧ partMembers? value' = some members' ∧
        look members = look members' := by
  unfold FoundAlike at h
  cases hvalue : partMembers? value with
  | none =>
    rw [hvalue, Option.map_none, eq_comm, Option.map_eq_none_iff] at h
    exact Or.inl ⟨rfl, h⟩
  | some members =>
    rw [hvalue, Option.map_some, eq_comm, Option.map_eq_some_iff] at h
    obtain ⟨members', hvalue', hlook⟩ := h
    exact Or.inr ⟨members, members', rfl, hvalue', hlook.symm⟩

theorem decodeChoices_congr {value value' : Json} (h : Slot.Agree (.list .choice) value value')
    (label : Text) : decodeChoices label value = decodeChoices label value' := by
  rcases h with rfl | ⟨items, items', rfl, rfl, hitems⟩
  · rfl
  · rw [decodeChoices, decodeChoices, decodeChoiceItems_eq_mapM, decodeChoiceItems_eq_mapM]
    exact mapM_congr_of_forall₂ (fun item item' hitem => hitem label) hitems

theorem choice_agree (h : MembersAgree .choice members members') :
    Part.Agree .choice (.object members) (.object members') := by
  simp only [MembersAgree, recognised, List.forall_mem_cons, Slot.Agree] at h
  obtain ⟨⟨hgiven, hvalue⟩, ⟨-, hchildren⟩, -⟩ := h
  intro label
  rw [decodeChoice, decodeChoice, decodeChildren_eq, decodeChildren_eq, get?_congr hgiven hvalue,
    decodeChoices_congr hchildren]

theorem decodeSubFieldsIn_congr
    (h : Slot.Agree (.list .field) (memberOf "fields" members) (memberOf "fields" members'))
    (label : Text) : decodeSubFieldsIn label members = decodeSubFieldsIn label members' := by
  rw [decodeSubFieldsIn_eq, decodeSubFieldsIn_eq]
  rcases partItems?_agree h with ⟨hnone, hnone'⟩ | ⟨items, items', hsome, hsome', hitems⟩
  · rw [hnone, hnone']
  · rw [hsome, hsome', Option.elim_some, Option.elim_some]
    exact mapM_congr_of_forall₂ (fun item item' hitem => hitem label) hitems

theorem options_agree (h : MembersAgree .options members members') :
    Part.Agree .options (.object members) (.object members') := by
  simp only [MembersAgree, recognised, List.forall_mem_cons, Slot.Agree] at h
  obtain ⟨⟨-, hchoices⟩, ⟨-, hpresets⟩, ⟨-, hother⟩, ⟨-, hcustom⟩, ⟨-, hother'⟩,
    ⟨-, hfields⟩, -⟩ := h
  have hallow : (allowOtherKeys.any fun key => (memberOf key members).isTrue) =
      allowOtherKeys.any fun key => (memberOf key members').isTrue := by
    simp only [allowOtherKeys, List.any_cons, List.any_nil, hother, hcustom, hother']
  intro label
  have hoffered : decodeOffered label members = decodeOffered label members' := by
    rw [decodeOffered, decodeOffered, decodeChoices_congr hchoices, decodeChoices_congr hpresets]
  rw [decodeOptions, decodeOptions, hoffered, hallow, decodeSubFieldsIn_congr hfields]

theorem fieldMeta_agree (h : MembersAgree .fieldMeta members members') :
    Part.Agree .fieldMeta (.object members) (.object members') := by
  simp only [MembersAgree, recognised, List.forall_mem_cons, Slot.Agree] at h
  obtain ⟨⟨-, hinterface⟩, ⟨-, hrequired⟩, ⟨-, hoptions⟩, -⟩ := h
  refine ⟨FoundAlike.object ?_, hoptions⟩
  rw [hinterface, hrequired]

theorem fieldSchema_agree (h : MembersAgree .fieldSchema members members') :
    Part.Agree .fieldSchema (.object members) (.object members') := by
  simp only [MembersAgree, recognised, List.forall_mem_cons, Slot.Agree] at h
  obtain ⟨⟨-, hnullable⟩, ⟨-, hprimary⟩, -⟩ := h
  refine FoundAlike.object ?_
  rw [hnullable, hprimary]

theorem collectionMeta_agree (h : MembersAgree .collectionMeta members members') :
    Part.Agree .collectionMeta (.object members) (.object members') :=
  FoundAlike.object (h _ List.mem_cons_self).2

/-- Which collections a relation names is read under the key that its type asks for. -/
theorem relation_agree (h : MembersAgree .relation members members') :
    Part.Agree .relation (.object members) (.object members') := by
  simp only [MembersAgree, recognised, List.forall_mem_cons] at h
  obtain ⟨⟨-, htype⟩, htargets⟩ := h
  have htype : memberOf "type" members = memberOf "type" members' := htype
  intro label
  rw [decodeRelation, decodeRelation, ← htype]
  cases hkind : RelationKind.of? (memberOf "type" members) with
  | none => rfl
  | some kind =>
    rw [hkind] at htargets
    cases kind <;>
    · have htarget := (htargets _ List.mem_cons_self).2
      simp only [Slot.Agree] at htarget
      rw [htarget]

theorem decodeHead_congr (hname : memberOf "field" members = memberOf "field" members')
    (htype : memberOf "type" members = memberOf "type" members')
    (hschema : Part.Agree .fieldSchema (memberOf "schema" members) (memberOf "schema" members'))
    (hmeta : Part.Agree .fieldMeta (memberOf "meta" members) (memberOf "meta" members'))
    (owner : Text) : decodeHead owner members = decodeHead owner members' := by
  rw [decodeHead, decodeHead, hname, htype]
  -- a part is missing in both, or else the same is looked up in it
  rcases FoundAlike.cases hschema with ⟨hs, hs'⟩ | ⟨schema, schema', hs, hs', hstored⟩
  · rw [hs, hs']
  rcases FoundAlike.cases hmeta.1 with ⟨hm, hm'⟩ | ⟨presentation, presentation', hm, hm', hshown⟩
  · rw [hs, hs', hm, hm']
  · obtain ⟨hnullable, hprimary⟩ := Prod.mk.inj hstored
    obtain ⟨hinterface, hrequired⟩ := Prod.mk.inj hshown
    rw [hs, hs', hm, hm']
    dsimp only
    rw [hnullable, hprimary, hinterface, hrequired]

theorem field_agree (h : MembersAgree .field members members') :
    Part.Agree .field (.object members) (.object members') := by
  simp only [MembersAgree, recognised, List.forall_mem_cons, Slot.Agree] at h
  obtain ⟨⟨-, hname⟩, ⟨-, htype⟩, ⟨-, hschema⟩, ⟨-, hmeta⟩, ⟨-, hrelation⟩, -⟩ := h
  intro owner
  rw [decodeField, decodeField, decodeHead_congr hname htype hschema hmeta]
  refine congrArg _ (funext fun head => ?_)
  dsimp only
  rw [decodeMetaOptions_eq, decodeMetaOptions_eq, hmeta.2, hrelation]

theorem collection_agree (h : MembersAgree .collection members members') :
    Part.Agree .collection (.object members) (.object members') := by
  simp only [MembersAgree, recognised, List.forall_mem_cons, Slot.Agree] at h
  obtain ⟨⟨hgiven, hname⟩, ⟨-, hmeta⟩, ⟨-, hfields⟩, -⟩ := h
  have hfields := partItems?_agree hfields
  intro key
  have hnamed : decodeName key members = decodeName key members' := by
    rw [decodeName, decodeName, get?_congr hgiven hname]
  rw [decodeParts, decodeParts, hnamed]
  rcases FoundAlike.cases hmeta with ⟨hm, hm'⟩ | ⟨presentation, presentation', hm, hm', hshown⟩
  · rw [hm, hm']
  rcases hfields with ⟨hnone, hnone'⟩ | ⟨items, items', hsome, hsome', hitems⟩
  · rw [hm, hm', hnone, hnone']
  · have hdecoded : ∀ name, decodeFields name items = decodeFields name items' :=
      fun name => decodeDistinct_congr _ _ (hitems.imp fun item item' hitem => hitem name) []
    rw [hm, hm', hsome, hsome']
    dsimp only
    simp only [hdecoded, hshown]

/-- **What is decoded of an object is decoded of its recognised members.** -/
theorem part_agree {kind : Part} (h : MembersAgree kind members members') :
    kind.Agree (.object members) (.object members') := by
  cases kind with
  | collection => exact collection_agree h
  | collectionMeta => exact collectionMeta_agree h
  | field => exact field_agree h
  | fieldSchema => exact fieldSchema_agree h
  | fieldMeta => exact fieldMeta_agree h
  | options => exact options_agree h
  | choice => exact choice_agree h
  | relation => exact relation_agree h

/-- **Values that are the same for the decoder are decoded alike.** -/
theorem Same.agree {slot : Slot} {value value' : Json} (h : Same slot value value') :
    slot.Agree value value' := by
  induction h with
  | refl slot value => exact Slot.Agree.refl slot value
  | object hgiven _ ih =>
    apply part_agree
    intro entry hentry
    exact ⟨hgiven entry hentry, ih entry hentry⟩
  | @item kind first first' rest rest' _ _ hfirst hrest =>
    right
    refine ⟨_, _, rfl, rfl, .cons hfirst ?_⟩
    rcases hrest with heq | ⟨items, items', heq, heq', hitems⟩
    · obtain rfl := Json.array.inj heq
      exact List.forall₂_same.2 fun item _ => .refl kind item
    · obtain rfl := Json.array.inj heq
      obtain rfl := Json.array.inj heq'
      exact hitems

/-! ### Edits -/

/-- The members of an object under recognised keys. -/
def recognisedMembers (kind : Part) (members : List (Text × Json)) : List (Text × Json) :=
  members.filter fun member => (recognised kind members).any (·.1 == member.1)

theorem get?_filter {key : Text} {keep : Text × Json → Bool}
    (h : ∀ value, keep (key, value) = true) :
    Association.get? key (members.filter keep) = Association.get? key members := by
  induction members with
  | nil => rfl
  | cons member rest ih =>
    obtain ⟨key', value⟩ := member
    rw [List.filter_cons, Association.get?]
    by_cases hkey : key' = key
    · subst hkey
      rw [if_pos (h value), Association.get?, if_pos rfl, if_pos rfl]
    · rw [if_neg hkey]
      split
      · rw [Association.get?, if_neg hkey, ih]
      · exact ih

theorem get?_recognisedMembers {kind : Part} {entry : Text × Slot}
    (h : entry ∈ recognised kind members) :
    Association.get? entry.1 (recognisedMembers kind members) =
      Association.get? entry.1 members := by
  refine get?_filter fun value => ?_
  rw [List.any_eq_true]
  exact ⟨entry, h, by simp⟩

/-- **Objects with the same recognised members are the same for the decoder**, whatever other
members they have and in whatever order. -/
theorem Same.of_perm {kind : Part} (hkeys : (Association.keys members).Nodup)
    (h : (recognisedMembers kind members).Perm (recognisedMembers kind members')) :
    Same (.part kind) (.object members) (.object members') := by
  have hkept : (Association.keys (recognisedMembers kind members)).Nodup :=
    hkeys.sublist (List.filter_sublist.map _)
  have hperm := Association.get?_of_perm hkept h
  -- the keys that are recognised in a relation are told by its type, which is one of them
  have hsame : recognised kind members = recognised kind members' := by
    cases kind with
    | relation =>
      have htype : Association.get? ("type" : Text) members =
          Association.get? ("type" : Text) members' := by
        have htype : ∀ members,
            Association.get? ("type" : Text) (recognisedMembers .relation members) =
              Association.get? ("type" : Text) members :=
          fun members => @get?_recognisedMembers members .relation ("type", .exact)
            List.mem_cons_self
        rw [← htype, ← hperm, htype]
      rw [recognised, recognised, memberOf, memberOf, htype]
    | _ => rfl
  have hget : ∀ entry ∈ recognised kind members,
      Association.get? entry.1 members = Association.get? entry.1 members' := by
    intro entry hentry
    rw [← get?_recognisedMembers hentry, ← hperm, get?_recognisedMembers (hsame ▸ hentry)]
  refine .object (fun entry hentry => by rw [hget entry hentry]) fun entry hentry => ?_
  rw [memberOf, memberOf, hget entry hentry]
  exact .refl _ _

/-! ### Snapshots -/

/-- Entries are decoded alike whose collections are the same under the same keys. -/
theorem decodeEntries_congr {entries entries' : List (Option Text × Json)}
    (h : List.Forall₂ (fun entry entry' => entry.1 = entry'.1 ∧
      Same (.part .collection) entry.2 entry'.2) entries entries') :
    decodeEntries entries = decodeEntries entries' := by
  refine decodeDistinct_congr _ _ (h.imp ?_) []
  rintro ⟨key, value⟩ ⟨_, value'⟩ ⟨rfl, hsame⟩
  have hparts : decodeParts key value = decodeParts key value' := hsame.agree key
  dsimp only
  rw [decodeCollection, decodeCollection, hparts]

/-- **Only recognised keys of a snapshot matter.**  Snapshots that are the same but for members
under other keys, and for the order of members, in their collections and in all objects in these
that the decoder looks into, are decoded alike: to the same schema or with the same fault. -/
theorem decode_sees_recognised_only {value value' : Json} (h : SameSnapshot value value') :
    decode value = decode value' := by
  cases h with
  | refl => rfl
  | @object members members' h =>
    have hentries : decodeEntries (members.map fun member => (some member.1, member.2)) =
        decodeEntries (members'.map fun member => (some member.1, member.2)) := by
      apply decodeEntries_congr
      rw [List.forall₂_map_left_iff, List.forall₂_map_right_iff]
      exact h.imp fun member member' hmember => ⟨congrArg some hmember.1, hmember.2⟩
    simp only [decode, entries?, hentries]
  | @array items items' h =>
    have hentries : decodeEntries (items.map (none, ·)) = decodeEntries (items'.map (none, ·)) := by
      apply decodeEntries_congr
      rw [List.forall₂_map_left_iff, List.forall₂_map_right_iff]
      exact h.imp fun item item' hitem => ⟨rfl, hitem⟩
    simp only [decode, entries?, hentries]

/-- A field that takes some of two choices, with the keys that are recognised. -/
def bareField : Json :=
  .object [("field", .string "x"), ("type", .string "json"),
    ("meta", .object [("interface", .string "tags"),
      ("options", .object [("choices", .array [.object [("value", .int 1)], .string "b"])])])]

/-- The same field with other keys in each object, and with the members in another order. -/
def richField : Json :=
  .object [("id", .int 7), ("type", .string "json"),
    ("meta", .object [("options", .object [("limit", .int 3),
        ("choices", .array [.object [("text", .string "one"), ("value", .int 1)], .string "b"])]),
      ("width", .string "half"), ("interface", .string "tags")]),
    ("field", .string "x")]

/-- A snapshot of one collection with one field. -/
def snapshotOf (field : Json) : Json :=
  .object [("a", .object [("fields", .array [field])])]

theorem same_bareField : Same (.part .field) bareField richField := by
  have hchoice : Same (.part .choice) (.object [("value", .int 1)])
      (.object [("text", .string "one"), ("value", .int 1)]) := .of_perm (by decide) (.refl _)
  have hchoices := Same.item hchoice (.refl (.list .choice) (.array [.string "b"]))
  have hoptions : ∀ choices choices', Same (.list .choice) choices choices' →
      Same (.part .options) (.object [("choices", choices)])
        (.object [("limit", .int 3), ("choices", choices')]) := by
    intro choices choices' h
    constructor <;> simp [recognised, memberOf, Association.get?, h, Same.refl]
  have hmeta : ∀ options options', Same (.part .options) options options' →
      Same (.part .fieldMeta) (.object [("interface", .string "tags"), ("options", options)])
        (.object [("options", options'), ("width", .string "half"),
          ("interface", .string "tags")]) := by
    intro options options' h
    constructor <;> simp [recognised, memberOf, Association.get?, h, Same.refl]
  have hshown := hmeta _ _ (hoptions _ _ hchoices)
  unfold bareField richField
  constructor <;> simp [recognised, memberOf, Association.get?, hshown, Same.refl]

theorem decode_richField :
    SameSnapshot (snapshotOf bareField) (snapshotOf richField) ∧
      decode (snapshotOf richField) = .ok ⟨[⟨"a", false, [{
        name := "x", type := "json", interface := some "tags",
        choices := [⟨.int 1, []⟩, ⟨.text "b", []⟩] }]⟩]⟩ := by
  have hcollection : ∀ field field', Same (.part .field) field field' →
      Same (.part .collection) (.object [("fields", .array [field])])
        (.object [("fields", .array [field'])]) := by
    intro field field' h
    have hfields := Same.item h (.refl (.list .field) (.array []))
    constructor <;> simp [recognised, memberOf, Association.get?, hfields, Same.refl]
  have hsame : SameSnapshot (snapshotOf bareField) (snapshotOf richField) :=
    .object (.cons ⟨rfl, hcollection _ _ same_bareField⟩ .nil)
  exact ⟨hsame, (decode_sees_recognised_only hsame).symm.trans (by decide +kernel)⟩

end SchemaScribe.Snapshot
