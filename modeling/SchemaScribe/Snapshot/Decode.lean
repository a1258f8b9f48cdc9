import SchemaScribe.Schema.Model
import SchemaScribe.Snapshot.Fault

/-!
# Schemas from snapshots

A snapshot is an object of collections under their names, or an array of collections that carry
their names themselves (`decode`).  Parts are checked in a fixed order, and the first one that does
not fit decides the fault: a field by its name, type, schema and meta, interface, options and
relation; options by their choices, presets and sub-fields.  What comes out of a snapshot is put
together by the constructors of the model, whose own checks then have nothing left to object to.

Choices and fields are trees.  The decoders follow the decoded value downwards, through the list of
members in search of the one that goes on, so each call is on a part of the value before it.
-/

namespace SchemaScribe.Snapshot

/-! ### Parts that need no recursion -/

/-- The value that a choice stands for.  Arrays, objects and the numbers without digits are none. -/
def decodeChoiceValue (label : Text) : Json → Except Fault ChoiceValue
  | .null => .ok .null
  | .bool value => .ok (.bool value)
  | .int value => .ok (.int value)
  | .float value =>
    if value.isFinite then .ok (.float value) else .error (.choiceValue label (.float value))
  | .string text => .ok (.text text)
  | value => .error (.choiceValue label value)

/-- The words for the kinds of relation. -/
inductive RelationKind where
  | one
  | many
  | any
  | anyType
  deriving DecidableEq, Repr

/-- How a kind is written. -/
def RelationKind.word : RelationKind → Text
  | .one => "one"
  | .many => "many"
  | .any => "any"
  | .anyType => "any_type"

/-- The kind that a value names. -/
def RelationKind.of? : Json → Option RelationKind
  | .string text => [one, many, any, anyType].find? (·.word == text)
  | _ => none

/-- The collection that a relation to one collection names. -/
def decodeTarget (label : Text) (kind : RelationKind) : Json → Except Fault Text
  | .string text => if text = "" then .error (.relationTarget label kind.word) else .ok text
  | _ => .error (.relationTarget label kind.word)

/-- The collections that a relation to several names. -/
def decodeTargets (label : Text) (kind : RelationKind) : Json → Except Fault (List Text)
  | .array items =>
    match items.mapM Json.text? with
    | some texts => .ok texts
    | none => .error (.relationTargets label kind.word)
  | _ => .error (.relationTargets label kind.word)

/-- The relation of a field, if it has one. -/
def decodeRelation (label : Text) : Json → Except Fault (Option Relation)
  | .null => .ok none
  | .object members =>
    match RelationKind.of? (memberOf "type" members) with
    | some .one => do
      let target ← decodeTarget label .one (memberOf "collection" members)
      pure (some (.one target))
    | some .many => do
      let target ← decodeTarget label .many (memberOf "collection" members)
      pure (some (.many target))
    | some .any => do
      let targets ← decodeTargets label .any (memberOf "collections" members)
      pure (some (.any targets))
    | some .anyType => do
      let targets ← decodeTargets label .anyType (memberOf "collections" members)
      pure (some (.anyType targets))
    | none => .error (.relationKind label (memberOf "type" members))
  | _ => .error (.relationShape label)

/-- The members of a part that may be missing or empty. -/
def partMembers? (value : Json) : Option (List (Text × Json)) :=
  if value.isTruthy then value.members? else some []

/-- The items of a part that may be missing or empty. -/
def partItems? (value : Json) : Option (List Json) :=
  if value.isTruthy then value.items? else some []

/-- The name of a field. -/
def decodeFieldName (owner : Text) : Json → Except Fault Text
  | .string name => if name = "" then .error (.fieldName owner) else .ok name
  | _ => .error (.fieldName owner)

/-- The type of a field, which is a string if nothing is said. -/
def decodeType (label : Text) (value : Json) : Except Fault Text :=
  if value.isTruthy then
    match value with
    | .string type => .ok type
    | _ => .error (.fieldType label)
  else .ok "string"

/-- The interface of a field, if it has one. -/
def decodeInterface (label : Text) : Json → Except Fault (Option Text)
  | .null => .ok none
  | .string interface => .ok (some interface)
  | _ => .error (.interface label)

/-- A field without its options and its relation. -/
def decodeHead (owner : Text) (members : List (Text × Json)) : Except Fault Field := do
  let name ← decodeFieldName owner (memberOf "field" members)
  let label := owner ++ "." ++ name
  let type ← decodeType label (memberOf "type" members)
  match partMembers? (memberOf "schema" members), partMembers? (memberOf "meta" members) with
  | some schema, some presentation => do
    let interface ← decodeInterface label (memberOf "interface" presentation)
    pure { name := name, type := type, interface := interface,
           nullable := (memberOf "is_nullable" schema).isTrue,
           required := (memberOf "required" presentation).isTrue,
           primaryKey := (memberOf "is_primary_key" schema).isTrue }
  | _, _ => throw (.fieldParts label)

/-! ### Choices -/

mutual

/-- A list of choices, which may be missing. -/
def decodeChoices (label : Text) : Json → Except Fault (List Choice)
  | .null => .ok []
  | .array items => decodeChoiceItems label items
  | _ => .error (.choices label)

/-- The choices of a list, one by one. -/
def decodeChoiceItems (label : Text) : List Json → Except Fault (List Choice)
  | [] => .ok []
  | item :: rest => do
    let choice ← decodeChoice label item
    let more ← decodeChoiceItems label rest
    pure (choice :: more)

/-- One choice: an object with a value and perhaps children, or the bare value. -/
def decodeChoice (label : Text) : Json → Except Fault Choice
  | .object members =>
    match Association.get? ("value" : Text) members with
    | none => .error (.choiceWithoutValue label)
    | some value => do
      let children ← decodeChildren label members
      let value ← decodeChoiceValue label value
      pure ⟨value, children⟩
  | value => do
    let value ← decodeChoiceValue label value
    pure ⟨value, []⟩

/-- The children among the members of a choice. -/
def decodeChildren (label : Text) : List (Text × Json) → Except Fault (List Choice)
  | [] => .ok []
  | (key, value) :: rest =>
    if key = "children" then decodeChoices label value else decodeChildren label rest

end

/-- The choices among the members of interface options, taken from the presets if there are none. -/
def decodeOffered (label : Text) (members : List (Text × Json)) :
    Except Fault (List Choice) := do
  let choices ← decodeChoices label (memberOf "choices" members)
  if choices.isEmpty then decodeChoices label (memberOf "presets" members) else pure choices

/-! ### Fields -/

/-- The keys that allow values besides the choices. -/
def allowOtherKeys : List Text := ["allowOther", "allowCustom", "allow_other"]

/-- What the options of an interface say about the values of its field. -/
structure InterfaceOptions where
  choices : List Choice := []
  allowOther : Bool := false
  subFields : List Field := []
  deriving Repr

mutual

/-- One field of the collection or field `owner`. -/
def decodeField (owner : Text) : Json → Except Fault Field
  | .object members => do
    let head ← decodeHead owner members
    let label := owner ++ "." ++ head.name
    let options ← decodeMetaOptions label members
    let relation ← decodeRelation label (memberOf "relation" members)
    pure { head with
      choices := options.choices, allowOther := options.allowOther,
      subFields := options.subFields, relation := relation }
  | _ => .error (.fieldShape owner)

/-- The interface options among the members of a field, which stand in its meta part. -/
def decodeMetaOptions (label : Text) : List (Text × Json) → Except Fault InterfaceOptions
  | [] => .ok {}
  | (key, value) :: rest =>
    if key = "meta" then
      match value with
      | .object members => decodeOptionsIn label members
      | _ => .ok {}
    else decodeMetaOptions label rest

/-- The interface options among the members of a meta part. -/
def decodeOptionsIn (label : Text) : List (Text × Json) → Except Fault InterfaceOptions
  | [] => .ok {}
  | (key, value) :: rest =>
    if key = "options" then decodeOptions label value else decodeOptionsIn label rest

/-- The options of an interface, which may be missing. -/
def decodeOptions (label : Text) : Json → Except Fault InterfaceOptions
  | .null => .ok {}
  | .object members => do
    let choices ← decodeOffered label members
    let subFields ← decodeSubFieldsIn label members
    pure {
      choices := choices
      allowOther := allowOtherKeys.any fun key => (memberOf key members).isTrue
      subFields := subFields }
  | _ => .error (.options label)

/-- The sub-fields among the members of interface options. -/
def decodeSubFieldsIn (label : Text) : List (Text × Json) → Except Fault (List Field)
  | [] => .ok []
  | (key, value) :: rest =>
    if key = "fields" then
      match value with
      | .array items => decodeSubFields label items
      | value => if value.isTruthy then .error (.subFields label) else .ok []
    else decodeSubFieldsIn label rest

/-- A list of sub-fields, one by one. -/
def decodeSubFields (label : Text) : List Json → Except Fault (List Field)
  | [] => .ok []
  | item :: rest => do
    let field ← decodeField label item
    let more ← decodeSubFields label rest
    pure (field :: more)

end

/-! ### Collections -/

/-- Parts decoded one by one, which must have names that are not among `seen` and differ from each
other.  A part is looked at only after all before it were found sound. -/
def decodeDistinct {ε ι α : Type} (decodeItem : ι → Except ε α) (name : α → Text)
    (repeated : Text → ε) (seen : List Text) : List ι → Except ε (List α)
  | [] => .ok []
  | item :: rest => do
    let part ← decodeItem item
    if seen.contains (name part) then throw (repeated (name part))
    let more ← decodeDistinct decodeItem name repeated (name part :: seen) rest
    pure (part :: more)

/-- The fields of a collection. -/
def decodeFields (collection : Text) (items : List Json) : Except Fault (List Field) :=
  decodeDistinct (decodeField collection) (·.name) (.duplicateField collection) [] items

/-- The name of a collection: its own, or else the key that it stands under. -/
def decodeName (key : Option Text) (members : List (Text × Json)) : Except Fault Text :=
  let name? :=
    match Association.get? ("collection" : Text) members with
    | some value => value.text?
    | none => key
  match name? with
  | none => .error .collectionName
  | some name =>
    if name = "" then .error .collectionName
    else
      match key with
      | some key => if key = name then .ok name else .error (.keyMismatch key name)
      | none => .ok name

/-- The parts of one collection, which may stand under a key. -/
def decodeParts (key : Option Text) : Json → Except Fault Collection
  | .object members => do
    let name ← decodeName key members
    match partMembers? (memberOf "meta" members) with
    | none => throw (.collectionMeta name)
    | some presentation =>
      match partItems? (memberOf "fields" members) with
      | none => throw (.collectionFields name)
      | some items => do
        let fields ← decodeFields name items
        pure ⟨name, (memberOf "singleton" presentation).isTrue, fields⟩
  | _ => .error (.collectionShape key)

/-- One collection, which may stand under a key. -/
def decodeCollection (key : Option Text) (value : Json) : Except LoadFault Collection := do
  let parts ← (decodeParts key value).mapError .snapshot
  (Collection.of parts.name parts.singleton parts.fields).mapError .model

/-- The collections of a snapshot. -/
def decodeEntries (entries : List (Option Text × Json)) : Except LoadFault (List Collection) :=
  decodeDistinct (fun entry => decodeCollection entry.1 entry.2) (·.name)
    (fun name => .snapshot (.duplicateCollection name)) [] entries

/-- The collections of a snapshot before they are decoded, with the keys they stand under. -/
def entries? : Json → Option (List (Option Text × Json))
  | .object members => some (members.map fun member => (some member.1, member.2))
  | .array items => some (items.map (none, ·))
  | _ => none

/-- **The schema that a decoded snapshot describes.** -/
def decode (value : Json) : Except LoadFault Schema :=
  match entries? value with
  | none => .error (.snapshot .root)
  | some entries => do
    let collections ← decodeEntries entries
    (Schema.ofKeyed (collections.map fun c => (c.name, c))).mapError .model

/-- **The schema that a snapshot text describes.** -/
def load (text : Text) : Except LoadFault Schema :=
  match Json.read text with
  | .error e => .error (.ofReadError e)
  | .ok value => decode value

end SchemaScribe.Snapshot
