import Mathlib.Data.List.Forall2
import SchemaScribe.Json.Value

/-!
# The grammar of snapshots

Which decoded values describe a schema, said without the decoder: `IsSnapshot` at the root, and
below it `IsCollection`, `IsField`, `IsOptions`, `IsChoices` and `IsRelation`.

A part that may be left out may also be empty, zero or `false` (`IsPart`, `IsListPart`), but the
value `null` alone stands for missing choices, options and relations.  Presets are looked at only
where the choices offer nothing, so only there do they have to be sound.  Fields of a collection
have different names; sub-fields may repeat a name.
-/

namespace SchemaScribe.Snapshot

/-! ### Parts that may be left out -/

/-- The members of a part, none where it is left out. -/
def membersIn (value : Json) : List (Text × Json) := value.members?.getD []

/-- The items of a part, none where it is left out. -/
def itemsIn (value : Json) : List Json := value.items?.getD []

/-- A part that is an object or left out. -/
def IsPart (value : Json) : Prop := value.isTruthy = false ∨ ∃ members, value = .object members

/-- A part that is an array or left out. -/
def IsListPart (value : Json) : Prop := value.isTruthy = false ∨ ∃ items, value = .array items

/-- A part that is a text or left out. -/
def IsTextPart (value : Json) : Prop := value.isTruthy = false ∨ ∃ text, value = .string text

/-! ### Choices -/

/-- **A value that a choice may stand for**: no array, no object and no infinite number. -/
def IsScalar : Json → Prop
  | .float value => value.isFinite
  | .array _ | .object _ => False
  | _ => True

mutual

/-- **A choice**: a bare value, or an object with a value and perhaps children. -/
inductive IsChoice : Json → Prop
  | bare {value : Json} : IsScalar value → IsChoice value
  | object {members : List (Text × Json)} {value : Json} :
    Association.get? ("value" : Text) members = some value → IsScalar value →
    IsChoices (memberOf "children" members) → IsChoice (.object members)

/-- **A list of choices**, which may be missing. -/
inductive IsChoices : Json → Prop
  | missing : IsChoices .null
  | array {items : List Json} : (∀ item ∈ items, IsChoice item) → IsChoices (.array items)

end

/-- Choices that are missing or none. -/
def OffersNothing (value : Json) : Prop := value = .null ∨ value = .array []

/-! ### Relations -/

/-- **A relation**, which may be missing: to the records of one collection, or to a list of
collections. -/
inductive IsRelation : Json → Prop
  | missing : IsRelation .null
  | toCollection {members : List (Text × Json)} {kind target : Text} :
    memberOf "type" members = .string kind → kind = "one" ∨ kind = "many" →
    memberOf "collection" members = .string target → target ≠ "" → IsRelation (.object members)
  | toCollections {members : List (Text × Json)} {kind : Text} {items : List Json} :
    memberOf "type" members = .string kind → kind = "any" ∨ kind = "any_type" →
    memberOf "collections" members = .array items → (∀ item ∈ items, ∃ text, item = .string text) →
    IsRelation (.object members)

/-! ### Fields -/

/-- The parts of a field that hold no other fields. -/
structure IsFieldHead (members : List (Text × Json)) : Prop where
  /-- The field has a name. -/
  named : ∃ name, memberOf "field" members = .string name ∧ name ≠ ""
  typed : IsTextPart (memberOf "type" members)
  stored : IsPart (memberOf "schema" members)
  shown : IsPart (memberOf "meta" members)
  interfaced : memberOf "interface" (membersIn (memberOf "meta" members)) = .null ∨
    ∃ text, memberOf "interface" (membersIn (memberOf "meta" members)) = .string text

mutual

/-- **A field**: an object with a name, whose options may hold fields again. -/
inductive IsField : Json → Prop
  | object {members : List (Text × Json)} : IsFieldHead members →
    IsOptions (memberOf "options" (membersIn (memberOf "meta" members))) →
    IsRelation (memberOf "relation" members) → IsField (.object members)

/-- **The options of an interface**, which may be missing. -/
inductive IsOptions : Json → Prop
  | missing : IsOptions .null
  | object {members : List (Text × Json)} : IsChoices (memberOf "choices" members) →
    (OffersNothing (memberOf "choices" members) → IsChoices (memberOf "presets" members)) →
    IsListPart (memberOf "fields" members) →
    (∀ item ∈ itemsIn (memberOf "fields" members), IsField item) → IsOptions (.object members)

end

/-! ### Collections -/

/-- The name that a field is given. -/
def fieldName (value : Json) : Text := (memberOf "field" (membersIn value)).text?.getD ""

/-- **A collection of a given name**, which may stand under a key.  The name is its own, or else the
key, and it is the key where there is one. -/
structure IsCollection (key : Option Text) (members : List (Text × Json)) (name : Text) :
    Prop where
  named : Association.get? ("collection" : Text) members = some (.string name) ∨
    Association.get? ("collection" : Text) members = none ∧ key = some name
  nonempty : name ≠ ""
  keyed : ∀ k, key = some k → k = name
  shown : IsPart (memberOf "meta" members)
  listed : IsListPart (memberOf "fields" members)
  fields : ∀ item ∈ itemsIn (memberOf "fields" members), IsField item
  distinct : ((itemsIn (memberOf "fields" members)).map fieldName).Nodup

/-- **An entry of a snapshot**: an object that is a collection of a given name. -/
def IsEntry (entry : Option Text × Json) (name : Text) : Prop :=
  ∃ members, entry.2 = .object members ∧ IsCollection entry.1 members name

/-- **A snapshot**: an object of collections under their names, or an array of collections, with a
different name for each. -/
inductive IsSnapshot : Json → Prop
  | object {members : List (Text × Json)} {names : List Text} :
    List.Forall₂ IsEntry (members.map fun member => (some member.1, member.2)) names →
    names.Nodup → IsSnapshot (.object members)
  | array {items : List Json} {names : List Text} :
    List.Forall₂ IsEntry (items.map fun item => (none, item)) names →
    names.Nodup → IsSnapshot (.array items)

end SchemaScribe.Snapshot
