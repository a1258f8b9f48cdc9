import SchemaScribe.Association
import SchemaScribe.Number.Binary64
import SchemaScribe.Text.Quoted

/-!
# The schema model

A schema is a list of collections, a collection a list of typed fields.  A field may offer choices,
which form trees, may hold lists of sub-fields, and may relate to other collections.

The checks that make a schema sound stand in the constructors `Collection.of`,
`Schema.ofCollections` and `Schema.ofKeyed`: fields of a collection have different names, and so
have the collections.
-/

namespace SchemaScribe

/-! ### Fields -/

/-- **What a field relates to.** -/
inductive Relation where
  /-- One record of a collection. -/
  | one (collection : Text)
  /-- A list of records of a collection. -/
  | many (collection : Text)
  /-- A record of one of several collections. -/
  | any (collections : List Text)
  /-- The name of the collection that a neighbouring `any` relation points to. -/
  | anyType (collections : List Text)
  /-- A relation of a kind that is not known; no type can be given to it. -/
  | unknown (kind : Text)
  deriving DecidableEq, Repr

/-- Texts in parentheses as a message shows them.  A single one is followed by a comma. -/
def displayTexts : List Text → Text
  | [text] => "(" ++ Text.quoted text ++ ",)"
  | texts => "(" ++ Text.intercalate ", " (texts.map Text.quoted) ++ ")"

/-- A relation as a message shows it. -/
def Relation.display : Relation → Text
  | .one collection => "OneRelation(collection=" ++ Text.quoted collection ++ ")"
  | .many collection => "ManyRelation(collection=" ++ Text.quoted collection ++ ")"
  | .any collections => "AnyRelation(collections=" ++ displayTexts collections ++ ")"
  | .anyType collections => "AnyTypeRelation(collections=" ++ displayTexts collections ++ ")"
  | .unknown kind => Text.quoted kind

/-- **The value that a choice stands for.**  Numbers keep the kind they were written in. -/
inductive ChoiceValue where
  | null
  | bool (value : Bool)
  | int (value : Int)
  | float (value : Binary64)
  | text (value : Text)
  deriving DecidableEq, Repr

/-- One declared choice.  Only tree interfaces look at the children. -/
structure Choice where
  value : ChoiceValue
  children : List Choice := []
  deriving Repr

mutual

/-- Whether two choices are the same. -/
def Choice.decEq : (a b : Choice) → Decidable (a = b)
  | ⟨v, cs⟩, ⟨w, ds⟩ =>
    match Choice.decEqList cs ds with
    | .isTrue h => decidable_of_decidable_of_iff (p := v = w) (by simp [h])
    | .isFalse h => .isFalse (by simp [h])

/-- Whether two lists of choices are the same. -/
def Choice.decEqList : (as bs : List Choice) → Decidable (as = bs)
  | [], [] => .isTrue rfl
  | [], _ :: _ => .isFalse (by simp)
  | _ :: _, [] => .isFalse (by simp)
  | a :: as, b :: bs =>
    match Choice.decEq a b, Choice.decEqList as bs with
    | .isTrue h, .isTrue h' => .isTrue (by rw [h, h'])
    | .isFalse h, _ => .isFalse (by simp [h])
    | _, .isFalse h' => .isFalse (by simp [h'])

end

instance : DecidableEq Choice := Choice.decEq

/-- **One typed member of a collection.** -/
structure Field where
  name : Text
  type : Text
  nullable : Bool := false
  required : Bool := false
  primaryKey : Bool := false
  interface : Option Text := none
  choices : List Choice := []
  /-- Values besides the declared choices may be entered. -/
  allowOther : Bool := false
  /-- The fields of the items of a list interface. -/
  subFields : List Field := []
  relation : Option Relation := none
  deriving Repr

mutual

/-- Whether two fields are the same. -/
def Field.decEq : (a b : Field) → Decidable (a = b)
  | ⟨n, t, u, r, k, i, cs, o, fs, l⟩, ⟨n', t', u', r', k', i', cs', o', fs', l'⟩ =>
    match Field.decEqList fs fs' with
    | .isTrue h =>
      decidable_of_decidable_of_iff
        (p := (n = n' ∧ t = t' ∧ u = u' ∧ r = r' ∧ k = k') ∧ i = i' ∧ cs = cs' ∧ o = o' ∧ l = l')
        (by simp [h, and_assoc])
    | .isFalse h => .isFalse (by simp [h])

/-- Whether two lists of fields are the same. -/
def Field.decEqList : (as bs : List Field) → Decidable (as = bs)
  | [], [] => .isTrue rfl
  | [], _ :: _ => .isFalse (by simp)
  | _ :: _, [] => .isFalse (by simp)
  | a :: as, b :: bs =>
    match Field.decEq a b, Field.decEqList as bs with
    | .isTrue h, .isTrue h' => .isTrue (by rw [h, h'])
    | .isFalse h, _ => .isFalse (by simp [h])
    | _, .isFalse h' => .isFalse (by simp [h'])

end

instance : DecidableEq Field := Field.decEq

/-- Interfaces that only arrange a form begin with one of these words. -/
def presentationalStarts : List Text := ["presentation-", "group-"]

/-- An interface that only arranges a form and stores no value. -/
def isPresentationalInterface (interface : Text) : Bool :=
  presentationalStarts.any fun start => start.toList.isPrefixOf interface.toList

/-- A field that stores no value. -/
def Field.isPresentational (field : Field) : Bool :=
  field.interface.any isPresentationalInterface

/-! ### Collections -/

/-- **A named record type.** -/
structure Collection where
  name : Text
  singleton : Bool := false
  fields : List Field := []
  deriving DecidableEq, Repr

/-- The field that identifies a record: the first one flagged as primary key, or else the first one
named `id`. -/
def Collection.primaryKeyField? (collection : Collection) : Option Field :=
  (collection.fields.find? (·.primaryKey)).or (collection.fields.find? (·.name == "id"))

/-! ### Schemas -/

/-- **A schema**: collections in order, found by their names. -/
structure Schema where
  collections : List Collection
  deriving DecidableEq, Repr

namespace Schema

/-- The names of the collections in order. -/
def names (schema : Schema) : List Text := schema.collections.map (·.name)

/-- The collection of a given name. -/
def find? (schema : Schema) (name : Text) : Option Collection :=
  schema.collections.find? (·.name == name)

/-- A collection of the given name exists. -/
def has (schema : Schema) (name : Text) : Bool := schema.names.contains name

/-- How many collections there are. -/
def size (schema : Schema) : Nat := schema.collections.length

theorem has_iff {schema : Schema} {name : Text} : schema.has name ↔ name ∈ schema.names := by
  simp [has]

/-- A collection is found exactly when it exists. -/
theorem find?_isSome (schema : Schema) (name : Text) :
    (schema.find? name).isSome = schema.has name := by
  rw [Bool.eq_iff_iff, has_iff]
  simp [find?, names, List.find?_isSome]

end Schema

/-! ### Checks -/

/-- **Why parts do not make a schema**, or why a part of one is not found. -/
inductive ModelFault where
  | duplicateField (field collection : Text)
  | duplicateCollection (name : Text)
  | keyMismatch (key name : Text)
  | unknownCollection (name : Text)
  deriving DecidableEq, Repr

/-- The wording of a fault. -/
def ModelFault.message : ModelFault → Text
  | .duplicateField field collection =>
    "Duplicate field '" ++ field ++ "' in collection '" ++ collection ++ "'."
  | .duplicateCollection name => "Duplicate collection '" ++ name ++ "'."
  | .keyMismatch key name =>
    "Collection key '" ++ key ++ "' does not match collection name '" ++ name ++ "'."
  | .unknownCollection name => Text.quoted name

/-- The first text of a list that stands in it before. -/
def firstRepeated? (seen : List Text) : List Text → Option Text
  | [] => none
  | text :: rest => if seen.contains text then some text else firstRepeated? (text :: seen) rest

/-- A collection, unless two of its fields have the same name. -/
def Collection.of (name : Text) (singleton : Bool) (fields : List Field) :
    Except ModelFault Collection :=
  match firstRepeated? [] (fields.map (·.name)) with
  | some field => .error (.duplicateField field name)
  | none => .ok ⟨name, singleton, fields⟩

/-- The schema of a list of collections, unless two of them have the same name. -/
def Schema.ofCollections (collections : List Collection) : Except ModelFault Schema :=
  match firstRepeated? [] (collections.map (·.name)) with
  | some name => .error (.duplicateCollection name)
  | none => .ok ⟨collections⟩

/-- The schema of collections given under keys, which must be their names. -/
def Schema.ofKeyed (pairs : Association Text Collection) : Except ModelFault Schema :=
  match pairs.find? fun pair => pair.1 != pair.2.name with
  | some (key, collection) => .error (.keyMismatch key collection.name)
  | none => .ok ⟨pairs.map Prod.snd⟩

/-- The collection of a given name, which has to exist. -/
def Schema.get (schema : Schema) (name : Text) : Except ModelFault Collection :=
  match schema.find? name with
  | some collection => .ok collection
  | none => .error (.unknownCollection name)

/-- The names of the collections as a message shows them. -/
def Schema.display (schema : Schema) : Text :=
  "SchemaModel([" ++ Text.intercalate ", " (schema.names.map Text.quoted) ++ "])"

/-- Nothing is repeated exactly when all are distinct and none was seen before. -/
theorem firstRepeated?_eq_none_iff {seen texts : List Text} :
    firstRepeated? seen texts = none ↔ texts.Nodup ∧ ∀ t ∈ texts, t ∉ seen := by
  induction texts generalizing seen with
  | nil => simp [firstRepeated?]
  | cons t r ih =>
    by_cases h : t ∈ seen
    · simp [firstRepeated?, h]
    · simp only [firstRepeated?, List.contains_eq_mem, h, decide_false, Bool.false_eq_true,
        if_false, ih, List.nodup_cons, List.mem_cons]
      grind

end SchemaScribe
