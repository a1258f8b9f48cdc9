import SchemaScribe.Schema.Model
import SchemaScribe.Settings.Options
import SchemaScribe.Text.Quoted
import SchemaScribe.Typing.Primitive

/-!
# Types of fields

The type of a field takes in its relation, whose targets must be in the schema, and whether it is
optional (`resolve`).  A relation is typed by a key beside the related record; what the two are
joined by depends on the options.
-/

namespace SchemaScribe.Typing

/-! ### Faults -/

/-- What does not fit together in a schema. -/
inductive Inconsistency where
  | missingCollection (target : Text)
  | missingKey (target : Text)
  | computedTarget
  deriving DecidableEq, Repr

/-- The wording of an inconsistency. -/
def Inconsistency.message : Inconsistency → Text
  | .missingCollection target => "related collection '" ++ target ++ "' is not in the schema"
  | .missingKey target => "related collection '" ++ target ++ "' has no primary key field"
  | .computedTarget => "computed fields target a collection that is not in the schema"

/-- **Why a type cannot be given.** -/
inductive Fault where
  /-- An inconsistency, with the collection and the field at which it shows. -/
  | inconsistent (collection field : Text) (cause : Inconsistency)
  /-- A relation of a kind that is not known. -/
  | unknownRelation (kind : Text)
  /-- A relation without records of its own, where some were asked for. -/
  | noRecordType (relation : Relation)
  /-- A collection that is not found. -/
  | lookup (fault : ModelFault)
  deriving DecidableEq, Repr

/-- The wording of a fault. -/
def Fault.message : Fault → Text
  | .inconsistent collection field cause => collection ++ "." ++ field ++ ": " ++ cause.message
  | .unknownRelation kind => "Unsupported relation: " ++ Text.quoted kind
  | .noRecordType relation => "Relation has no related record type: " ++ relation.display
  | .lookup fault => fault.message

/-! ### Relations -/

/-- **A member of a record type.** -/
structure Member where
  name : Text
  type : Text
  optional : Bool
  deriving DecidableEq, Repr

/-- The collection that a relation points to must exist. -/
def requireCollection (schema : Schema) (collection : Text) (field : Field) (target : Text) :
    Except Fault Unit :=
  if schema.has target then .ok ()
  else .error (.inconsistent collection field.name (.missingCollection target))

/-- The field that identifies the records of a collection that a relation points to. -/
def findKey (schema : Schema) (collection : Text) (field : Field) (target : Text) :
    Except Fault Field := do
  requireCollection schema collection field target
  let found ← (schema.get target).mapError .lookup
  match found.primaryKeyField? with
  | some key => pure key
  | none => throw (.inconsistent collection field.name (.missingKey target))

/-- A text, or another one in place of the empty one. -/
def orElse (text fallback : Text) : Text := if text = "" then fallback else text

/-- The type that a field has by itself: that of its value, or of the keys that it holds. -/
def baseType (schema : Schema) (collection : Text) (field : Field) : Except Fault Text :=
  match field.relation with
  | none => .ok (primitiveType field 0)
  | some (.one target) => do
    requireCollection schema collection field target
    pure (primitiveType field 0)
  | some (.many target) => do
    let key ← findKey schema collection field target
    pure (primitiveType key 0 ++ "[]")
  | some (.any _) => .ok "string"
  | some (.anyType targets) =>
    .ok (orElse (literalUnion (targets.map fun target => .text (pascalCase target))) "string")
  | some (.unknown kind) => .error (.unknownRelation kind)

/-- What joins the type of a field to that of the related records.  Records of several collections
are always alternatives. -/
def joiner (useIntersectionTypes : Bool) : Relation → Text
  | .any _ => unionSeparator
  | _ => if useIntersectionTypes then " & " else unionSeparator

/-- The type of the records that a relation points to. -/
def relatedType : Relation → Except Fault Text
  | .one target => .ok (pascalCase target)
  | .many target => .ok (pascalCase target ++ "[]")
  | .any targets => .ok (orElse (union (targets.map pascalCase)) "never")
  | relation => .error (.noRecordType relation)

/-- The type of a field that is never null. -/
def requiredType (schema : Schema) (options : Options) (collection : Text) (field : Field) :
    Except Fault Text := do
  let base ← baseType schema collection field
  match field.relation with
  | none | some (.anyType _) => pure base
  | some relation =>
    let related ← relatedType relation
    pure (base ++ joiner options.useIntersectionTypes relation ++ related)

/-! ### Fields -/

/-- A field may be absent when it is nullable, unless the options put its being required first. -/
def isOptional (options : Options) (field : Field) : Bool :=
  field.nullable && !(options.treatRequiredAsNonNull && field.required)

/-- A type or null.  A joined type is put in parentheses where it may be an intersection. -/
def orNull (options : Options) (field : Field) (type : Text) : Text :=
  if field.relation.isSome && options.useIntersectionTypes then "(" ++ type ++ ") | null"
  else type ++ " | null"

/-- **The member that a field becomes**, if it stores a value.  `collection` names the collection it
belongs to. -/
def resolve (schema : Schema) (options : Options) (collection : Text) (field : Field) :
    Except Fault (Option Member) :=
  if field.isPresentational then .ok none
  else do
    let type ← requiredType schema options collection field
    let optional := isOptional options field
    pure (some ⟨field.name, if optional then orNull options field type else type, optional⟩)

end SchemaScribe.Typing
