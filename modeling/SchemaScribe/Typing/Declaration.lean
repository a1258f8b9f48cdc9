import SchemaScribe.Typing.Resolve

/-!
# Type definitions

The text of a schema's type definitions (`generate`): a record type for each collection, and the
directory type with an entry for each.  Collections and fields keep their order, and the computed
fields of a collection come after its own.
-/

namespace SchemaScribe.Typing

/-! ### Members -/

/-- The line of a member. -/
def Member.text (member : Member) : Text :=
  memberIdentifier member.name ++ (if member.optional then "?" else "") ++ ": " ++ member.type ++
    ";"

/-- A computed field as a member. -/
def Member.ofComputed (field : ComputedField) : Member := ⟨field.name, field.type, field.optional⟩

/-- The members that fields become, in order. -/
def fieldMembers (schema : Schema) (options : Options) (collection : Text) :
    List Field → Except Fault (List Member)
  | [] => .ok []
  | field :: rest => do
    let member ← resolve schema options collection field
    let more ← fieldMembers schema options collection rest
    pure (member.toList ++ more)

/-- The computed fields of a collection. -/
def computedOf (options : Options) (collection : Text) : List ComputedField :=
  (Association.get? collection options.computedFields).getD []

/-- **The members of a record type.** -/
def recordMembers (schema : Schema) (options : Options) (collection : Collection) :
    Except Fault (List Member) := do
  let own ← fieldMembers schema options collection.name collection.fields
  pure (own ++ (computedOf options collection.name).map Member.ofComputed)

/-! ### Declarations -/

/-- The declaration of a type with the given lines. -/
def declaration (name : Text) (lines : List Text) : Text :=
  if lines.isEmpty then "export type " ++ name ++ " = \x7b\x7d;\n"
  else
    "export type " ++ name ++ " = \x7b\n" ++
      Text.intercalate "\n" (lines.map fun line => "  " ++ line) ++ "\n\x7d;\n"

/-- The declaration of the record type of a collection. -/
def recordDeclaration (schema : Schema) (options : Options) (collection : Collection) :
    Except Fault Text := do
  let members ← recordMembers schema options collection
  pure (declaration (pascalCase collection.name) (members.map Member.text))

/-- The declarations of the record types of collections, in order. -/
def recordDeclarations (schema : Schema) (options : Options) :
    List Collection → Except Fault (List Text)
  | [] => .ok []
  | collection :: rest => do
    let record ← recordDeclaration schema options collection
    let more ← recordDeclarations schema options rest
    pure (record :: more)

/-- The line of a collection in the directory: a list of records, or one record of a singleton. -/
def directoryEntry (options : Options) (collection : Collection) : Text :=
  memberIdentifier collection.name ++ ": " ++ pascalCase collection.name ++
    (if collection.singleton || options.legacySingularMode then "" else "[]") ++ ";"

/-- The declaration of the directory type. -/
def directoryDeclaration (schema : Schema) (options : Options) : Text :=
  declaration options.directoryTypeName (schema.collections.map (directoryEntry options))

/-! ### Generation -/

/-- The first entry of the computed fields whose collection is not in the schema. -/
def strayComputed? (schema : Schema) (computed : Association Text (List ComputedField)) :
    Option (Text × List ComputedField) :=
  computed.find? fun entry => !schema.has entry.1

/-- Computed fields belong to collections of the schema.  A fault names the first field of the first
stray entry. -/
def checkComputed (schema : Schema) (computed : Association Text (List ComputedField)) :
    Except Fault Unit :=
  match strayComputed? schema computed with
  | none => .ok ()
  | some (collection, fields) =>
    .error (.inconsistent collection ((fields.head?.map (·.name)).getD "") .computedTarget)

/-- **The type definitions of a schema.**  Declarations are separated by a blank line. -/
def generate (schema : Schema) (options : Options) : Except Fault Text := do
  checkComputed schema options.computedFields
  let records ← recordDeclarations schema options schema.collections
  pure (Text.intercalate "\n" (records ++ [directoryDeclaration schema options]))

/-! ### Progress -/

/-- The collections whose record types can be given, up to the first that cannot, with the numbers
of their members. -/
def emittedFrom (schema : Schema) (options : Options) : List Collection → List (Text × Nat)
  | [] => []
  | collection :: rest =>
    match recordMembers schema options collection with
    | .ok members => (pascalCase collection.name, members.length) :: emittedFrom schema options rest
    | .error _ => []

/-- The record types that generation gets to, with the numbers of their members. -/
def emitted (schema : Schema) (options : Options) : List (Text × Nat) :=
  match checkComputed schema options.computedFields with
  | .ok _ => emittedFrom schema options schema.collections
  | .error _ => []

end SchemaScribe.Typing
