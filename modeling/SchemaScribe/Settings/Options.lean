import SchemaScribe.Association
import SchemaScribe.Text.CodePoint

/-!
# Generation options

The switches that shape the generated type definitions, and the members that a configuration adds
to the schema's own.
-/

namespace SchemaScribe

/-- **A member added to a record type.** -/
structure ComputedField where
  name : Text
  /-- The text of its type, which is written as it is. -/
  type : Text
  optional : Bool := false
  deriving DecidableEq, Repr

/-- The name of the directory type where none is given. -/
def defaultDirectoryTypeName : Text := "CustomDirectusTypes"

/-- **The switches of generation.** -/
structure Options where
  /-- Join keys and related records by `&` and not by `|`. -/
  useIntersectionTypes : Bool := false
  /-- Enter every collection into the directory as a single record. -/
  legacySingularMode : Bool := false
  /-- A required field is not optional even if it is nullable. -/
  treatRequiredAsNonNull : Bool := false
  directoryTypeName : Text := defaultDirectoryTypeName
  /-- The members to add, by the name of their collection. -/
  computedFields : Association Text (List ComputedField) := []
  deriving DecidableEq, Repr

end SchemaScribe
