import SchemaScribe.Json.Display
import SchemaScribe.Json.Reader
import SchemaScribe.Schema.Model

/-!
# What can be wrong with a snapshot

The reasons for which a snapshot does not describe a schema, and their wording.  `label` names a
field together with the collection or field that it belongs to.
-/

namespace SchemaScribe.Snapshot

/-- **Why a decoded snapshot is refused.** -/
inductive Fault where
  | malformed (problem : Json.Problem) (place : Json.Place)
  | nonFinite (token : Text)
  | root
  | collectionShape (key : Option Text)
  | collectionName
  | keyMismatch (key name : Text)
  | collectionMeta (name : Text)
  | collectionFields (name : Text)
  | duplicateCollection (name : Text)
  | duplicateField (collection field : Text)
  | fieldShape (owner : Text)
  | fieldName (owner : Text)
  | fieldType (label : Text)
  | fieldParts (label : Text)
  | interface (label : Text)
  | options (label : Text)
  | subFields (label : Text)
  | choices (label : Text)
  | choiceWithoutValue (label : Text)
  | choiceValue (label : Text) (value : Json)
  | relationShape (label : Text)
  | relationTarget (label kind : Text)
  | relationTargets (label kind : Text)
  | relationKind (label : Text) (kind : Json)
  deriving DecidableEq, Repr

/-- The wording of a fault. -/
def Fault.message : Fault → Text
  | .malformed problem place =>
    "Invalid schema snapshot: " ++ problem.message ++ ": " ++ place.message
  | .nonFinite token => "Invalid schema snapshot: non-finite number '" ++ token ++ "' is not JSON."
  | .root => "Schema snapshot root must be an object or a list of collections."
  | .collectionShape (some key) => "Collection '" ++ key ++ "' must be an object."
  | .collectionShape none => "Collection 'None' must be an object."
  | .collectionName => "Collection objects require a non-empty 'collection' name."
  | .keyMismatch key name =>
    "Collection key '" ++ key ++ "' does not match collection name '" ++ name ++ "'."
  | .collectionMeta name => "Collection '" ++ name ++ "' meta must be an object."
  | .collectionFields name => "Collection '" ++ name ++ "' fields must be a list."
  | .duplicateCollection name => "Duplicate collection detected: " ++ name
  | .duplicateField collection field => "Duplicate field detected: " ++ collection ++ "." ++ field
  | .fieldShape owner => "Field definitions in '" ++ owner ++ "' must be objects."
  | .fieldName owner => "Field definitions in '" ++ owner ++ "' require a 'field' name."
  | .fieldType label => "Field '" ++ label ++ "' type must be a string."
  | .fieldParts label => "Field '" ++ label ++ "' schema/meta must be objects."
  | .interface label => "Field '" ++ label ++ "' interface must be a string."
  | .options label => "Field '" ++ label ++ "' interface options must be an object."
  | .subFields label => "Field '" ++ label ++ "' list sub-fields must be a list."
  | .choices label => "Field '" ++ label ++ "' choices must be a list."
  | .choiceWithoutValue label => "Field '" ++ label ++ "' choice objects require a value."
  | .choiceValue label value =>
    "Field '" ++ label ++ "' choice value " ++ value.display ++
      " is not a string, number or boolean."
  | .relationShape label => "Field '" ++ label ++ "' relation must be an object."
  | .relationTarget label kind =>
    "Field '" ++ label ++ "' " ++ kind ++ " relation requires a collection."
  | .relationTargets label kind =>
    "Field '" ++ label ++ "' " ++ kind ++ " relation requires a list of collections."
  | .relationKind label kind =>
    "Field '" ++ label ++ "' has unsupported relation type: " ++ kind.plainText

/-- **Why a snapshot gives no schema**: a fault of the snapshot, parts of it that do not make a
schema, or an integer whose digits are too many to be read at all. -/
inductive LoadFault where
  | snapshot (fault : Fault)
  | model (fault : ModelFault)
  | tooLong (digits : Nat)
  deriving DecidableEq, Repr

/-- The wording of a load fault. -/
def LoadFault.message : LoadFault → Text
  | .snapshot fault => fault.message
  | .model fault => fault.message
  | .tooLong digits => (Numeral.Fault.tooLong digits).message

/-- A text that cannot be read as a value is a fault of the snapshot, integers of excess length
apart. -/
def LoadFault.ofReadError : Json.ReadError → LoadFault
  | .malformed problem place => .snapshot (.malformed problem place)
  | .nonFinite token => .snapshot (.nonFinite token)
  | .tooLong digits => .tooLong digits

end SchemaScribe.Snapshot
