import SchemaScribe.Disk.Class
import SchemaScribe.Yaml.Fault

/-!
# What can be wrong with a configuration

The reasons for which a configuration cannot be used, and their wording.
-/

namespace SchemaScribe.Settings

/-- **Why a configuration is refused.** -/
inductive Fault where
  | notFound (path : Path)
  | root
  | missingSection (name : Text)
  | twoSources
  | noSource
  | inlineShape
  | pathShape
  | snapshotNotFound (path : Path)
  | emptySnapshot
  | notText (setting : Text)
  | emptyText (setting : Text)
  | notBool (setting : Text)
  | notList (setting : Text)
  | notMapping (setting : Text)
  | typeName (name : Text)
  /-- A collection is named by an integer of too many digits. -/
  | nameTooLong
  | document (fault : Yaml.Fault)
  | disk (fault : DiskFault)
  deriving DecidableEq, Repr

/-- The wording of a fault. -/
def Fault.message : Fault → Text
  | .notFound path => "Configuration file not found: " ++ path.text
  | .root => "Configuration root must be a mapping."
  | .missingSection name => "Configuration section '" ++ name ++ "' is required."
  | .twoSources => "Schema section must not set both inline and path."
  | .noSource => "Schema section requires either inline or path."
  | .inlineShape => "schema.inline must be a string."
  | .pathShape => "schema.path must be a string."
  | .snapshotNotFound path => "Schema snapshot file not found: " ++ path.text
  | .emptySnapshot => "Schema snapshot text cannot be empty."
  | .notText setting => setting ++ " must be a string."
  | .emptyText setting => setting ++ " must not be empty."
  | .notBool setting => setting ++ " must be a boolean."
  | .notList setting => setting ++ " must be a list."
  | .notMapping setting => setting ++ " must be a mapping."
  | .typeName name => "generation.directory_type_name '" ++ name ++ "' is not a valid type name."
  | .nameTooLong =>
    "Exceeds the limit (" ++ toString Numeral.digitLimit ++
      " digits) for integer string conversion; " ++
      "use sys.set_int_max_str_digits() to increase the limit"
  | .document fault =>
    if fault.isMalformed then "Failed to parse configuration file: " ++ fault.message
    else fault.message
  | .disk fault => fault.message

end SchemaScribe.Settings
