import SchemaScribe.Disk.Access
import SchemaScribe.Settings.Fault
import SchemaScribe.Settings.Options
import SchemaScribe.Text.Blank
import SchemaScribe.Typing.Name
import SchemaScribe.Yaml.Value

/-!
# Configurations

A configuration says where the schema snapshot is, where the type definitions go, and how they are
generated.  Each section is read from its value by a function of its own (`Source.ofValue`,
`outputText`, `computedFields`, `generation`); `load` puts them together in a fixed order and reads
the snapshot's file, whose path counts from the directory of the configuration.
-/

namespace SchemaScribe.Settings

open Yaml (Value Scalar)

/-! ### Parts -/

/-- A section, which has to be a mapping. -/
def requireMapping (name : Text) : Value → Except Fault (List (Scalar × Value))
  | .mapping pairs => .ok pairs
  | _ => .error (.missingSection name)

/-- A text that may be missing.  Blanks around it do not count, and blanks alone count as missing.
-/
def optionalText (setting : Text) : Value → Except Fault (Option Text)
  | .scalar .null => .ok none
  | .scalar (.text text) =>
    let trimmed := Text.trim text
    .ok (if trimmed = "" then none else some trimmed)
  | _ => .error (.notText setting)

/-- A text that is not blank.  Blanks around it do not count. -/
def requireText (setting : Text) : Value → Except Fault Text
  | .scalar (.text text) =>
    let trimmed := Text.trim text
    if trimmed = "" then .error (.emptyText setting) else .ok trimmed
  | _ => .error (.notText setting)

/-- A switch, which is off if it is missing. -/
def optionalFlag (setting : Text) : Value → Except Fault Bool
  | .scalar .null => .ok false
  | .scalar (.bool value) => .ok value
  | _ => .error (.notBool setting)

/-- The items of a value that is a list.  Bytes are a list of numbers. -/
def items? : Value → Option (List Value)
  | .list items => some items
  | .scalar (.bytes bytes) => some (bytes.map fun byte => .scalar (.int byte.toNat))
  | _ => none

/-! ### The schema section -/

/-- **Where the snapshot is**: in the configuration itself or at a path. -/
inductive Source where
  | inline (text : Text)
  | file (path : Path)
  deriving DecidableEq, Repr

/-- The source that a section names.  Exactly one must be given. -/
def Source.ofValue (value : Value) : Except Fault Source := do
  let pairs ← requireMapping "schema" value
  let inlineValue := Value.under "inline" pairs
  let pathValue := Value.under "path" pairs
  if inlineValue.isTruthy && pathValue.isTruthy then throw .twoSources
  if inlineValue.isTruthy then
    match inlineValue with
    | .scalar (.text text) => pure (.inline text)
    | _ => throw .inlineShape
  else if pathValue.isTruthy then
    match pathValue with
    | .scalar (.text text) => pure (.file (.ofText text))
    | _ => throw .pathShape
  else throw .noSource

/-! ### The other sections -/

/-- The path that the output section gives, if it does. -/
def outputText : Value → Except Fault (Option Text)
  | .scalar .null => .ok none
  | value => do
    let output ← requireMapping "output" value
    optionalText "output.path" (Value.under "path" output)

/-- One computed field. -/
def computedField (label : Text) : Value → Except Fault ComputedField
  | .mapping pairs => do
    let name ← requireText (label ++ ".name") (Value.under "name" pairs)
    let type ← requireText (label ++ ".type") (Value.under "type" pairs)
    let optional ← optionalFlag (label ++ ".optional") (Value.under "optional" pairs)
    pure ⟨name, type, optional⟩
  | _ => .error (.notMapping label)

/-- The computed fields of a collection, counted from `index`. -/
def computedList (label : Text) (index : Nat) : List Value → Except Fault (List ComputedField)
  | [] => .ok []
  | item :: rest => do
    let field ← computedField (label ++ "[" ++ toString index ++ "]") item
    let more ← computedList label (index + 1) rest
    pure (field :: more)

/-- The computed fields by the names of their collections.  Keys that read the same are the same
name, under which the last list stands. -/
def computedEntries (made : Association Text (List ComputedField)) :
    List (Scalar × Value) → Except Fault (Association Text (List ComputedField))
  | [] => .ok made
  | (key, value) :: rest => do
    match key.display? with
    | none => throw .nameTooLong
    | some name => do
      let label := "computed_fields." ++ name
      match items? value with
      | none => throw (.notList label)
      | some items => do
        let fields ← computedList label 0 items
        computedEntries (Association.put name fields made) rest

/-- The computed fields of a configuration. -/
def computedFields : Value → Except Fault (Association Text (List ComputedField))
  | .scalar .null => .ok []
  | value => do computedEntries [] (← requireMapping "computed_fields" value)

/-- The name of the directory type, which has to be a plain identifier. -/
def directoryTypeName (value : Value) : Except Fault Text := do
  let given ← optionalText "generation.directory_type_name" value
  let name := given.getD defaultDirectoryTypeName
  if Typing.isPlainIdentifier name.toList then pure name else throw (.typeName name)

/-- The options of the generation section, beside the computed fields. -/
def generation (computed : Association Text (List ComputedField)) (value : Value) :
    Except Fault Options := do
  let pairs ←
    match value with
    | .scalar .null => pure []
    | value => requireMapping "generation" value
  let name ← directoryTypeName (Value.under "directory_type_name" pairs)
  let flag (key : Text) : Except Fault Bool :=
    optionalFlag ("generation." ++ key) (Value.under key pairs)
  pure {
    useIntersectionTypes := ← flag "use_intersection_types"
    legacySingularMode := ← flag "legacy_singular_mode"
    treatRequiredAsNonNull := ← flag "treat_required_as_non_null"
    directoryTypeName := name
    computedFields := computed }

/-- The sections of a configuration.  Where nothing is given there are none. -/
def sections : Value → Except Fault (List (Scalar × Value))
  | .scalar .null => .ok []
  | .mapping pairs => .ok pairs
  | _ => .error .root

/-! ### Configurations -/

/-- **A configuration.** -/
structure Configuration where
  path : Path
  schemaText : Text
  /-- The file that the schema's snapshot was read from. -/
  sourcePath : Option Path
  outputPath : Option Path
  options : Options
  deriving DecidableEq, Repr

/-- How many levels of a configuration's value count. -/
def depth : Nat := 8

variable {m : Type → Type} [Monad m] [Disk m]

/-- A result as an action. -/
def check {α : Type} (result : Except Fault α) : ExceptT Fault m α :=
  match result with
  | .ok value => pure value
  | .error fault => throw fault

/-- An access to the disk. -/
def access {α : Type} (action : ExceptT DiskFault m α) : ExceptT Fault m α :=
  ExceptT.adapt .disk action

/-- A path of a configuration.  Relative ones count from its directory and are located. -/
def resolvePath (base path : Path) : ExceptT Fault m Path :=
  if path.isAbsolute then pure path else access (Disk.locate (base.join path))

/-- The text of a snapshot, and the file it was read from. -/
def readSource (base : Path) : Source → ExceptT Fault m (Text × Option Path)
  | .inline text => pure (text, none)
  | .file path => do
    let path ← resolvePath base path
    if !(← access (Disk.exists? path)) then throw (.snapshotNotFound path)
    pure (← access (Disk.readText path), some path)

/-- The configuration that a value describes, for a file at `path`. -/
def ofValue (path : Path) (value : Value) : ExceptT Fault m Configuration := do
  let pairs ← check (sections value)
  let source ← check (Source.ofValue (Value.under "schema" pairs))
  let (schemaText, sourcePath) ← readSource path.parent source
  if Text.trim schemaText = "" then throw .emptySnapshot
  let outputPath ←
    match ← check (outputText (Value.under "output" pairs)) with
    | none => pure none
    | some text => do pure (some (← resolvePath path.parent (.ofText text)))
  let computed ← check (computedFields (Value.under "computed_fields" pairs))
  let options ← check (generation computed (Value.under "generation" pairs))
  pure ⟨path, schemaText, sourcePath, outputPath, options⟩

/-- **The configuration in a file.** -/
def load (path : Path) : ExceptT Fault m Configuration := do
  if !(← access (Disk.exists? path)) then throw (.notFound path)
  let text ← access (Disk.readText path)
  let value ← check ((Value.ofText depth text).mapError .document)
  ofValue path value

end SchemaScribe.Settings
