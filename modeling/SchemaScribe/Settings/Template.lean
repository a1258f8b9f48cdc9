import SchemaScribe.Disk.Access

/-!
# The configuration template

A configuration to start from, with every setting and a note on each.  It is written to a file of
its own and never over one that is there.
-/

namespace SchemaScribe.Settings

/-- The name of the template's file where none is given. -/
def templateFile : Text := "typegen.yaml"

/-- The lines of the template. -/
def templateLines : List Text := [
  "# Configuration template for schema-typegen.",
  "# Replace every <REQUIRED> placeholder before running generate.",
  "# Remove or fill <OPTIONAL> entries only when your setup needs them.",
  "",
  "schema:",
  "  # Provide either an inline schema snapshot (JSON text) or a snapshot file path.",
  "  # Relative paths are resolved against this file's directory.",
  "  path: \"<REQUIRED>\"",
  "  # inline: \"<OPTIONAL>\"",
  "",
  "output:",
  "  # Destination for the generated type definitions. Omit to print to stdout.",
  "  path: \"types.ts\"",
  "",
  "generation:",
  "  # Combine relation key types with related record types using \"&\" instead of \"|\".",
  "  use_intersection_types: false",
  "  # Map every collection to a single record type in the directory type, not a list.",
  "  legacy_singular_mode: false",
  "  # Drop \"| null\" from fields that are nullable but marked required.",
  "  treat_required_as_non_null: false",
  "  directory_type_name: \"CustomDirectusTypes\"",
  "",
  "# Extra members appended to a collection's record type.",
  "# computed_fields:",
  "#   <collection>:",
  "#     - name: \"<OPTIONAL>\"",
  "#       type: \"string | null\"",
  "#       optional: false"]

/-- **The text of the template.** -/
def template : Text := Text.join (templateLines.map fun line => line ++ "\n")

/-- Why the template is not written. -/
inductive TemplateFault where
  /-- Something lies where the file would be. -/
  | occupied (place : Path)
  | disk (fault : DiskFault)
  deriving DecidableEq, Repr

/-- The wording of a fault. -/
def TemplateFault.message : TemplateFault → Text
  | .occupied place => "Configuration file already exists: " ++ place.text
  | .disk fault => fault.message

/-- **Write the template to a file**, and tell where that is. -/
def writeTemplate {m : Type → Type} [Monad m] [Disk m] (path : Path) :
    ExceptT TemplateFault m Path := do
  if ← ExceptT.adapt TemplateFault.disk (Disk.exists? path) then
    let place ← ExceptT.adapt TemplateFault.disk (Disk.locate path)
    throw (.occupied place)
  ExceptT.adapt .disk do
    Disk.writeText path template
    Disk.locate path

end SchemaScribe.Settings
