import SchemaScribe.CommandLine.Option

/-!
# Help

What the program tells about its commands and their options, in lines of at most 80 characters.
-/

namespace SchemaScribe.CommandLine

/-- The line that says how a command is called. -/
def usageLine (command : Command) : Text := "Usage: " ++ command.call ++ " " ++ command.arguments

/-- The lines of a command's help after the usage line. -/
def helpLines : Command → List Text
  | .program => [
    "",
    "  Generate static type definitions from a content schema snapshot.",
    "",
    "Options:",
    "  --version      Show the version and exit.",
    "  -v, --verbose  Enable debug logging.",
    "  -h, --help     Show this message and exit.",
    "",
    "Commands:",
    "  generate         Generate type definitions from the configured schema...",
    "  generate-config  Generate a placeholder YAML configuration with..."]
  | .generate => [
    "",
    "  Generate type definitions from the configured schema snapshot.",
    "",
    "Options:",
    "  --config PATH                   Path to YAML/JSON configuration file",
    "                                  [required]",
    "  --output PATH                   Path to the type definition file to write",
    "                                  (overrides output.path)",
    "  --intersection-types / --union-types",
    "                                  Combine relation keys and related records",
    "                                  with '&' instead of '|'.",
    "  --legacy-singular / --array-directory",
    "                                  Map collections to single records in the",
    "                                  directory type.",
    "  --required-non-null / --required-nullable",
    "                                  Drop nullability from fields marked",
    "                                  required.",
    "  -h, --help                      Show this message and exit."]
  | .generateConfig => [
    "",
    "  Generate a placeholder YAML configuration with guidance comments.",
    "",
    "Options:",
    "  --output PATH  Path to the YAML configuration template to write  [default:",
    "                 typegen.yaml]",
    "  -h, --help     Show this message and exit."]

/-- Lines joined to a text, each with its end. -/
def joinLines (lines : List Text) : Text := Text.join (lines.map fun line => line ++ "\n")

/-- **The help of a command.** -/
def help (command : Command) : Text := joinLines (usageLine command :: helpLines command)

/-- What the program tells about its version. -/
def versionText : Text := Command.program.call ++ ", version 0.1.0\n"

/-- **What is told about a problem**: how the command is called and how to get help, and then the
problem. -/
def problemText (command : Command) (problem : Problem) : Text :=
  let usage :=
    if problem.showsUsage then
      joinLines [usageLine command, ("Try '" ++ command.call ++ " -h' for help."), ""]
    else ""
  usage ++ "Error: " ++ problem.message ++ "\n"

end SchemaScribe.CommandLine
