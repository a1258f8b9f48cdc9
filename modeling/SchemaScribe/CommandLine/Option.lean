import SchemaScribe.Text.Similarity
import SchemaScribe.Text.Quoted

/-!
# Options

The commands of the program, the options of each, and how arguments are read (`readArguments`): long
options may be followed by an equals sign and a value, single letters may be joined after one
hyphen, and two hyphens end the options.  Options of the program itself come before the name of a
command, those of a command may stand among its arguments.
-/

namespace SchemaScribe.CommandLine

/-! ### Commands -/

/-- **A command**, or the program itself. -/
inductive Command where
  | program
  | generate
  | generateConfig
  deriving DecidableEq, Repr

/-- The words that call a command. -/
def Command.call : Command → Text
  | .program => "schema-typegen"
  | .generate => "schema-typegen generate"
  | .generateConfig => "schema-typegen generate-config"

/-- The arguments that a command takes, as they are announced. -/
def Command.arguments : Command → Text
  | .program => "[OPTIONS] COMMAND [ARGS]..."
  | .generate => "[OPTIONS]"
  | .generateConfig => "[OPTIONS]"

/-- The command of a given name. -/
def Command.ofName? (name : Text) : Option Command :=
  if name = "generate" then some .generate
  else if name = "generate-config" then some .generateConfig
  else none

/-! ### Options -/

/-- What can be switched on and off for a run. -/
inductive Switch where
  | intersectionTypes
  | legacySingular
  | requiredNonNull
  deriving DecidableEq, Repr

/-- **What an option means.** -/
inductive Meaning where
  | help
  | version
  | verbose
  | config
  | output
  | switch (which : Switch) (value : Bool)
  deriving DecidableEq, Repr

/-- The option is followed by a value. -/
def Meaning.takesValue : Meaning → Bool
  | .config | .output => true
  | _ => false

/-- The long options of a command. -/
def Command.longOptions : Command → List (Text × Meaning)
  | .program => [("--version", .version), ("--verbose", .verbose), ("--help", .help)]
  | .generate => [
    ("--config", .config), ("--output", .output),
    ("--intersection-types", .switch .intersectionTypes true),
    ("--union-types", .switch .intersectionTypes false),
    ("--legacy-singular", .switch .legacySingular true),
    ("--array-directory", .switch .legacySingular false),
    ("--required-non-null", .switch .requiredNonNull true),
    ("--required-nullable", .switch .requiredNonNull false),
    ("--help", .help)]
  | .generateConfig => [("--output", .output), ("--help", .help)]

/-- The options of one letter of a command. -/
def Command.shortOptions : Command → List (CodePoint × Meaning)
  | .program => [('v', .verbose), ('h', .help)]
  | _ => [('h', .help)]

/-- An option as it was given, with its value if it takes one. -/
structure Given where
  meaning : Meaning
  value : Text := ""
  deriving DecidableEq, Repr

/-! ### Problems -/

/-- **Why arguments do not make a call.** -/
inductive Problem where
  | unknownOption (word : Text) (suggestions : List Text)
  | needsValue (word : Text)
  | takesNoValue (word : Text)
  | missingOption (word : Text)
  | extraArguments (arguments : List Text)
  | unknownCommand (name : Text)
  | missingCommand
  deriving DecidableEq, Repr

/-- The wording of suggestions. -/
def suggestionText : List Text → Text
  | [] => ""
  | [word] => " Did you mean " ++ word ++ "?"
  | words => " (Possible options: " ++ Text.intercalate ", " words ++ ")"

/-- The wording of a problem. -/
def Problem.message : Problem → Text
  | .unknownOption word suggestions => "No such option: " ++ word ++ suggestionText suggestions
  | .needsValue word => "Option " ++ Text.quoted word ++ " requires an argument."
  | .takesNoValue word => "Option " ++ Text.quoted word ++ " does not take a value."
  | .missingOption word => "Missing option '" ++ word ++ "'."
  | .extraArguments [argument] => "Got unexpected extra argument (" ++ argument ++ ")"
  | .extraArguments arguments =>
    "Got unexpected extra arguments (" ++ Text.intercalate " " arguments ++ ")"
  | .unknownCommand name => "No such command " ++ Text.quoted name ++ "."
  | .missingCommand => "Missing command."

/-- A problem with the value of an option is told without the usage of the command. -/
def Problem.showsUsage : Problem → Bool
  | .needsValue _ | .takesNoValue _ => false
  | _ => true

/-! ### Reading -/

/-- A long option at its equals sign: the word before it and the value after it, if there is one. -/
def splitValue (argument : Text) : Text × Option Text :=
  let cs := argument.toList
  let word := Text.ofList (cs.takeWhile (· != .char '='))
  match cs.dropWhile (· != .char '=') with
  | [] => (word, none)
  | _ :: value => (word, some (Text.ofList value))

/-- The fault of an option that a command does not have, with the words that may have been meant. -/
def unknownLong (command : Command) (word : Text) : Problem :=
  let close := Text.closeWords word (command.longOptions.map Prod.fst)
  .unknownOption word (close.mergeSort (· ≤ ·))

/-- The options of one letter that are joined in an argument. -/
def readLetters (command : Command) : List CodePoint → Except Problem (List Given)
  | [] => .ok []
  | c :: rest =>
    match command.shortOptions.find? (·.1 == c) with
    | none => .error (.unknownOption (.ofList ['-', c]) [])
    | some (_, meaning) => do
      let more ← readLetters command rest
      pure (⟨meaning, ""⟩ :: more)

/-- An argument that begins with a hyphen and has more to it is an option. -/
def isOption (argument : Text) : Bool :=
  match argument.toList with
  | '-' :: _ :: _ => true
  | _ => false

/-- An argument that begins with two hyphens. -/
def isLong (argument : Text) : Bool := [.char '-', .char '-'].isPrefixOf argument.toList

/-- **The options among arguments, and the other arguments.**  The program's own options end where
the first other argument comes. -/
def readArguments (command : Command) :
    List Text → Except Problem (List Given × List Text)
  | [] => .ok ([], [])
  | argument :: rest =>
    if argument = "--" then .ok ([], rest)
    else if !isOption argument then
      if command = .program then .ok ([], argument :: rest)
      else do
        let (given, others) ← readArguments command rest
        pure (given, argument :: others)
    else
      let (word, value?) := splitValue argument
      match command.longOptions.find? (·.1 == word), value?, rest with
      | some (_, meaning), some value, rest =>
        if meaning.takesValue then do
          let (given, others) ← readArguments command rest
          pure (⟨meaning, value⟩ :: given, others)
        else .error (.takesNoValue word)
      | some (_, meaning), none, rest =>
        if meaning.takesValue then
          match rest with
          | [] => .error (.needsValue word)
          | value :: rest => do
            let (given, others) ← readArguments command rest
            pure (⟨meaning, value⟩ :: given, others)
        else do
          let (given, others) ← readArguments command rest
          pure (⟨meaning, ""⟩ :: given, others)
      | none, _, rest =>
        if isLong argument then .error (unknownLong command word)
        else do
          let letters ← readLetters command (argument.toList.drop 1)
          let (given, others) ← readArguments command rest
          pure (letters ++ given, others)

end SchemaScribe.CommandLine
