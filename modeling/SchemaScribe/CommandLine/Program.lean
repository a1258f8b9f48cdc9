import SchemaScribe.CommandLine.Help
import SchemaScribe.Run
import SchemaScribe.Settings.Template

/-!
# The program

What the program does when it is called with arguments (`call`): it reads the options, runs the
command, and tells what came of it on two streams and by an exit code.  Faults that are not foreseen
end the call without a code.  The stream of what went well takes characters only; on the one for
errors halves of surrogate pairs stand as escapes.
-/

namespace SchemaScribe.CommandLine

/-! ### Replies -/

/-- Why a call ends without an exit code. -/
inductive Abort where
  | run (fault : RunFault)
  | template (fault : Settings.TemplateFault)
  /-- A path given as an argument cannot be passed to the disk. -/
  | argument (fault : NameFault)
  /-- What went well cannot be told. -/
  | output (fault : Text.Utf8.EncodeFault)
  deriving DecidableEq, Repr

/-- The wording of an abort. -/
def Abort.message : Abort → Text
  | .run fault => fault.message
  | .template fault => fault.message
  | .argument fault => fault.message
  | .output fault => fault.message

/-- **What comes of a call**: what was told on either stream, and the exit code, if the call did not
end without one. -/
structure Reply where
  output : Text := ""
  errors : Text := ""
  ending : Except Abort Nat := .ok 0

/-! ### Escape sequences -/

/-- The characters between the start of an escape sequence and the letter that ends it. -/
def isSequencePart (c : CodePoint) : Bool := c == ';' || c == '?' || c.isDigit

/-- The text after an escape sequence, of which the text follows its first character. -/
def afterSequence? : List CodePoint → Option (List CodePoint)
  | '[' :: rest =>
    match rest.dropWhile isSequencePart with
    | c :: after => if c.isAlpha then some after else none
    | [] => none
  | _ => none

/-- A text without the escape sequences that set colours.  `fuel` bounds its length. -/
def dropSequences : Nat → List CodePoint → List CodePoint
  | 0, cs => cs
  | _ + 1, [] => []
  | fuel + 1, c :: rest =>
    match if c = '\x1b' then afterSequence? rest else none with
    | some after => dropSequences fuel after
    | none => c :: dropSequences fuel rest

/-- What is shown of a text that is told. -/
def shown (text : Text) : Text :=
  Text.ofList (dropSequences text.length text.toList)

/-- What is shown of a text that is told as an error. -/
def shownError (text : Text) : Text := Text.Utf8.escapeHalves (shown text)

/-! ### Commands -/

/-- A problem with the arguments ends a call with code 2. -/
def problemReply (command : Command) (problem : Problem) : Reply :=
  { errors := shownError (problemText command problem), ending := .ok 2 }

/-- **The reply when all went well**: a text is told, if it has bytes. -/
def outputReply (errors text : Text) : Reply :=
  match Text.Utf8.encode (shown text) with
  | .ok _ => { output := shown text, errors := errors }
  | .error fault => { errors := errors, ending := .error (.output fault) }

/-- The reply of the first option that is answered before all others, if one is given. -/
def earlyReply? (command : Command) (given : List Given) : Option Reply :=
  given.findSome? fun option =>
    match option.meaning with
    | .help => some { output := shown (help command) }
    | .version => some { output := versionText }
    | _ => none

/-- The value of an option, the last one that was given. -/
def lastValue? (meaning : Meaning) (given : List Given) : Option Text :=
  (given.reverse.find? (·.meaning == meaning)).map (·.value)

/-- The position of a switch, the last one that was given. -/
def lastSwitch? (which : Switch) (given : List Given) : Option Bool :=
  given.reverse.findSome? fun option =>
    match option.meaning with
    | .switch other value => if other = which then some value else none
    | _ => none

/-- Why a path among the values that count cannot be passed to the disk, if one cannot.  They are
looked at in the order in which their options were given first. -/
def argumentFault? (given : List Given) : Option NameFault :=
  given.findSome? fun option =>
    if option.meaning.takesValue then
      (lastValue? option.meaning given).bind fun value => nameFault? value.toList
    else none

/-- The request that the options of a run make. -/
def requestOf (configPath : Text) (given : List Given) : Request where
  configPath := configPath
  outputPath := lastValue? .output given
  useIntersectionTypes := lastSwitch? .intersectionTypes given
  legacySingularMode := lastSwitch? .legacySingular given
  treatRequiredAsNonNull := lastSwitch? .requiredNonNull given

/-- What is told of the progress of a run. -/
def noticeText (notices : List Notice) : Text :=
  Text.Utf8.escapeHalves (joinLines (notices.map Notice.line))

/-- What is told of a run. -/
def runReply (notices : List Notice) : Except RunFault Outcome → Reply
  | .ok outcome =>
    outputReply (noticeText notices) <|
      match outcome.outputPath with
      | none => outcome.text
      | some path => path.text ++ "\n"
  | .error fault =>
    if fault.isForeseen then
      { errors := noticeText notices ++ shownError (fault.message ++ "\n"), ending := .ok 1 }
    else { errors := noticeText notices, ending := .error (.run fault) }

/-- What is told of the template. -/
def templateReply : Except Settings.TemplateFault Path → Reply
  | .ok path => outputReply "" (path.text ++ "\n")
  | .error fault =>
    let foreseen :=
      match fault with
      | .occupied _ => true
      | .disk fault => fault.isForeseen
    if foreseen then { errors := shownError (fault.message ++ "\n"), ending := .ok 1 }
    else { ending := .error (.template fault) }

variable {m : Type → Type} [Monad m] [Disk m]

/-- A command with the options and arguments that it was given. -/
def perform (verbose : Bool) (command : Command) (given : List Given) (others : List Text) :
    m Reply :=
  match argumentFault? given with
  | some fault => pure { ending := .error (.argument fault) }
  | none =>
    match command, lastValue? .config given with
    | .generate, none => pure (problemReply .generate (.missingOption "--config"))
    | .generate, some config =>
      if !others.isEmpty then pure (problemReply .generate (.extraArguments others))
      else do
        let (notices, result) ← run (requestOf config given)
        pure (runReply (if verbose then notices else []) result)
    | command, _ =>
      if !others.isEmpty then pure (problemReply command (.extraArguments others))
      else do
        let path := (lastValue? .output given).getD Settings.templateFile
        pure (templateReply (← (Settings.writeTemplate (.ofText path)).run))

/-- A command with its arguments. -/
def callCommand (verbose : Bool) (command : Command) (arguments : List Text) : m Reply :=
  match readArguments command arguments with
  | .error problem => pure (problemReply command problem)
  | .ok (given, others) =>
    match earlyReply? command given with
    | some reply => pure reply
    | none => perform verbose command given others

/-- The reply when no command has the name at the head of `arguments`.  A name that looks like an
option is read as one first. -/
def unknownCommandReply (name : Text) (arguments : List Text) : Reply :=
  match readArguments .program arguments with
  | .error problem => problemReply .program problem
  | .ok (given, _) =>
    (earlyReply? .program given).getD (problemReply .program (.unknownCommand name))

/-- **A call of the program.**  Without any arguments it tells its help. -/
def call (arguments : List Text) : m Reply :=
  if arguments.isEmpty then pure { errors := shownError (help .program), ending := .ok 2 }
  else
    match readArguments .program arguments with
    | .error problem => pure (problemReply .program problem)
    | .ok (given, others) =>
      match earlyReply? .program given with
      | some reply => pure reply
      | none =>
        match others with
        | [] => pure (problemReply .program .missingCommand)
        | name :: rest =>
          match Command.ofName? name with
          | some command => callCommand (given.any (·.meaning == .verbose)) command rest
          | none => pure (unknownCommandReply name others)

end SchemaScribe.CommandLine
