import SchemaScribe.CommandLine.Program

/-!
# The executable

The disk of the machine, and the entry point of the program.
-/

namespace SchemaScribe

/-- The number of the system's error behind a failure, if there is one. -/
def systemCode : IO.Error → Nat
  | .alreadyExists _ code _ | .otherError code _ | .resourceBusy code _
  | .resourceVanished code _ | .unsupportedOperation code _ | .hardwareFault code _
  | .unsatisfiedConstraints code _ | .illegalOperation code _ | .protocolError code _
  | .timeExpired code _ | .interrupted _ code _ | .noFileOrDirectory _ code _
  | .invalidArgument _ code _ | .permissionDenied _ code _ | .resourceExhausted _ code _
  | .inappropriateType _ code _ | .noSuchThing _ code _ => code.toNat
  | .unexpectedEof | .userError _ => 0

/-- The refusal behind a failure. -/
def refusalOf (error : IO.Error) : Refusal :=
  let known : List Refusal :=
    [.missing, .occupied, .notDirectory, .isDirectory, .nameTooLong]
  let code := systemCode error
  (known.find? (·.code == code)).getD (.other code (toString error))

/-- An action with its failure as a refusal. -/
def attempt {α : Type} (action : IO α) : IO (Except Refusal α) := do
  try pure (.ok (← action))
  catch error => pure (.error (refusalOf error))

/-- An action at a path with its failure as a refusal.  A path with halves of surrogate pairs cannot
be passed on from here and counts as missing. -/
def attemptAt {α : Type} (path : Path) (action : String → IO α) : IO (Except Refusal α) :=
  match path.text.chars? with
  | some cs => attempt (action (String.ofList cs))
  | none => pure (.error .missing)

/-- What lies at a path, told by an attempt to read from it. -/
def kindOnDisk (path : Path) : IO (Except Refusal EntryKind) := do
  match ← attemptAt path fun name => IO.FS.Handle.mk name .read with
  | .error refusal => pure (.error refusal)
  | .ok handle =>
    match ← attempt (handle.read 1) with
    | .error .isDirectory => pure (.ok .directory)
    | .error refusal => pure (.error refusal)
    | .ok _ => pure (.ok .file)

/-- The disk of the machine. -/
instance : Disk IO where
  workingNames := do pure (Path.ofText (toString (← IO.currentDir))).names
  kind := kindOnDisk
  read path := attemptAt path fun name => IO.FS.readBinFile name
  makeDirectory path := attemptAt path fun name => IO.FS.createDir name
  write path bytes := attemptAt path fun name => IO.FS.writeBinFile name bytes

/-- What is written of a text that holds characters only. -/
def written (text : Text) : String := String.ofList (text.toList.filterMap CodePoint.char?)

end SchemaScribe

/-- The program: it tells what comes of a call and ends with its exit code. -/
def main (arguments : List String) : IO UInt32 := do
  let reply ← SchemaScribe.CommandLine.call (arguments.map SchemaScribe.Text.ofString)
  (← IO.getStdout).putStr (SchemaScribe.written reply.output)
  (← IO.getStderr).putStr (SchemaScribe.written reply.errors)
  match reply.ending with
  | .ok code => pure (UInt32.ofNat code)
  | .error abort => do
    (← IO.getStderr).putStrLn (SchemaScribe.written abort.message)
    pure 1
