import SchemaScribe.Disk.Class

/-!
# Access to a disk

What the program does with a disk, in terms of its actions: look whether something is there, read
and write texts, make missing directories, and tell where a path leads.
-/

namespace SchemaScribe.Disk

variable {m : Type → Type} [Monad m] [Disk m]

/-- An answer of the disk, with a refusal as a fault at a path. -/
def ask {α : Type} (path : Path) (action : Path → m (Except Refusal α)) : ExceptT DiskFault m α :=
  match path.fault? with
  | some fault => throw (.name fault)
  | none => do
    match ← action path with
    | .ok answer => pure answer
    | .error refusal => throw (.refused refusal path)

/-- The refusals that mean that there is nothing at a path. -/
def meansAbsent : Refusal → Bool
  | .missing | .notDirectory => true
  | _ => false

/-- **What lies at a path**, if anything does.  There is nothing at a path that cannot be passed. -/
def find? (path : Path) : ExceptT DiskFault m (Option EntryKind) :=
  if !path.isPassable then pure none
  else do
    match ← (kind path : m _) with
    | .ok found => pure (some found)
    | .error refusal => if meansAbsent refusal then pure none else throw (.refused refusal path)

/-- Something lies at a path. -/
def exists? (path : Path) : ExceptT DiskFault m Bool := do
  pure (← find? path).isSome

/-- **The text of a file**, with all line ends as line feeds. -/
def readText (path : Path) : ExceptT DiskFault m String := do
  let bytes ← ask path read
  match Text.Utf8.fileText bytes with
  | .ok text => pure text
  | .error fault => throw (.notText fault)

/-- Put bytes in a file. -/
def writeBytes (path : Path) (bytes : ByteArray) : ExceptT DiskFault m Unit :=
  ask path fun path => write path bytes

/-- **Write a text to a file**, as UTF-8 and with its line ends as they are.  The file is opened
before the text is encoded: it is left empty where that fails. -/
def writeText (path : Path) (text : Text) : ExceptT DiskFault m Unit :=
  match Text.Utf8.encode text with
  | .ok bytes => writeBytes path bytes
  | .error fault => do
    writeBytes path .empty
    throw (.notEncoded fault)

/-- Make a directory, which may be there already. -/
def makeOne (path : Path) : ExceptT DiskFault m Unit :=
  match path.fault? with
  | some fault => throw (.name fault)
  | none => do
    match ← (makeDirectory path : m _) with
    | .ok _ => pure ()
    | .error refusal =>
      if refusal = .missing then throw (.refused refusal path)
      match ← find? path with
      | some .directory => pure ()
      | _ => throw (.refused refusal path)

/-- Make a directory and those above it.  `fuel` is the number of names of the path. -/
def makeAbove : Nat → Path → ExceptT DiskFault m Unit
  | 0, path => makeOne path
  | fuel + 1, path => do
    try makeOne path
    catch fault =>
      match fault with
      | .refused .missing _ => do
        makeAbove fuel path.parent
        makeOne path
      | fault => throw fault

/-- **Make a directory and all that are missing above it.** -/
def makeDirectories (path : Path) : ExceptT DiskFault m Unit := makeAbove path.names.length path

/-- **Where a path leads**: the path from the root without double dots.  The names are looked up one
after the other. -/
def locate (path : Path) : ExceptT DiskFault m Path :=
  match path.firstFault? with
  | some fault => throw (.name fault)
  | none => do
    let working ← (workingNames : m _)
    pure (path.normalize working)

end SchemaScribe.Disk
