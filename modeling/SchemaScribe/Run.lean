import SchemaScribe.Settings.Read
import SchemaScribe.Snapshot.Decode
import SchemaScribe.Typing.Declaration

/-!
# Generation runs

A run loads a configuration and its snapshot, generates the type definitions and writes them where
they belong (`run`).  Beside its result it leaves notices of what it did, which are there also when
it fails.
-/

namespace SchemaScribe

/-! ### Requests and outcomes -/

/-- **What a run is asked for.**  Switches that are not given stay as the configuration has them. -/
structure Request where
  configPath : Text
  outputPath : Option Text := none
  useIntersectionTypes : Option Bool := none
  legacySingularMode : Option Bool := none
  treatRequiredAsNonNull : Option Bool := none
  deriving DecidableEq, Repr

/-- **What a run has made**: the type definitions, where they were written if anywhere, and for how
many collections. -/
structure Outcome where
  outputPath : Option Path
  text : Text
  collectionCount : Nat
  deriving DecidableEq, Repr

/-- Options with the switches of a request in place of their own. -/
def Request.apply (request : Request) (options : Options) : Options :=
  { options with
    useIntersectionTypes := request.useIntersectionTypes.getD options.useIntersectionTypes
    legacySingularMode := request.legacySingularMode.getD options.legacySingularMode
    treatRequiredAsNonNull := request.treatRequiredAsNonNull.getD options.treatRequiredAsNonNull }

/-- Where type definitions go: to the path of the request, or else to that of the configuration.  An
empty path counts as none. -/
def Request.target (request : Request) (configured : Option Path) : Option Path :=
  match request.outputPath with
  | some text => if text = "" then configured else some (.ofText text)
  | none => configured

/-! ### Faults -/

/-- **Why a run fails.** -/
inductive RunFault where
  | settings (fault : Settings.Fault)
  | snapshot (fault : Snapshot.LoadFault)
  | typing (fault : Typing.Fault)
  | writing (fault : DiskFault)
  deriving DecidableEq, Repr

/-- The wording of a fault. -/
def RunFault.message : RunFault → Text
  | .settings fault => fault.message
  | .snapshot fault => fault.message
  | .typing fault => "Schema is inconsistent: " ++ fault.message
  | .writing fault => "Failed to write type definitions: " ++ fault.message

/-- The disk refuses, which is foreseen; other faults of an access are not. -/
def DiskFault.isForeseen : DiskFault → Bool
  | .refused .. => true
  | _ => false

/-- The fault is foreseen.  A run reports foreseen faults as its own and passes on all others. -/
def RunFault.isForeseen : RunFault → Bool
  | .settings (.document fault) => fault.isMalformed
  | .settings (.disk fault) => fault.isForeseen
  | .settings .nameTooLong => false
  | .settings _ => true
  | .snapshot (.snapshot _) => true
  | .snapshot _ => false
  | .typing (.inconsistent ..) => true
  | .typing _ => false
  | .writing fault => fault.isForeseen

/-! ### Notices -/

/-- **What a run tells about its progress.** -/
inductive Notice where
  | generating (collections : Nat)
  | emitting (type : Text) (members : Nat)
  | wrote (characters : Nat) (path : Path)
  deriving DecidableEq, Repr

/-- The line of a notice: its level, the part of the program it comes from, and what it tells. -/
def Notice.line : Notice → Text
  | .generating collections =>
    "INFO schema_typegen.generation_run.generation_use_case: " ++
      "Generating type definitions for " ++ toString collections ++ " collections"
  | .emitting type members =>
    "DEBUG schema_typegen.type_generation.declaration_emitter: " ++
      "Emitting " ++ type ++ " with " ++ toString members ++ " members"
  | .wrote characters path =>
    "DEBUG schema_typegen.output_writing.type_definition_writer: " ++
      "Wrote " ++ toString characters ++ " characters to " ++ path.text

/-- The notices of a generation. -/
def generationNotices (schema : Schema) (options : Options) : List Notice :=
  .generating schema.size ::
    (Typing.emitted schema options).map fun entry => .emitting entry.1 entry.2

/-! ### Runs -/

variable {m : Type → Type} [Monad m] [Disk m]

/-- **Write type definitions to a file**, making the directories above it, and tell where that is.
-/
def writeDefinitions (text : Text) (path : Path) : ExceptT DiskFault m Path := do
  Disk.makeDirectories path.parent
  Disk.writeText path text
  Disk.locate path

/-- The configuration of a run and the schema of its snapshot. -/
def prepare (request : Request) : ExceptT RunFault m (Settings.Configuration × Schema) := do
  let configuration ←
    ExceptT.adapt RunFault.settings (Settings.load (.ofText request.configPath))
  match Snapshot.load configuration.schemaText with
  | .ok schema => pure (configuration, schema)
  | .error fault => throw (.snapshot fault)

/-- **A run**: its notices and its result. -/
def run (request : Request) : m (List Notice × Except RunFault Outcome) := do
  match ← (prepare request).run with
  | .error fault => pure ([], .error fault)
  | .ok (configuration, schema) =>
    let options := request.apply configuration.options
    let notices := generationNotices schema options
    match Typing.generate schema options with
    | .error fault => pure (notices, .error (.typing fault))
    | .ok text =>
      match request.target configuration.outputPath with
      | none => pure (notices, .ok ⟨none, text, schema.size⟩)
      | some path =>
        match ← (writeDefinitions text path).run with
        | .error fault => pure (notices, .error (.writing fault))
        | .ok place =>
          pure (notices ++ [.wrote text.length path], .ok ⟨some place, text, schema.size⟩)

end SchemaScribe
