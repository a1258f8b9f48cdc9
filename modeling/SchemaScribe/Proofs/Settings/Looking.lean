import SchemaScribe.Proofs.Disk.Growth
import SchemaScribe.Settings.Read

/-!
# How configurations look at the disk

Loading a configuration only looks (`isQuiet_load`).  A file is looked up by asking whether it is
there and then reading it, which comes to the text at its path (`textAt`, `answer_lookUp`).  So what
is loaded is answered by a sequence of outcomes on one volume (`answer_ofValue`, `answer_load_eq`).
-/

namespace SchemaScribe.Settings

open Disk (answer IsQuiet)
open Yaml (Value)

variable {volume : Volume} {α : Type}

/-! ### Single steps -/

theorem isQuiet_check (result : Except Fault α) :
    IsQuiet (check result : ExceptT Fault (StateM Volume) α) := by
  cases result with
  | ok a => exact Disk.isQuiet_pure a
  | error fault => exact Disk.isQuiet_throw fault

theorem answer_check (result : Except Fault α) :
    answer (check result : ExceptT Fault (StateM Volume) α) volume = result := by
  cases result <;> rfl

theorem answer_access (action : ExceptT DiskFault (StateM Volume) α) :
    answer (access action) volume = (answer action volume).mapError .disk := rfl

theorem isQuiet_access {action : ExceptT DiskFault (StateM Volume) α} (h : IsQuiet action) :
    IsQuiet (access action) := h

/-- **The path that a configuration means by a written one**: relative ones count from `base` and
are located. -/
def resolved (volume : Volume) (base path : Path) : Path :=
  if path.isAbsolute then path else (base.join path).normalize volume.working

theorem isQuiet_resolvePath (base path : Path) :
    IsQuiet (resolvePath base path : ExceptT Fault (StateM Volume) Path) := by
  rw [resolvePath]
  split
  · exact Disk.isQuiet_pure _
  · exact isQuiet_access Disk.isQuiet_locate

/-- **What is wrong with a path that has to be located**, if something is: absolute ones are taken
as they are, whatever they hold. -/
def pathFault? (path : Path) : Option NameFault :=
  if path.isAbsolute then none else path.firstFault?

/-- **A path is resolved** unless it has to be located and cannot be passed. -/
theorem answer_resolvePath {base : Path} (hbase : base.isPassable = true) (path : Path) :
    answer (resolvePath base path) volume =
      match pathFault? path with
      | some fault => .error (.disk (.name fault))
      | none => .ok (resolved volume base path) := by
  rw [resolvePath, pathFault?, resolved]
  split_ifs with habsolute
  · rfl
  have hfirst : (base.join path).firstFault? = path.firstFault? :=
    Path.firstFault?_join hbase (Bool.eq_false_iff.2 habsolute)
  rw [answer_access]
  cases hfault : path.firstFault? with
  | some fault =>
    rw [Disk.answer_locate_of_fault (hfirst.trans hfault)]
    rfl
  | none =>
    rw [Disk.answer_locate (Path.firstFault?_eq_none_iff.1 (hfirst.trans hfault))]
    rfl

/-- **A path is lost**: it is relative, so it has to be located, and cannot be passed. -/
def IsLost (path : Path) : Prop := path.isAbsolute = false ∧ path.isPassable = false

theorem pathFault?_eq_none_iff {path : Path} : pathFault? path = none ↔ ¬ IsLost path := by
  rw [pathFault?, IsLost]
  split_ifs with h
  · simp [h]
  · rw [Path.firstFault?_eq_none_iff]
    simp [h]

theorem answer_resolvePath_of_not_isLost {base path : Path} (hbase : base.isPassable = true)
    (h : ¬ IsLost path) :
    answer (resolvePath base path) volume = .ok (resolved volume base path) := by
  rw [answer_resolvePath hbase, pathFault?_eq_none_iff.2 h]

theorem exists_pathFault?_of_isLost {path : Path} (h : IsLost path) :
    ∃ fault, pathFault? path = some fault :=
  Option.ne_none_iff_exists'.1 fun hnone => pathFault?_eq_none_iff.1 hnone h

/-! ### Looking up a file -/

/-- Looking whether a file is there and then reading it. -/
def lookUp (absent : Fault) (path : Path) (next : String → ExceptT Fault (StateM Volume) α) :
    ExceptT Fault (StateM Volume) α := do
  if !(← access (Disk.exists? path)) then throw absent
  let text ← access (Disk.readText path)
  next text

theorem readSource_file (base path : Path) :
    (readSource base (.file path) : ExceptT Fault (StateM Volume) (Text × Option Path)) =
      resolvePath base path >>= fun path =>
        lookUp (.snapshotNotFound path) path fun text =>
          pure (Text.ofString text, some path) := rfl

theorem load_eq (path : Path) :
    (load path : ExceptT Fault (StateM Volume) Configuration) =
      lookUp (.notFound path) path fun text =>
        check ((Value.ofText depth text).mapError .document) >>= ofValue path := rfl

/-- **The text at a path**; `absent` is told where nothing is. -/
def textAt (volume : Volume) (absent : Fault) (path : Path) : Except Fault String :=
  if !path.isPassable then .error absent
  else
    match volume.read path with
    | .ok bytes => (Text.Utf8.fileText bytes).mapError fun fault => .disk (.notText fault)
    | .error refusal =>
      if Disk.meansAbsent refusal then .error absent else .error (.disk (.refused refusal path))

theorem isQuiet_lookUp {absent : Fault} {path : Path}
    {next : String → ExceptT Fault (StateM Volume) α} (hnext : ∀ text, IsQuiet (next text)) :
    IsQuiet (lookUp absent path next) := by
  refine (isQuiet_access Disk.isQuiet_exists?).bind fun found => ?_
  have hread : IsQuiet (access (Disk.readText path) >>= next) :=
    (isQuiet_access Disk.isQuiet_readText).bind hnext
  cases found with
  | true => exact hread
  | false => exact (Disk.isQuiet_throw absent).bind fun _ => hread

/-- **Looking up a file** answers with its text and goes on from there. -/
theorem answer_lookUp (absent : Fault) (path : Path)
    (next : String → ExceptT Fault (StateM Volume) α) :
    answer (lookUp absent path next) volume =
      textAt volume absent path >>= fun text => answer (next text) volume := by
  have hread : answer (access (Disk.readText path) >>= next) volume =
      (answer (Disk.readText path) volume).mapError .disk >>= fun text =>
        answer (next text) volume := (isQuiet_access Disk.isQuiet_readText).answer_bind next volume
  have hstart : answer (lookUp absent path next) volume =
      ((answer (Disk.find? path) volume).map Option.isSome).mapError .disk >>= fun found =>
        if found then answer (access (Disk.readText path) >>= next) volume
        else .error absent := by
    rw [lookUp, (isQuiet_access Disk.isQuiet_exists?).answer_bind, answer_access,
      Disk.answer_exists?]
    refine congrArg _ (funext fun found => ?_)
    cases found <;> rfl
  -- the same three cases on both sides: no such path, no such entry, and what the entry is
  rw [hstart, textAt]
  by_cases hpass : path.isPassable = false
  · rw [Disk.find?, hpass]
    rfl
  rw [Bool.not_eq_false] at hpass
  rw [hpass, Bool.not_true, if_neg Bool.false_ne_true]
  cases hfind : volume.find path with
  | error refusal =>
    rw [Disk.answer_find?_of_error hpass hfind, Volume.read_of_error hfind]
    cases h : Disk.meansAbsent refusal <;> simp [h] <;> rfl
  | ok entry =>
    rw [Disk.answer_find?_of_ok hpass hfind]
    have hfound : answer (access (Disk.readText path) >>= next) volume =
        ((volume.read path).mapError (DiskFault.refused · path) >>= fun bytes =>
          (Text.Utf8.fileText bytes).mapError DiskFault.notText).mapError .disk >>= fun text =>
            answer (next text) volume := by rw [hread, Disk.answer_readText hpass]
    refine hfound.trans ?_
    cases entry with
    | directory => rw [Volume.read_of_directory hfind]; rfl
    | file bytes =>
      rw [Volume.read_of_file hfind]
      refine congrArg (· >>= _) ?_
      cases h : Text.Utf8.fileText bytes <;> simp [h, Except.mapError, bind, Except.bind]

/-! ### Loading -/

theorem isQuiet_readSource (base : Path) (source : Source) :
    IsQuiet (readSource base source : ExceptT Fault (StateM Volume) _) := by
  cases source with
  | inline text => exact Disk.isQuiet_pure _
  | file path =>
    rw [readSource_file]
    exact (isQuiet_resolvePath _ _).bind fun _ => isQuiet_lookUp fun _ => Disk.isQuiet_pure _

/-- The path of the output, if one is given. -/
def outputPlace (base : Path) : Option Text → ExceptT Fault (StateM Volume) (Option Path)
  | none => pure none
  | some text => some <$> resolvePath base (.ofText text)

/-- A snapshot must not be blank. -/
def requireSnapshot (text : Text) : Except Fault Unit :=
  if Text.trim text = "" then .error .emptySnapshot else .ok ()

/-- A configuration is read step after step. -/
theorem ofValue_eq (path : Path) (value : Value) :
    (ofValue path value : ExceptT Fault (StateM Volume) Configuration) = (do
      let pairs ← check (sections value)
      let source ← check (Source.ofValue (Value.under "schema" pairs))
      let found ← readSource path.parent source
      check (requireSnapshot found.1)
      let given ← check (outputText (Value.under "output" pairs))
      let outputPath ← outputPlace path.parent given
      let computed ← check (computedFields (Value.under "computed_fields" pairs))
      let options ← check (generation computed (Value.under "generation" pairs))
      pure ⟨path, found.1, found.2, outputPath, options⟩) := by
  rw [ofValue]
  refine bind_congr fun pairs => bind_congr fun source => bind_congr fun found => ?_
  obtain ⟨text, place⟩ := found
  dsimp only
  rw [requireSnapshot]
  split
  · rfl
  · refine bind_congr fun given => ?_
    cases given with
    | none => rfl
    | some text => simp only [outputPlace, map_eq_pure_bind, bind_assoc, pure_bind]

theorem isQuiet_outputPlace (base : Path) (given : Option Text) :
    IsQuiet (outputPlace base given) := by
  cases given with
  | none => exact Disk.isQuiet_pure _
  | some text =>
    rw [outputPlace, map_eq_pure_bind]
    exact (isQuiet_resolvePath _ _).bind fun _ => Disk.isQuiet_pure _

theorem isQuiet_ofValue (path : Path) (value : Value) :
    IsQuiet (ofValue path value : ExceptT Fault (StateM Volume) Configuration) := by
  rw [ofValue_eq]
  refine (isQuiet_check _).bind fun pairs => (isQuiet_check _).bind fun source => ?_
  refine (isQuiet_readSource _ _).bind fun found => (isQuiet_check _).bind fun _ => ?_
  refine (isQuiet_check _).bind fun given => (isQuiet_outputPlace _ _).bind fun place => ?_
  exact (isQuiet_check _).bind fun computed => (isQuiet_check _).bind fun _ => Disk.isQuiet_pure _

theorem isQuiet_load (path : Path) :
    IsQuiet (load path : ExceptT Fault (StateM Volume) Configuration) := by
  rw [load_eq]
  exact isQuiet_lookUp fun _ => (isQuiet_check _).bind (isQuiet_ofValue path)

/-! ### Answers, step by step -/

/-- What a value describes is answered step by step. -/
theorem answer_ofValue (path : Path) (value : Value) (volume : Volume) :
    answer (ofValue path value) volume = (do
      let pairs ← sections value
      let source ← Source.ofValue (Value.under "schema" pairs)
      let found ← answer (readSource path.parent source) volume
      requireSnapshot found.1
      let given ← outputText (Value.under "output" pairs)
      let outputPath ← answer (outputPlace path.parent given) volume
      let computed ← computedFields (Value.under "computed_fields" pairs)
      let options ← generation computed (Value.under "generation" pairs)
      pure ⟨path, found.1, found.2, outputPath, options⟩) := by
  have hcheck {α β : Type} (x : Except Fault α) (f : α → ExceptT Fault (StateM Volume) β) :
      answer (check x >>= f) volume = x >>= fun a => answer (f a) volume := by
    rw [(isQuiet_check x).answer_bind, answer_check]
  -- no part changes the volume, so all of them are answered on the one that was given
  rw [ofValue_eq, hcheck]
  refine bind_congr fun pairs => ?_
  rw [hcheck]
  refine bind_congr fun source => ?_
  rw [(isQuiet_readSource _ _).answer_bind]
  refine bind_congr fun found => ?_
  rw [hcheck]
  refine bind_congr fun _ => ?_
  rw [hcheck]
  refine bind_congr fun given => ?_
  rw [(isQuiet_outputPlace _ _).answer_bind]
  refine bind_congr fun place => ?_
  rw [hcheck]
  refine bind_congr fun computed => ?_
  rw [hcheck]
  rfl

/-- What is loaded is answered step by step. -/
theorem answer_load_eq (path : Path) (volume : Volume) :
    answer (load path) volume = (do
      let text ← textAt volume (.notFound path) path
      let value ← (Value.ofText depth text).mapError .document
      answer (ofValue path value) volume) := by
  rw [load_eq, answer_lookUp]
  refine bind_congr fun text => ?_
  rw [(isQuiet_check _).answer_bind, answer_check]

end SchemaScribe.Settings
