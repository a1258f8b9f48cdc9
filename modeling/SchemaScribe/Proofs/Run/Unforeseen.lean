import SchemaScribe.Proofs.CommandLine.Agreement
import SchemaScribe.Proofs.Settings.Unforeseen
import SchemaScribe.Proofs.Typing.Failure

/-!
# Runs that fail with what is not foreseen

A run fails with a fault that is not foreseen where loading its configuration does, where its
snapshot holds an integer of too many digits, where the path of its output cannot be passed to the
disk, and where its text has no bytes (`FailsUnforeseen`).  In all other cases it ends well or with
a fault of its own.  A call for it ends with an exit code then, unless what it has to tell of a run
that ended well has no bytes (`run_fails_unforeseen_iff`).

Snapshots and configurations are read here however deep they are nested: that a reader gives up on a
text with thousands of brackets is left out.
-/

namespace SchemaScribe

open Disk (answer after)

variable {request : Request} {volume : Volume} {path : Path} {α β : Type}

/-! ### Writing -/

/-- **The output cannot be written, although the disk does not refuse.** -/
inductive LosesTarget (volume : Volume) (path : Path) (text : Text) : Prop
  /-- The path of the directory cannot be passed to the disk. -/
  | above (h : path.parent.isPassable = false)
  /-- Only the last name of the path cannot, and the directories can be made. -/
  | name (h : path.isPassable = false)
    (hmade : Succeeds
      (answer (Disk.makeDirectories path.parent : ExceptT DiskFault (StateM Volume) _) volume))
  /-- The file can be opened, but its text has no bytes. -/
  | text {cause : Text.Utf8.EncodeFault} {next : Volume} (hpath : path.isPassable = true)
    (hmade : Succeeds
      (answer (Disk.makeDirectories path.parent : ExceptT DiskFault (StateM Volume) _) volume))
    (hcause : Text.Utf8.encode text = .error cause)
    (hopen : Volume.write
      (after (Disk.makeDirectories path.parent : ExceptT DiskFault (StateM Volume) _) volume)
      path .empty = .ok next)

/-- Writing a text fails with more than a refusal where the path cannot be passed, or the text has
no bytes. -/
theorem writeText_unforeseen_iff (path : Path) (text : Text) (volume : Volume) :
    (∃ fault, answer (Disk.writeText path text : ExceptT DiskFault (StateM Volume) _) volume =
        .error fault ∧ fault.isForeseen = false) ↔
      path.isPassable = false ∨ path.isPassable = true ∧
        (∃ cause, Text.Utf8.encode text = .error cause) ∧
          ∃ next, volume.write path .empty = .ok next := by
  have hwrites := Disk.writesText path text volume
  generalize after (Disk.writeText path text : ExceptT DiskFault (StateM Volume) _) volume = left,
    answer (Disk.writeText path text : ExceptT DiskFault (StateM Volume) _) volume = result
    at hwrites ⊢
  cases hwrites with
  | unpassed hfault =>
    refine iff_of_true ⟨_, rfl, rfl⟩ (Or.inl (Bool.eq_false_iff.2 fun hpath => ?_))
    cases (Path.fault?_eq_none_iff.2 hpath).symm.trans hfault
  | refused hpath hwrite =>
    refine iff_of_false ?_ ?_
    · rintro ⟨_, ⟨⟩, ⟨⟩⟩
    · rintro (h | ⟨-, ⟨cause, hcause⟩, next, hopen⟩)
      · cases hpath.symm.trans h
      · -- the same file is opened in both cases
        rw [Disk.bytesOf, hcause] at hwrite
        cases hwrite.symm.trans hopen
  | emptied hpath hcause hwrite =>
    exact iff_of_true ⟨_, rfl, rfl⟩ (Or.inr ⟨hpath, ⟨_, hcause⟩, _, hwrite⟩)
  | written hpath hbytes _ =>
    refine iff_of_false ?_ ?_
    · rintro ⟨_, ⟨⟩, -⟩
    · rintro (h | ⟨-, ⟨cause, hcause⟩, -⟩)
      · cases hpath.symm.trans h
      · cases hbytes.symm.trans hcause

theorem writeDefinitions_unforeseen_iff (text : Text) :
    (∃ fault, answer (writeDefinitions text path) volume = .error fault ∧
      fault.isForeseen = false) ↔ LosesTarget volume path text := by
  rw [writeDefinitions, Disk.answer_bind]
  cases hmade : answer (Disk.makeDirectories path.parent :
      ExceptT DiskFault (StateM Volume) _) volume with
  | error fault =>
    -- the directories can only fail for their path or with a refusal
    have hbars := Disk.failsWith_makeAbove _ _ _ _ hmade
    constructor
    · rintro ⟨_, ⟨⟩, hunforeseen⟩
      cases hbars with
      | name h => exact .above h
      | refused _ _ => cases hunforeseen
    · rintro (h | ⟨-, h⟩ | ⟨-, h, -⟩)
      · obtain ⟨cause, hcause⟩ := Path.exists_fault?_of_not_isPassable h
        cases hmade.symm.trans (Disk.answer_makeDirectories_of_fault hcause)
        exact ⟨_, rfl, rfl⟩
      · rw [hmade] at h
        cases not_succeeds_error h
      · rw [hmade] at h
        cases not_succeeds_error h
  | ok _ =>
    have hparent : path.parent.isPassable ≠ false := by
      intro h
      obtain ⟨cause, hcause⟩ := Path.exists_fault?_of_not_isPassable h
      cases hmade.symm.trans (Disk.answer_makeDirectories_of_fault hcause)
    have hsucceeds : Succeeds (answer (Disk.makeDirectories path.parent :
        ExceptT DiskFault (StateM Volume) _) volume) := ⟨_, hmade⟩
    rw [ok_bind, Disk.answer_bind]
    have hwriting := writeText_unforeseen_iff path text
      (after (Disk.makeDirectories path.parent : ExceptT DiskFault (StateM Volume) _) volume)
    have hloses : LosesTarget volume path text ↔ path.isPassable = false ∨ path.isPassable = true ∧
        (∃ cause, Text.Utf8.encode text = .error cause) ∧ ∃ next, Volume.write
          (after (Disk.makeDirectories path.parent : ExceptT DiskFault (StateM Volume) _) volume)
          path .empty = .ok next := by
      constructor
      · rintro (h | ⟨h, -⟩ | ⟨hpath, -, hcause, hopen⟩)
        · exact absurd h hparent
        · exact Or.inl h
        · exact Or.inr ⟨hpath, ⟨_, hcause⟩, _, hopen⟩
      · rintro (h | ⟨hpath, ⟨cause, hcause⟩, next, hopen⟩)
        · exact .name h hsucceeds
        · exact .text hpath hsucceeds hcause hopen
    rw [hloses, ← hwriting]
    cases hresult : answer (Disk.writeText path text : ExceptT DiskFault (StateM Volume) _)
        (after (Disk.makeDirectories path.parent) volume) with
    | error fault => simp [error_bind]
    | ok _ =>
      -- a path that was written to is located
      have hpath : path.isPassable = true := by
        by_contra h
        rw [Bool.not_eq_true] at h
        obtain ⟨fault, hfault, -⟩ := hwriting.2 (Or.inl h)
        cases hresult.symm.trans hfault
      rw [ok_bind, Disk.answer_locate hpath]
      exact iff_of_false (by rintro ⟨_, ⟨⟩, -⟩) (by rintro ⟨_, ⟨⟩, -⟩)

/-! ### Snapshots and generation -/

/-- A snapshot fails with what is not foreseen where an integer has too many digits to be read. -/
theorem load_unforeseen_iff {text : Text} :
    (∃ fault, Snapshot.load text = .error fault ∧ (RunFault.snapshot fault).isForeseen = false) ↔
      ∃ digits, Json.read text = .error (.tooLong digits) := by
  rw [Snapshot.load_eq]
  cases hread : Json.read text with
  | error e =>
    have hbind : (Except.error e : Except Json.ReadError Json).mapError
        Snapshot.LoadFault.ofReadError >>= Snapshot.decode =
        .error (Snapshot.LoadFault.ofReadError e) := rfl
    rw [hbind]
    cases e <;> simp [Snapshot.LoadFault.ofReadError, RunFault.isForeseen]
  | ok value =>
    refine iff_of_false ?_ ?_
    · rintro ⟨fault, hfault, hunforeseen⟩
      obtain ⟨cause, rfl⟩ := Snapshot.snapshot_of_decode_eq_error hfault
      cases hunforeseen
    · rintro ⟨digits, h⟩
      cases h

theorem isForeseen_of_generate {text : Text} {schema : Schema} {options : Options}
    {fault : Typing.Fault} (hload : Snapshot.load text = .ok schema)
    (h : Typing.generate schema options = .error fault) :
    (RunFault.typing fault).isForeseen = true := by
  have hfirst := Typing.failsFirst_generate (Snapshot.isSound_of_load hload) options
  have hmem := List.mem_of_mem_head? ((hfirst fault).1 h)
  obtain ⟨problem, -, rfl⟩ := List.mem_map.1 hmem
  rfl

/-! ### Runs -/

/-- **The ways in which a run fails that are not foreseen**, apart from texts that are nested too
deep for the readers. -/
inductive FailsUnforeseen (request : Request) (volume : Volume) : Prop
  /-- The configuration fails to be loaded in such a way. -/
  | loading (h : Settings.LoadsUnforeseen volume (.ofText request.configPath))
  /-- The snapshot holds an integer of too many digits. -/
  | integer {configuration : Settings.Configuration} {digits : Nat}
    (hload : answer (Settings.load (.ofText request.configPath)) volume = .ok configuration)
    (h : Json.read configuration.schemaText = .error (.tooLong digits))
  /-- The output cannot be written. -/
  | target {configuration : Settings.Configuration} {schema : Schema} {text : Text} {path : Path}
    (hload : answer (Settings.load (.ofText request.configPath)) volume = .ok configuration)
    (hschema : Snapshot.load configuration.schemaText = .ok schema)
    (htext : Typing.generate schema (request.apply configuration.options) = .ok text)
    (htarget : request.GoesTo configuration.outputPath path) (h : LosesTarget volume path text)

theorem failsUnforeseen_of_prepare {fault : RunFault}
    (h : answer (prepare request) volume = .error fault) (hfault : fault.isForeseen = false) :
    FailsUnforeseen request volume := by
  rw [answer_prepare] at h
  rcases bind_eq_error_iff.1 h with h | ⟨configuration, hload, h⟩
  · obtain ⟨fault, hload, rfl⟩ := mapError_eq_error_iff.1 h
    exact .loading (Settings.escapes_load_iff.1 ⟨fault, hload, hfault⟩)
  · rcases bind_eq_error_iff.1 h with h | ⟨schema, -, h⟩
    · obtain ⟨fault, hread, rfl⟩ := mapError_eq_error_iff.1 h
      obtain ⟨digits, hdigits⟩ := load_unforeseen_iff.1 ⟨fault, hread, hfault⟩
      exact .integer (mapError_eq_ok_iff.1 hload) hdigits
    · cases h

/-- **A run fails in these ways, and in no others that are not foreseen.** -/
theorem exists_unforeseen_iff :
    (∃ fault, resultOf request volume = .error fault ∧ fault.isForeseen = false) ↔
      FailsUnforeseen request volume := by
  constructor
  · rintro ⟨fault, hresult, hfault⟩
    have hcourse := course request volume
    rw [hresult] at hcourse
    generalize noticesOf request volume = notices, leftBy request volume = left at hcourse
    cases hcourse with
    | unprepared h => exact failsUnforeseen_of_prepare h hfault
    | ungenerated h hgenerate =>
      -- a schema that was loaded is typed, or fails with a fault of its own
      rw [isForeseen_of_generate (prepare_eq_ok_iff.1 h).2 hgenerate] at hfault
      cases hfault
    | unwritten h htext htarget hwriting =>
      obtain ⟨hload, hschema⟩ := prepare_eq_ok_iff.1 h
      exact .target hload hschema htext (goesTo_of_target htarget)
        ((writeDefinitions_unforeseen_iff _).1 ⟨_, hwriting, hfault⟩)
  · rintro (h | ⟨hload, h⟩ | ⟨hload, hschema, htext, htarget, h⟩)
    · -- each way stops the run at its own stage
      obtain ⟨fault, hload, hfault⟩ := Settings.escapes_load_iff.2 h
      refine ⟨_, resultOf_of_prepare_eq_error ?_, hfault⟩
      rw [answer_prepare, hload]
      rfl
    · obtain ⟨fault, hread, hfault⟩ := load_unforeseen_iff.2 ⟨_, h⟩
      refine ⟨_, resultOf_of_prepare_eq_error ?_, hfault⟩
      rw [answer_prepare, hload]
      refine bind_eq_error_iff.2 (Or.inr ⟨_, rfl, ?_⟩)
      exact bind_eq_error_iff.2 (Or.inl (mapError_eq_error_iff.2 ⟨fault, hread, rfl⟩))
    · obtain ⟨fault, hwriting, hfault⟩ := (writeDefinitions_unforeseen_iff _).2 h
      exact ⟨_, resultOf_of_writing_error (prepare_eq_ok_iff.2 ⟨hload, hschema⟩) htext
        (target_of_goesTo htarget) hwriting, hfault⟩

/-- **Runs and calls fail in these ways alone with what is not foreseen.**  A run has such a fault
exactly where one of the ways is open, and a call for it ends without an exit code exactly then or
if what is told of the run, which ended well, has no bytes.  A call that ends with a code has told
what came of the run: the code is 0 if the run ended well, and 1 with the message on the other
stream if it failed. -/
theorem run_fails_unforeseen_iff (volume : Volume) (request : Request) :
    ((∃ fault, resultOf request volume = .error fault ∧ fault.isForeseen = false) ↔
      FailsUnforeseen request volume) ∧
    ∀ line arguments given, CommandLine.Calls line arguments → CommandLine.Writes given line →
      (∃ option ∈ given, option.meaning = .config) →
      CommandLine.IsPassable (CommandLine.requestFor given) →
      CommandLine.requestFor given = request →
      ((∃ abort, (CommandLine.replyTo arguments volume).ending = .error abort) ↔
        FailsUnforeseen request volume ∨ ∃ outcome cause, resultOf request volume = .ok outcome ∧
          Text.Utf8.encode (CommandLine.shown (CommandLine.told outcome)) = .error cause) ∧
      ∀ code, (CommandLine.replyTo arguments volume).ending = .ok code →
        (∃ outcome, resultOf request volume = .ok outcome ∧ code = 0) ∨
        ∃ fault, resultOf request volume = .error fault ∧ fault.isForeseen = true ∧ code = 1 ∧
          (CommandLine.replyTo arguments volume).errors =
            CommandLine.shownError (fault.message ++ "\n") := by
  refine ⟨exists_unforeseen_iff, ?_⟩
  rintro line arguments given hcall hline hconfig hpassable rfl
  rw [CommandLine.replyTo_eq volume hcall hline hconfig hpassable, ← exists_unforeseen_iff]
  cases resultOf (CommandLine.requestFor given) volume with
  | ok outcome =>
    -- the run ended well: all depends on whether its text can be told
    rw [CommandLine.runReply_ok, CommandLine.outputReply]
    cases hencode : Text.Utf8.encode (CommandLine.shown (CommandLine.told outcome)) with
    | ok bytes =>
      constructor
      · refine iff_of_false ?_ ?_
        · rintro ⟨abort, ⟨⟩⟩
        · rintro (⟨fault, ⟨⟩, -⟩ | ⟨other, cause, hother, hcause⟩)
          obtain rfl := Except.ok.inj hother
          cases hencode.symm.trans hcause
      · intro code hcode
        exact Or.inl ⟨outcome, rfl, (Except.ok.inj hcode).symm⟩
    | error cause =>
      constructor
      · exact iff_of_true ⟨_, rfl⟩ (Or.inr ⟨outcome, cause, rfl, hencode⟩)
      · intro code hcode
        cases hcode
  | error fault =>
    -- the run failed: its message is told just if its fault is foreseen
    rw [CommandLine.runReply]
    cases hforeseen : fault.isForeseen with
    | true =>
      constructor
      · refine iff_of_false ?_ ?_
        · rintro ⟨abort, ⟨⟩⟩
        · rintro (⟨other, hother, h⟩ | ⟨outcome, cause, ⟨⟩, -⟩)
          obtain rfl := Except.error.inj hother
          cases hforeseen.symm.trans h
      · intro code hcode
        exact Or.inr ⟨fault, rfl, hforeseen, (Except.ok.inj hcode).symm, Text.empty_append _⟩
    | false =>
      constructor
      · exact iff_of_true ⟨_, rfl⟩ (Or.inl ⟨fault, rfl, hforeseen⟩)
      · intro code hcode
        cases hcode

/-- The run that puts its definitions in a directory of their own has no such fault, and the call
for it ends with a code. -/
theorem not_failsUnforeseen_noteVolume :
    ¬ FailsUnforeseen ⟨"c.yaml", none, none, none, none⟩ noteVolume ∧
      ¬ ∃ abort, (CommandLine.replyTo ["generate", "--config", "c.yaml"] noteVolume).ending =
        .error abort := by
  obtain ⟨hrun, hcalls⟩ :=
    run_fails_unforeseen_iff noteVolume ⟨"c.yaml", none, none, none, none⟩
  have hforeseen : ¬ FailsUnforeseen ⟨"c.yaml", none, none, none, none⟩ noteVolume := by
    intro h
    obtain ⟨fault, hfault, -⟩ := hrun.2 h
    cases resultOf_noteVolume.symm.trans hfault
  refine ⟨hforeseen, fun hending => ?_⟩
  have hcall := hcalls ["--config", "c.yaml"] _ [⟨.config, "c.yaml"⟩] .named
    (.cons (.config "c.yaml") .nil) ⟨_, List.mem_cons_self, rfl⟩ ⟨by decide, by rintro _ ⟨⟩⟩ rfl
  rcases hcall.1.1 hending with h | ⟨outcome, cause, houtcome, hcause⟩
  · exact hforeseen h
  · obtain rfl := Except.ok.inj (resultOf_noteVolume.symm.trans houtcome)
    have hshown : CommandLine.shown (CommandLine.told
        ⟨some ⟨.root, ["w", "made", "a.ts"]⟩, noteDefinitions, 1⟩) = "/w/made/a.ts\n" := by
      decide +kernel
    rw [hshown, Text.Utf8.encode_ofString] at hcause
    cases hcause

/-- A volume with a configuration that is no text. -/
def brokenVolume : Volume where
  working := ["w"]
  entries := [(["w"], .directory), (["w", "c.yaml"], .file ⟨#[0xFF]⟩)]

/-- **A run that fails with what is not foreseen**: its configuration is no text. -/
theorem run_brokenVolume :
    ∃ fault, resultOf ⟨"c.yaml", none, none, none, none⟩ brokenVolume = .error fault ∧
      fault.isForeseen = false :=
  exists_unforeseen_iff.2 (.loading (.bytes ⟨by decide, ⟨#[0xFF]⟩, rfl, by decide +kernel⟩))

end SchemaScribe
