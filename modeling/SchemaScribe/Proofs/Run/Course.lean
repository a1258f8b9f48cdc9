import SchemaScribe.Proofs.Settings.Looking
import SchemaScribe.Run

/-!
# The course of a run

A run answers with a result (`resultOf`), tells of its progress (`noticesOf`), and leaves a volume
behind (`leftBy`).  `Course` says once how these three come about: a run that is not prepared, whose
generation fails, that writes nothing, or that writes, with or without success.
-/

namespace SchemaScribe

open Disk (answer after IsQuiet)

variable {request : Request} {volume : Volume}

/-! ### What comes of a run -/

/-- The result of a run on a volume. -/
def resultOf (request : Request) (volume : Volume) : Except RunFault Outcome :=
  ((run request : StateM Volume _).run volume).1.2

/-- What a run on a volume tells of its progress. -/
def noticesOf (request : Request) (volume : Volume) : List Notice :=
  ((run request : StateM Volume _).run volume).1.1

/-- **The volume that a run leaves behind.** -/
def leftBy (request : Request) (volume : Volume) : Volume :=
  ((run request : StateM Volume _).run volume).2

/-! ### Preparation -/

theorem isQuiet_prepare (request : Request) :
    IsQuiet (prepare request : ExceptT RunFault (StateM Volume) _) := by
  refine ((Settings.isQuiet_load _).adapt _).bind fun configuration => ?_
  cases Snapshot.load configuration.schemaText with
  | ok schema => exact Disk.isQuiet_pure _
  | error fault => exact Disk.isQuiet_throw _

theorem answer_prepare :
    answer (prepare request) volume =
      (answer (Settings.load (.ofText request.configPath)) volume).mapError .settings >>=
        fun configuration =>
          (Snapshot.load configuration.schemaText).mapError .snapshot >>= fun schema =>
            pure (configuration, schema) := by
  rw [prepare, ((Settings.isQuiet_load _).adapt _).answer_bind, Disk.answer_adapt]
  refine congrArg _ (funext fun configuration => ?_)
  cases Snapshot.load configuration.schemaText <;> rfl

theorem prepare_eq_ok_iff {configuration : Settings.Configuration} {schema : Schema} :
    answer (prepare request) volume = .ok (configuration, schema) ↔
      answer (Settings.load (.ofText request.configPath)) volume = .ok configuration ∧
        Snapshot.load configuration.schemaText = .ok schema := by
  rw [answer_prepare, bind_eq_ok_iff]
  constructor
  · rintro ⟨loaded, hload, h⟩
    obtain ⟨read, hread, h⟩ := bind_eq_ok_iff.1 h
    obtain ⟨rfl, rfl⟩ := Prod.mk.inj (pure_eq_ok_iff.1 h)
    exact ⟨mapError_eq_ok_iff.1 hload, mapError_eq_ok_iff.1 hread⟩
  · rintro ⟨hload, hread⟩
    refine ⟨configuration, mapError_eq_ok_iff.2 hload, ?_⟩
    exact bind_eq_ok_iff.2 ⟨schema, mapError_eq_ok_iff.2 hread, rfl⟩

/-- Preparing writes nothing. -/
theorem prepare_ne_writing {fault : DiskFault} :
    answer (prepare request : ExceptT RunFault (StateM Volume) _) volume ≠
      .error (.writing fault) := by
  rw [answer_prepare]
  intro h
  rcases bind_eq_error_iff.1 h with h | ⟨configuration, -, h⟩
  · obtain ⟨_, -, ⟨⟩⟩ := mapError_eq_error_iff.1 h
  · rcases bind_eq_error_iff.1 h with h | ⟨schema, -, h⟩
    · obtain ⟨_, -, ⟨⟩⟩ := mapError_eq_error_iff.1 h
    · cases h

/-! ### Cases -/

/-- The notices of a run that was prepared. -/
def noticesFor (request : Request) (configuration : Settings.Configuration) (schema : Schema) :
    List Notice :=
  generationNotices schema (request.apply configuration.options)

/-- **The course of a run**: what it tells, its result, and what it leaves behind. -/
inductive Course (request : Request) (volume : Volume) :
    List Notice → Except RunFault Outcome → Volume → Prop
  | unprepared {fault : RunFault} (h : answer (prepare request) volume = .error fault) :
    Course request volume [] (.error fault) volume
  | ungenerated {configuration : Settings.Configuration} {schema : Schema} {fault : Typing.Fault}
    (h : answer (prepare request) volume = .ok (configuration, schema))
    (hfault : Typing.generate schema (request.apply configuration.options) = .error fault) :
    Course request volume (noticesFor request configuration schema) (.error (.typing fault)) volume
  | told {configuration : Settings.Configuration} {schema : Schema} {text : Text}
    (h : answer (prepare request) volume = .ok (configuration, schema))
    (htext : Typing.generate schema (request.apply configuration.options) = .ok text)
    (htarget : request.target configuration.outputPath = none) :
    Course request volume (noticesFor request configuration schema)
      (.ok ⟨none, text, schema.size⟩) volume
  | unwritten {configuration : Settings.Configuration} {schema : Schema} {text : Text}
    {path : Path} {fault : DiskFault}
    (h : answer (prepare request) volume = .ok (configuration, schema))
    (htext : Typing.generate schema (request.apply configuration.options) = .ok text)
    (htarget : request.target configuration.outputPath = some path)
    (hfault : answer (writeDefinitions text path) volume = .error fault) :
    Course request volume (noticesFor request configuration schema) (.error (.writing fault))
      (after (writeDefinitions text path : ExceptT DiskFault (StateM Volume) Path) volume)
  | written {configuration : Settings.Configuration} {schema : Schema} {text : Text}
    {path place : Path} (h : answer (prepare request) volume = .ok (configuration, schema))
    (htext : Typing.generate schema (request.apply configuration.options) = .ok text)
    (htarget : request.target configuration.outputPath = some path)
    (hplace : answer (writeDefinitions text path) volume = .ok place) :
    Course request volume
      (noticesFor request configuration schema ++ [.wrote text.length path])
      (.ok ⟨some place, text, schema.size⟩)
      (after (writeDefinitions text path : ExceptT DiskFault (StateM Volume) Path) volume)

/-- **Every run takes one of these courses.** -/
theorem course (request : Request) (volume : Volume) :
    Course request volume (noticesOf request volume) (resultOf request volume)
      (leftBy request volume) := by
  -- what is prepared leaves the volume alone
  have hprepare : (prepare request : ExceptT RunFault (StateM Volume) _).run.run volume =
      (answer (prepare request) volume, volume) := Prod.ext rfl (isQuiet_prepare request volume)
  rw [noticesOf, resultOf, leftBy, run, Disk.run_bind_of_run hprepare]
  cases h : answer (prepare request : ExceptT RunFault (StateM Volume) _) volume with
  | error fault => exact .unprepared h
  | ok prepared =>
    obtain ⟨configuration, schema⟩ := prepared
    cases hgenerate : Typing.generate schema (request.apply configuration.options) with
    | error fault =>
      simp only [hgenerate]
      exact .ungenerated h hgenerate
    | ok text =>
      cases htarget : request.target configuration.outputPath with
      | none =>
        simp only [hgenerate, htarget]
        exact .told h hgenerate htarget
      | some path =>
        have hwrite : (writeDefinitions text path : ExceptT DiskFault (StateM Volume) _).run.run
            volume = (answer (writeDefinitions text path) volume,
              after (writeDefinitions text path) volume) := rfl
        simp only [hgenerate, htarget, Disk.run_bind_of_run hwrite]
        cases hplace : answer (writeDefinitions text path : ExceptT DiskFault (StateM Volume) _)
            volume with
        | error fault => exact .unwritten h hgenerate htarget hplace
        | ok place => exact .written h hgenerate htarget hplace

theorem resultOf_of_prepare_eq_error {fault : RunFault}
    (h : answer (prepare request) volume = .error fault) :
    resultOf request volume = .error fault := by
  have hcourse := course request volume
  generalize noticesOf request volume = notices, leftBy request volume = left,
    resultOf request volume = result at hcourse ⊢
  cases hcourse with
  | unprepared h' => exact congrArg _ (Except.error.inj (h'.symm.trans h))
  | ungenerated h' _ => cases h'.symm.trans h
  | told h' _ _ => cases h'.symm.trans h
  | unwritten h' _ _ _ => cases h'.symm.trans h
  | written h' _ _ _ => cases h'.symm.trans h

theorem resultOf_of_writing_error {configuration : Settings.Configuration} {schema : Schema}
    {text : Text} {path : Path} {fault : DiskFault}
    (h : answer (prepare request) volume = .ok (configuration, schema))
    (htext : Typing.generate schema (request.apply configuration.options) = .ok text)
    (htarget : request.target configuration.outputPath = some path)
    (hfault : answer (writeDefinitions text path) volume = .error fault) :
    resultOf request volume = .error (.writing fault) := by
  have hcourse := course request volume
  generalize noticesOf request volume = notices, leftBy request volume = left,
    resultOf request volume = result at hcourse ⊢
  -- the facts on how far the run came rule out all courses but one
  cases hcourse with
  | unprepared h' => cases h.symm.trans h'
  | ungenerated h' hgenerate =>
    cases h.symm.trans h'
    cases htext.symm.trans hgenerate
  | told h' _ hnone =>
    cases h.symm.trans h'
    cases htarget.symm.trans hnone
  | unwritten h' htext' htarget' hfault' =>
    cases h.symm.trans h'
    cases htext.symm.trans htext'
    cases htarget.symm.trans htarget'
    cases hfault.symm.trans hfault'
    rfl
  | written h' htext' htarget' hplace =>
    cases h.symm.trans h'
    cases htext.symm.trans htext'
    cases htarget.symm.trans htarget'
    cases hfault.symm.trans hplace

end SchemaScribe
