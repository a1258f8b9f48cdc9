import SchemaScribe.Proofs.Disk.Growth
import SchemaScribe.Proofs.Run.Course
import SchemaScribe.Proofs.Settings.Acceptance
import SchemaScribe.Proofs.Text.Encoded

/-!
# What a run changes

A run that fails before it writes changes nothing, and one that fails while it writes adds
directories at most, with one exception: the file of the output is opened before the text is
encoded, so it is left empty where the text has no bytes.  A run that ends well changes its output
alone (`run_changes_output_only`).  The directories are those that the path of the output, as it is
written, passes through; without double dots these lie above the output.
-/

namespace SchemaScribe

open Disk (answer after IsQuiet)
open Volume (AddsDirectories KeepsFiles Puts)

variable {request : Request} {volume : Volume}

/-! ### Writing -/

/-- **What writing type definitions comes to**, and what it leaves behind: directories on the way to
the file and, beyond these, the file, which is empty where the text cannot be encoded. -/
inductive WritesDefinitions (text : Text) (path : Path) (volume : Volume) :
    Except DiskFault Path → Volume → Prop
  | unopened {fault : DiskFault} {left : Volume} (hfault : ∀ cause, fault ≠ .notEncoded cause)
    (h : AddsDirectories (path.parent.Passes volume.working) volume left) :
    WritesDefinitions text path volume (.error fault) left
  | emptied {cause : Text.Utf8.EncodeFault} {left : Volume}
    (hcause : Text.Utf8.encode text = .error cause)
    (h : Puts (path.parent.Passes volume.working) (path.normalize volume.working).names .empty
      volume left) :
    WritesDefinitions text path volume (.error (.notEncoded cause)) left
  | written {written : String} {left : Volume} (htext : text = .ofString written)
    (h : Puts (path.parent.Passes volume.working) (path.normalize volume.working).names
      written.toUTF8 volume left) :
    WritesDefinitions text path volume (.ok (path.normalize volume.working)) left

/-- What is written after directories were added is put among them. -/
theorem puts_of_write (hworking : (".." : Text) ∉ volume.working) {path : Path}
    {places : Place → Prop} {made next : Volume} {bytes : ByteArray}
    (hmade : AddsDirectories places volume made) (hwrite : made.write path bytes = .ok next) :
    next.working = volume.working ∧
      Puts places (path.normalize volume.working).names bytes volume next := by
  obtain ⟨hkept, hfile, hothers⟩ := Volume.entryAt?_of_write (hmade.working ▸ hworking) hwrite
  rw [hmade.working] at hkept hfile hothers
  refine ⟨hkept, hfile, fun other hne => ?_⟩
  rw [hothers other hne]
  exact hmade.entry other

/-- **Writing type definitions comes to one of these.** -/
theorem writesDefinitions (hworking : (".." : Text) ∉ volume.working) (text : Text) (path : Path) :
    WritesDefinitions text path volume (answer (writeDefinitions text path) volume)
      (after (writeDefinitions text path : ExceptT DiskFault (StateM Volume) _) volume) := by
  let made := after (Disk.makeDirectories path.parent : ExceptT DiskFault (StateM Volume) _) volume
  have hmade : AddsDirectories (path.parent.Passes volume.working) volume made :=
    Disk.addsDirectories_makeDirectories hworking
  rw [writeDefinitions, Disk.answer_bind]
  cases hdirectories : answer (Disk.makeDirectories path.parent :
      ExceptT DiskFault (StateM Volume) _) volume with
  | error fault =>
    rw [Disk.after_bind_of_error hdirectories]
    refine .unopened ?_ hmade
    -- directories have nothing to encode
    rintro cause rfl
    cases Disk.failsWith_makeAbove _ _ _ _ hdirectories
  | ok _ =>
    rw [Disk.after_bind_of_ok hdirectories, ok_bind, Disk.answer_bind]
    have hwrites := Disk.writesText path text made
    cases hresult :
      answer (Disk.writeText path text : ExceptT DiskFault (StateM Volume) _) made with
    | error fault =>
      rw [Disk.after_bind_of_error hresult]
      rw [hresult] at hwrites
      generalize after (Disk.writeText path text : ExceptT DiskFault (StateM Volume) _) made = left
        at hwrites ⊢
      cases hwrites with
      | unpassed hfault => exact .unopened (by simp) hmade
      | refused hpath hwrite => exact .unopened (by simp) hmade
      | emptied hpath hcause hwrite => exact .emptied hcause (puts_of_write hworking hmade hwrite).2
    | ok _ =>
      rw [Disk.after_bind_of_ok hresult, Disk.isQuiet_locate, ok_bind]
      rw [hresult] at hwrites
      generalize after (Disk.writeText path text : ExceptT DiskFault (StateM Volume) _) made = left
        at hwrites ⊢
      cases hwrites with
      | written hpath hbytes hwrite =>
        obtain ⟨hkept, hputs⟩ := puts_of_write hworking hmade hwrite
        obtain ⟨written, htext, rfl⟩ := Text.Utf8.encode_eq_ok_iff.1 hbytes
        rw [Disk.answer_locate hpath, hkept]
        exact .written htext hputs

theorem writesDefinitions_of_answer (hworking : (".." : Text) ∉ volume.working) {text : Text}
    {path : Path} {result : Except DiskFault Path}
    (h : answer (writeDefinitions text path) volume = result) :
    WritesDefinitions text path volume result
      (after (writeDefinitions text path : ExceptT DiskFault (StateM Volume) _) volume) :=
  h ▸ writesDefinitions hworking text path

/-- The place of a path without double dots lies above its end if it was not there before. -/
theorem Path.Passes.isPrefix_dropLast (hproper : volume.IsProper) {path : Path}
    (hdots : (".." : Text) ∉ path.names) {place : Place}
    (h : path.parent.Passes volume.working place)
    (hnone : volume.entryAt? place = none) :
    place <+: (path.normalize volume.working).names.dropLast := by
  have hparent : (".." : Text) ∉ path.parent.names :=
    fun hmem => hdots (List.mem_of_mem_dropLast hmem)
  have hprefix := h.isPrefix hproper.undotted hparent
  rw [Path.names_normalize hproper.undotted hparent] at hprefix
  rw [Path.names_normalize hproper.undotted hdots]
  have hstart : path.parent.isAbsolute = path.isAbsolute := rfl
  rw [Path.namesFromRoot, hstart] at hprefix
  rw [Path.namesFromRoot]
  split at hprefix
  · next habsolute =>
    rw [if_pos habsolute]
    exact hprefix
  · next hrelative =>
    rw [if_neg hrelative]
    by_cases hnames : path.names = []
    · -- the path is that of the working directory, which is there
      have hplace : place = volume.working := by
        obtain ⟨names, hbefore, rfl⟩ := h
        rw [parent, hnames, List.dropLast_nil, List.prefix_nil] at hbefore
        rw [Path.names_normalize hproper.undotted (by simp [hbefore]), hbefore, Path.namesFromRoot]
        rw [if_neg (by rwa [← hstart] at hrelative), List.append_nil]
      rw [hplace, hproper.present] at hnone
      cases hnone
    · rw [List.dropLast_append_of_ne_nil hnames]
      exact hprefix

/-! ### Requests -/

/-- **Where the definitions go**: to the path of the request if it is not empty, and otherwise to
that of the configuration. -/
inductive Request.GoesTo (request : Request) (configured : Option Path) : Path → Prop
  | asked {text : Text} (h : request.outputPath = some text) (hne : text ≠ "") :
    request.GoesTo configured (.ofText text)
  | configured {path : Path} (h : ∀ text, request.outputPath = some text → text = "")
    (hpath : configured = some path) : request.GoesTo configured path

theorem goesTo_of_target {configured : Option Path} {path : Path}
    (h : request.target configured = some path) : request.GoesTo configured path := by
  rw [Request.target] at h
  split at h
  · next text htext =>
    split at h
    · next hempty => exact .configured (fun other h => by simp_all) h
    · next hne =>
      obtain rfl := Option.some.inj h
      exact .asked htext hne
  · next hnone => exact .configured (by simp [hnone]) h

theorem target_of_goesTo {configured : Option Path} {path : Path}
    (h : request.GoesTo configured path) : request.target configured = some path := by
  cases h with
  | asked h hne =>
    rw [Request.target, h]
    exact if_neg hne
  | configured h hpath =>
    rw [Request.target]
    split
    · next text htext => rw [if_pos (h text htext), hpath]
    · exact hpath

/-- **The switches of a request replace those of a configuration** where they are given, and the
rest stays. -/
structure Request.Replaces (request : Request) (configured options : Options) : Prop where
  intersection : options.useIntersectionTypes =
    request.useIntersectionTypes.getD configured.useIntersectionTypes
  singular : options.legacySingularMode =
    request.legacySingularMode.getD configured.legacySingularMode
  required : options.treatRequiredAsNonNull =
    request.treatRequiredAsNonNull.getD configured.treatRequiredAsNonNull
  directory : options.directoryTypeName = configured.directoryTypeName
  computed : options.computedFields = configured.computedFields

theorem replaces_apply (request : Request) (options : Options) :
    request.Replaces options (request.apply options) :=
  ⟨rfl, rfl, rfl, rfl, rfl⟩

/-! ### Runs -/

/-- **A run has made an outcome of what it read**: its text is generated from the snapshot of the
configuration. -/
structure Makes (request : Request) (volume : Volume) (configuration : Settings.Configuration)
    (outcome : Outcome) : Prop where
  loaded : answer (Settings.load (.ofText request.configPath)) volume = .ok configuration
  generated : ∃ schema options, Snapshot.load configuration.schemaText = .ok schema ∧
    request.Replaces configuration.options options ∧
    Typing.generate schema options = .ok outcome.text ∧
    outcome.collectionCount = schema.collections.length

theorem makes_of_prepare {configuration : Settings.Configuration} {schema : Schema} {text : Text}
    (h : answer (prepare request) volume = .ok (configuration, schema))
    (htext : Typing.generate schema (request.apply configuration.options) = .ok text)
    (place : Option Path) : Makes request volume configuration ⟨place, text, schema.size⟩ :=
  ⟨(prepare_eq_ok_iff.1 h).1, schema, _, (prepare_eq_ok_iff.1 h).2, replaces_apply _ _, htext, rfl⟩

/-- **What a failed run leaves behind.** -/
inductive LeavesFailed (request : Request) (volume : Volume) : RunFault → Volume → Prop
  /-- Nothing was written. -/
  | untouched {fault : RunFault} (hfault : ∀ cause, fault ≠ .writing (.notEncoded cause)) :
    LeavesFailed request volume fault volume
  /-- Directories were added, but the file of the output was not opened. -/
  | unopened {configuration : Settings.Configuration} {target : Path} {refusal : DiskFault}
    {left : Volume} (hfault : ∀ cause, refusal ≠ .notEncoded cause)
    (hload : answer (Settings.load (.ofText request.configPath)) volume = .ok configuration)
    (htarget : request.GoesTo configuration.outputPath target)
    (h : AddsDirectories (target.parent.Passes volume.working) volume left) :
    LeavesFailed request volume (.writing refusal) left
  /-- The file of the output was opened and left empty, since its text has no bytes. -/
  | emptied {configuration : Settings.Configuration} {target : Path} {outcome : Outcome}
    {cause : Text.Utf8.EncodeFault} {left : Volume}
    (hmakes : Makes request volume configuration outcome)
    (htarget : request.GoesTo configuration.outputPath target)
    (hcause : Text.Utf8.encode outcome.text = .error cause)
    (h : Puts (target.parent.Passes volume.working) (target.normalize volume.working).names .empty
      volume left) :
    LeavesFailed request volume (.writing (.notEncoded cause)) left

theorem leavesFailed_of_error (hproper : volume.IsProper) {fault : RunFault}
    (hfault : resultOf request volume = .error fault) :
    LeavesFailed request volume fault (leftBy request volume) := by
  have hcourse := course request volume
  rw [hfault] at hcourse
  generalize noticesOf request volume = notices, leftBy request volume = left at hcourse ⊢
  cases hcourse with
  | unprepared h =>
    refine .untouched ?_
    rintro cause rfl
    exact prepare_ne_writing h
  | ungenerated _ _ => exact .untouched (by simp)
  | unwritten h htext htarget hwriting =>
    cases writesDefinitions_of_answer hproper.undotted hwriting with
    | unopened hfault hadds =>
      exact .unopened hfault (prepare_eq_ok_iff.1 h).1 (goesTo_of_target htarget) hadds
    | emptied hcause hputs =>
      exact .emptied (makes_of_prepare h htext none) (goesTo_of_target htarget) hcause hputs

/-- A run that ends well puts the text of its outcome at the output it names. -/
theorem leftBy_of_ok (hproper : volume.IsProper) {outcome : Outcome}
    (houtcome : resultOf request volume = .ok outcome) :
    ∃ configuration, Makes request volume configuration outcome ∧
      (outcome.outputPath = none → leftBy request volume = volume) ∧
      ∀ place, outcome.outputPath = some place →
        ∃ target written, request.GoesTo configuration.outputPath target ∧
          place = target.normalize volume.working ∧ outcome.text = .ofString written ∧
          Puts (target.parent.Passes volume.working) place.names written.toUTF8 volume
            (leftBy request volume) := by
  have hcourse := course request volume
  rw [houtcome] at hcourse
  generalize noticesOf request volume = notices, leftBy request volume = left at hcourse ⊢
  cases hcourse with
  | told h htext _ =>
    refine ⟨_, makes_of_prepare h htext _, fun _ => rfl, fun place hplace => ?_⟩
    cases hplace
  | written h htext htarget hplace =>
    refine ⟨_, makes_of_prepare h htext _, ?_, fun other hother => ?_⟩
    · intro hnone
      cases hnone
    · obtain rfl := Option.some.inj hother
      cases writesDefinitions_of_answer hproper.undotted hplace with
      | written htext hputs => exact ⟨_, _, goesTo_of_target htarget, rfl, htext, hputs⟩

/-- **A run changes only its output**, and no file if it fails, unless its text cannot be encoded.
If it fails before it writes nothing is changed; if it fails while it writes, directories that the
path of the output passes through may have been added.  The files stay as they were exactly if the
text can be encoded, the file of the output is not reached, or was empty already; otherwise it is
empty then.  If the run ends well, its outcome was made of what it read; it has changed nothing
where it names no output, and otherwise the file at the output it names holds the bytes of the text,
and nothing else is changed but for such directories.  On a path without double dots all of these
lie above the output. -/
theorem run_changes_output_only (hproper : volume.IsProper) (request : Request) :
    (∀ fault, resultOf request volume = .error fault →
      LeavesFailed request volume fault (leftBy request volume) ∧
      (KeepsFiles volume (leftBy request volume) ↔
        ∀ cause, fault = .writing (.notEncoded cause) → ∃ configuration target,
          answer (Settings.load (.ofText request.configPath)) volume = .ok configuration ∧
          request.GoesTo configuration.outputPath target ∧
          volume.entryAt? (target.normalize volume.working).names = some (.file .empty))) ∧
    (∀ outcome, resultOf request volume = .ok outcome →
      ∃ configuration, Makes request volume configuration outcome ∧
        (outcome.outputPath = none → leftBy request volume = volume) ∧
        ∀ place, outcome.outputPath = some place →
          ∃ target written, request.GoesTo configuration.outputPath target ∧
            place = target.normalize volume.working ∧ outcome.text = .ofString written ∧
            Puts (target.parent.Passes volume.working) place.names written.toUTF8 volume
              (leftBy request volume)) ∧
    ∀ target : Path, (".." : Text) ∉ target.names → ∀ place,
      target.parent.Passes volume.working place → volume.entryAt? place = none →
        place <+: (target.normalize volume.working).names.dropLast := by
  refine ⟨fun fault hfault => ?_, fun _ => leftBy_of_ok hproper,
    fun _ hdots _ => Path.Passes.isPrefix_dropLast hproper hdots⟩
  have hleaves := leavesFailed_of_error hproper hfault
  refine ⟨hleaves, ?_⟩
  generalize leftBy request volume = left at hleaves ⊢
  cases hleaves with
  | untouched hne =>
    exact iff_of_true (.refl volume) fun cause hcause => absurd hcause (hne cause)
  | unopened hne _ _ hadds =>
    exact iff_of_true hadds.keepsFiles fun cause hcause =>
      absurd (RunFault.writing.inj hcause) (hne cause)
  | emptied hmakes htarget hcause hputs =>
    -- the empty file was put there: nothing is lost just where it was empty before
    rw [hputs.keepsFiles_iff]
    constructor
    · exact fun hempty _ _ => ⟨_, _, hmakes.loaded, htarget, hempty⟩
    · intro h
      obtain ⟨configuration, target, hload, htarget', hempty⟩ := h _ rfl
      cases hmakes.loaded.symm.trans hload
      cases (target_of_goesTo htarget).symm.trans (target_of_goesTo htarget')
      exact hempty

/-- A run that is asked for an output stores the text that it would have told without one, unless it
fails while it writes. -/
theorem stores_of_told {other : Request} (hproper : volume.IsProper)
    (hsame : other = { request with outputPath := other.outputPath }) {outcome : Outcome}
    (houtcome : resultOf request volume = .ok outcome) (hnone : outcome.outputPath = none)
    {text : Text} (hasked : other.outputPath = some text) (hne : text ≠ "") :
    (∃ fault, resultOf other volume = .error (.writing fault)) ∨
      ∃ written : String, outcome.text = .ofString written ∧
        (leftBy other volume).entryAt? ((Path.ofText text).normalize volume.working).names =
          some (.file written.toUTF8) := by
  have hprepare : answer (prepare other : ExceptT RunFault (StateM Volume) _) volume =
      answer (prepare request) volume := by rw [hsame]; rfl
  have happly : other.apply = request.apply := by rw [hsame]; rfl
  have htarget (configured : Option Path) : other.target configured = some (.ofText text) := by
    rw [Request.target, hasked]
    exact if_neg hne
  have hcourse := course request volume
  have hcourse' := course other volume
  rw [houtcome] at hcourse
  generalize noticesOf request volume = notices, leftBy request volume = left at hcourse
  generalize noticesOf other volume = notices', leftBy other volume = left',
    resultOf other volume = result' at hcourse' ⊢
  cases hcourse with
  | written _ _ _ _ => cases hnone
  | told h htext _ =>
    -- both runs prepare and generate the same
    rw [← hprepare] at h
    rw [← happly] at htext
    cases hcourse' with
    | unprepared h' => cases h.symm.trans h'
    | ungenerated h' hfault =>
      cases h.symm.trans h'
      cases htext.symm.trans hfault
    | told _ _ hnone' => cases (htarget _).symm.trans hnone'
    | unwritten _ _ _ _ => exact Or.inl ⟨_, rfl⟩
    | written h' htext' htarget' hplace =>
      cases h.symm.trans h'
      cases htext.symm.trans htext'
      cases (htarget _).symm.trans htarget'
      cases writesDefinitions_of_answer hproper.undotted hplace with
      | written htext hputs => exact Or.inr ⟨_, htext, hputs.file⟩

/-! ### Two runs -/

/-- A configuration of one collection, with an output below a directory that is not there. -/
def noteText : String :=
  "schema:\n  inline: '\x7b\"a\": \x7b\x7d\x7d'\noutput:\n  path: made/a.ts\n"

/-- A volume with `noteText` in its working directory. -/
def noteVolume : Volume where
  working := ["w"]
  entries := [(["w"], .directory), (["w", "c.yaml"], .file noteText.toUTF8)]

theorem isProper_noteVolume : noteVolume.IsProper where
  undotted := by decide
  present := rfl

/-- The definitions of `noteText`. -/
def noteDefinitions : String :=
  "export type A = \x7b\x7d;\n\nexport type CustomDirectusTypes = \x7b\n  a: A[];\n\x7d;\n"

set_option maxRecDepth 10000 in
theorem resultOf_noteVolume :
    resultOf ⟨"c.yaml", none, none, none, none⟩ noteVolume =
      .ok ⟨some ⟨.root, ["w", "made", "a.ts"]⟩, noteDefinitions, 1⟩ :=
  by decide +kernel

/-- The definitions are put in a directory that was made for them. -/
theorem run_noteVolume :
    (leftBy ⟨"c.yaml", none, none, none, none⟩ noteVolume).entryAt? ["w", "made", "a.ts"] =
      some (.file noteDefinitions.toUTF8) := by
  have hrun := run_changes_output_only isProper_noteVolume ⟨"c.yaml", none, none, none, none⟩
  obtain ⟨configuration, -, -, hwritten⟩ := hrun.2.1 _ resultOf_noteVolume
  obtain ⟨target, written, -, -, hwritten, hputs⟩ := hwritten _ rfl
  rw [Text.ofString_inj.1 hwritten]
  exact hputs.file

/-- A configuration with a choice that is half of a surrogate pair. -/
def halfConfiguration : String :=
  "schema:\n  inline: '\x7b\"a\":\x7b\"fields\":[\x7b\"field\":\"x\",\"meta\":" ++
    "\x7b\"interface\":\"select-radio\",\"options\":\x7b\"choices\":[\"\\ud800\"]" ++
    "\x7d\x7d\x7d]\x7d\x7d'\n"

/-- A volume with `halfConfiguration`, whose output holds the definitions of an earlier run. -/
def halfVolume : Volume where
  working := ["w"]
  entries := [(["w"], .directory),
    (["w", "c.yaml"], .file (halfConfiguration ++ "output:\n  path: a.ts\n").toUTF8),
    (["w", "a.ts"], .file "old".toUTF8)]

set_option maxRecDepth 10000 in
/-- **A run that fails may empty its output**: the definitions of the earlier run are lost. -/
theorem run_empties_output :
    resultOf ⟨"c.yaml", none, none, none, none⟩ halfVolume =
        .error (.writing (.notEncoded ⟨0, 24, 1⟩)) ∧
      halfVolume.entryAt? ["w", "a.ts"] = some (.file "old".toUTF8) ∧
      (leftBy ⟨"c.yaml", none, none, none, none⟩ halfVolume).entryAt? ["w", "a.ts"] =
        some (.file .empty) := by
  decide +kernel

set_option maxRecDepth 10000 in
/-- A directory that the path of the output enters and leaves again is added, and it is not above
the output. -/
example :
    noteVolume.entryAt? ["w", "stray"] = none ∧
      (leftBy ⟨"c.yaml", some "stray/../a.ts", none, none, none⟩ noteVolume).entryAt?
        ["w", "stray"] = some .directory ∧
      resultOf ⟨"c.yaml", some "stray/../a.ts", none, none, none⟩ noteVolume =
        .ok ⟨some ⟨.root, ["w", "a.ts"]⟩, noteDefinitions, 1⟩ := by
  decide +kernel

end SchemaScribe
