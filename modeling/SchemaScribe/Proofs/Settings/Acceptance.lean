import SchemaScribe.Proofs.Association
import SchemaScribe.Proofs.Settings.Looking
import SchemaScribe.Proofs.Settings.Sections
import SchemaScribe.Proofs.Yaml.Equality

/-!
# Which configurations are accepted

A configuration is usable when each of its sections is what it has to be and its snapshot is there
(`IsUsable`).  `load_accepts_exactly` says that these are the ones that are loaded, apart from those
with computed fields for a collection whose name would be an integer of too many digits, and those
with a relative path that cannot be passed to the disk.  It says what is loaded then, and what is
told otherwise.
-/

namespace SchemaScribe.Settings

open Disk (answer IsQuiet)
open Yaml (Value Scalar)

variable {volume : Volume} {path base : Path} {text : String} {value : Value}

/-! ### Files -/

/-- **All files of a volume are texts**: their bytes are UTF-8. -/
def IsLegible (volume : Volume) : Prop :=
  ∀ place bytes, volume.entryAt? place = some (.file bytes) → bytes.IsValidUTF8

/-- **A path that can be passed to the disk leads to a file that holds a text.** -/
def HoldsText (volume : Volume) (path : Path) (text : String) : Prop :=
  path.isPassable = true ∧
    ∃ bytes, volume.find path = .ok (.file bytes) ∧ Text.Utf8.fileText bytes = .ok text

/-- **What lies at a path is no file that can be read**, although something is there. -/
def IsBarred (volume : Volume) (path : Path) (refusal : Refusal) : Prop :=
  path.isPassable = true ∧ volume.read path = .error refusal ∧ Disk.meansAbsent refusal = false

theorem succeeds_fileText_iff {bytes : ByteArray} :
    Succeeds (Text.Utf8.fileText bytes) ↔ bytes.IsValidUTF8 := by
  rw [Text.Utf8.fileText, Text.Utf8.decode, String.fromUTF8?]
  by_cases h : bytes.IsValidUTF8 <;> simp [h, Succeeds, Except.map]

theorem isLegible_of_entries
    (h : ∀ pair ∈ volume.entries, ∀ bytes, pair.2 = .file bytes → bytes.IsValidUTF8) :
    IsLegible volume := by
  intro place bytes hentry
  rw [Volume.entryAt?] at hentry
  split at hentry
  · cases hentry
  · exact h _ (Association.mem_of_get?_eq_some hentry) bytes rfl

/-- A file that a text was written to holds it, if its lines do not end in carriage returns. -/
theorem holdsText_of_find (hpath : path.isPassable = true)
    (hfind : volume.find path = .ok (.file text.toUTF8)) (hreturns : '\r' ∉ text.toList) :
    HoldsText volume path text := by
  have hvalid : text.toUTF8.IsValidUTF8 := text.isValidUTF8
  refine ⟨hpath, _, hfind, ?_⟩
  rw [Text.Utf8.fileText, Text.Utf8.decode, String.fromUTF8?, dif_pos hvalid]
  simp [Except.map, String.fromUTF8, Text.Utf8.unifyLineEnds_of_not_mem hreturns]

theorem HoldsText.unique {other : String} (h : HoldsText volume path text)
    (h' : HoldsText volume path other) : text = other := by
  obtain ⟨-, bytes, hfind, htext⟩ := h
  obtain ⟨-, bytes', hfind', htext'⟩ := h'
  rw [hfind] at hfind'
  obtain rfl := Entry.file.inj (Except.ok.inj hfind')
  exact Except.ok.inj (htext.symm.trans htext')

theorem textAt_of_holdsText (h : HoldsText volume path text) (absent : Fault) :
    textAt volume absent path = .ok text := by
  obtain ⟨hpath, bytes, hfind, htext⟩ := h
  rw [textAt, hpath, Bool.not_true, if_neg Bool.false_ne_true, Volume.read_of_file hfind]
  dsimp only
  rw [htext]
  rfl

theorem fileText_eq_error {bytes : ByteArray} (h : ¬ bytes.IsValidUTF8) :
    ∃ fault, Text.Utf8.fileText bytes = .error fault := by
  cases hread : Text.Utf8.fileText bytes with
  | ok text => exact absurd (succeeds_fileText_iff.1 ⟨text, hread⟩) h
  | error fault => exact ⟨fault, rfl⟩

/-- **What is read at a path**: the text of the file there, a fault if its bytes are no text, and
one that tells why there is no file. -/
theorem textAt_cases (volume : Volume) (path : Path) (absent : Fault) :
    (∃ text, HoldsText volume path text ∧ textAt volume absent path = .ok text) ∨
    (∃ bytes fault, path.isPassable = true ∧ volume.find path = .ok (.file bytes) ∧
      ¬ bytes.IsValidUTF8 ∧ textAt volume absent path = .error (.disk (.notText fault))) ∨
    (path.isPassable = true → ∀ bytes, volume.find path ≠ .ok (.file bytes)) ∧
      (textAt volume absent path = .error absent ∨ ∃ refusal, IsBarred volume path refusal ∧
        textAt volume absent path = .error (.disk (.refused refusal path))) := by
  rw [textAt]
  by_cases hpath : path.isPassable = false
  · -- nothing is at a path that cannot be passed, whatever the volume holds
    rw [hpath]
    exact Or.inr (Or.inr ⟨fun h => absurd h Bool.false_ne_true, Or.inl rfl⟩)
  rw [Bool.not_eq_false] at hpath
  rw [hpath, Bool.not_true, if_neg Bool.false_ne_true]
  cases hfind : volume.find path with
  | error refusal =>
    have hread := Volume.read_of_error hfind
    rw [hread]
    refine Or.inr (Or.inr ⟨by simp, ?_⟩)
    dsimp only
    split
    · exact Or.inl rfl
    · next h => exact Or.inr ⟨refusal, ⟨hpath, hread, by simpa using h⟩, rfl⟩
  | ok entry =>
    cases entry with
    | directory =>
      have hread := Volume.read_of_directory hfind
      rw [hread]
      exact Or.inr (Or.inr ⟨by simp, Or.inr ⟨.isDirectory, ⟨hpath, hread, rfl⟩, rfl⟩⟩)
    | file bytes =>
      rw [Volume.read_of_file hfind]
      dsimp only
      by_cases hvalid : bytes.IsValidUTF8
      · obtain ⟨text, htext⟩ := succeeds_fileText_iff.2 hvalid
        rw [htext]
        exact Or.inl ⟨text, ⟨hpath, bytes, hfind, htext⟩, rfl⟩
      · obtain ⟨fault, hfault⟩ := fileText_eq_error hvalid
        rw [hfault]
        exact Or.inr (Or.inl ⟨bytes, fault, rfl, rfl, hvalid, rfl⟩)

/-- The text at a path is that of the file there, and where there is no file a fault is told. -/
theorem settles_textAt (hlegible : IsLegible volume) (path : Path) (absent : Fault) :
    Settles (∃ text, HoldsText volume path text) (HoldsText volume path)
      (fun fault => fault = absent ∨
        ∃ refusal, IsBarred volume path refusal ∧ fault = .disk (.refused refusal path))
      (textAt volume absent path) := by
  rcases textAt_cases volume path absent with
    ⟨text, h, hread⟩ | ⟨bytes, fault, -, hfind, hvalid, -⟩ | ⟨hnone, h⟩
  · rw [hread]
    exact .ok ⟨text, h⟩ h
  · -- all files are texts
    obtain ⟨place, -, hentry⟩ := Volume.find_eq_ok_iff.1 hfind
    exact absurd (hlegible place bytes hentry) hvalid
  · have hno : ¬ ∃ text, HoldsText volume path text := by
      rintro ⟨text, hpath, bytes, hfind, -⟩
      exact hnone hpath bytes hfind
    rcases h with hread | ⟨refusal, hbarred, hread⟩
    · rw [hread]
      exact .error hno (Or.inl rfl)
    · rw [hread]
      exact .error hno (Or.inr ⟨refusal, hbarred, rfl⟩)

/-! ### Snapshots -/

/-- **A source supplies the text of a snapshot**: the one that is written in the configuration, or
the one of a file. -/
inductive Supplies (volume : Volume) (base : Path) : Source → Text → Option Path → Prop
  | inline (text : Text) : Supplies volume base (.inline text) text none
  | file {path : Path} {text : String} (h : HoldsText volume (resolved volume base path) text) :
    Supplies volume base (.file path) text (some (resolved volume base path))

theorem supplies_file_iff {found : Text} {place : Option Path} :
    Supplies volume base (.file path) found place ↔
      ∃ text, HoldsText volume (resolved volume base path) text ∧ found = .ofString text ∧
        place = some (resolved volume base path) := by
  constructor
  · rintro ⟨⟩
    exact ⟨_, ‹_›, rfl, rfl⟩
  · rintro ⟨text, h, rfl, rfl⟩
    exact .file h

theorem Supplies.unique {source : Source} {found other : Text} {place place' : Option Path}
    (h : Supplies volume base source found place) (h' : Supplies volume base source other place') :
    found = other := by
  cases source with
  | inline text => cases h; cases h'; rfl
  | file path =>
    obtain ⟨text, htext, rfl, -⟩ := supplies_file_iff.1 h
    obtain ⟨text', htext', rfl, -⟩ := supplies_file_iff.1 h'
    rw [htext.unique htext']

/-- The faults of reading a snapshot: one of the configuration, or the disk refuses the file. -/
inductive SourceFault (volume : Volume) (base : Path) (source : Source) : Fault → Prop
  | own {fault : Fault} (h : fault.IsOwn) : SourceFault volume base source fault
  | barred {path : Path} {refusal : Refusal} (hsource : source = .file path)
    (h : IsBarred volume (resolved volume base path) refusal) :
    SourceFault volume base source (.disk (.refused refusal (resolved volume base path)))

/-- **A relative path cannot be passed to the disk**, so it is not located. -/
inductive IsUnlocated (path : Path) : Fault → Prop
  | name {fault : NameFault} (h : pathFault? path = some fault) :
    IsUnlocated path (.disk (.name fault))

/-- A snapshot is looked for, once it is known where. -/
theorem settles_lookUp (hlegible : IsLegible volume) (base path : Path) :
    Settles (∃ text place, Supplies volume base (.file path) text place)
      (fun found => Supplies volume base (.file path) found.1 found.2)
      (SourceFault volume base (.file path))
      (answer (lookUp (.snapshotNotFound (resolved volume base path)) (resolved volume base path)
        fun text => pure (Text.ofString text, some (resolved volume base path))) volume) := by
  have htext := settles_textAt hlegible (resolved volume base path)
    (.snapshotNotFound (resolved volume base path))
  refine Settles.imp (p := ∃ text, HoldsText volume (resolved volume base path) text)
    (x := answer (lookUp _ _ _) volume) ?_ ?_ (fun _ _ h => h) fun _ _ h => h
  · -- the text there is the snapshot, and a fault of the disk is told as it is
    rw [answer_lookUp]
    refine (htext.weaken fun fault _ h => ?_).map fun text h => .file h
    rcases h with rfl | ⟨refusal, hbarred, rfl⟩
    · exact .own trivial
    · exact .barred rfl hbarred
  · constructor
    · rintro ⟨text, h⟩
      exact ⟨text, _, .file h⟩
    · rintro ⟨found, place, h⟩
      obtain ⟨text, h, -⟩ := supplies_file_iff.1 h
      exact ⟨text, h⟩

theorem settles_readSource (hlegible : IsLegible volume) (hbase : base.isPassable = true)
    (source : Source) :
    Settles ((∀ path, source = .file path → pathFault? path = none) ∧
        ∃ text place, Supplies volume base source text place)
      (fun found => Supplies volume base source found.1 found.2)
      (fun fault => (¬ ∃ text place, Supplies volume base source text place) ∧
          SourceFault volume base source fault ∨
        ∃ path, source = .file path ∧ IsUnlocated path fault)
      (answer (readSource base source) volume) := by
  cases source with
  | inline text => exact .ok ⟨by simp, text, none, .inline text⟩ (.inline text)
  | file path =>
    rw [readSource_file, (isQuiet_resolvePath _ _).answer_bind, answer_resolvePath hbase]
    cases hpath : pathFault? path with
    | some fault =>
      refine .error (fun h => ?_) (Or.inr ⟨path, rfl, .name hpath⟩)
      cases (h.1 path rfl).symm.trans hpath
    | none =>
      refine ((settles_lookUp hlegible base path).weaken fun fault hp h => Or.inl ⟨hp, h⟩).congr ?_
      exact (and_iff_right (by rintro _ ⟨⟩; exact hpath)).symm

/-! ### Configurations -/

/-- **A usable configuration**: each section is what it has to be, and the snapshot that the schema
section names is there and not blank. -/
structure IsUsable (volume : Volume) (path : Path) (value : Value) : Prop where
  root : MayBe IsMapping value
  schema : IsMapping (part "schema" value)
  source : NamesSource (part "schema" value)
  snapshot : ∃ text place,
    Supplies volume path.parent (sourceIn (part "schema" value)) text place ∧ Text.trim text ≠ ""
  output : IsOutput (part "output" value)
  computed : IsComputed (part "computed_fields" value)
  generation : IsGeneration (part "generation" value)

/-- **What a configuration says**, given the text of its snapshot and where that was read. -/
def configurationIn (volume : Volume) (path : Path) (value : Value) (schemaText : Text)
    (sourcePath : Option Path) : Configuration where
  path := path
  schemaText := schemaText
  sourcePath := sourcePath
  outputPath := (words? (part "path" (part "output" value))).map fun text =>
    resolved volume path.parent (.ofText text)
  options := optionsIn (computedIn (part "computed_fields" value)) (part "generation" value)

/-- **A path that is written in a configuration**: where its snapshot is, if that is in a file, and
where its output goes. -/
inductive IsWritten (value : Value) : Path → Prop
  | snapshot {path : Path} (h : sourceIn (part "schema" value) = .file path) : IsWritten value path
  | output {text : Text} (h : words? (part "path" (part "output" value)) = some text) :
    IsWritten value (.ofText text)

/-- **The paths that are written in a configuration can be located**, as far as they have to be. -/
def AreLocatable (value : Value) : Prop := ∀ written, IsWritten value written → ¬ IsLost written

theorem areLocatable_iff :
    AreLocatable value ↔
      (∀ path, sourceIn (part "schema" value) = .file path → pathFault? path = none) ∧
        ∀ text, words? (part "path" (part "output" value)) = some text →
          pathFault? (.ofText text) = none := by
  simp only [pathFault?_eq_none_iff]
  constructor
  · exact fun h => ⟨fun _ hpath => h _ (.snapshot hpath), fun _ htext => h _ (.output htext)⟩
  · rintro ⟨hsnapshot, houtput⟩ _ (hpath | htext)
    · exact hsnapshot _ hpath
    · exact houtput _ htext

theorem settles_outputPlace (hbase : base.isPassable = true) (given : Option Text) :
    Settles (∀ text, given = some text → pathFault? (.ofText text) = none)
      (· = given.map fun text => resolved volume base (.ofText text))
      (fun fault => ∃ text, given = some text ∧ IsUnlocated (.ofText text) fault)
      (answer (outputPlace base given) volume) := by
  cases given with
  | none => exact .ok (by simp) rfl
  | some text =>
    rw [outputPlace, map_eq_pure_bind, Disk.answer_bind, answer_resolvePath hbase]
    cases htext : pathFault? (.ofText text) with
    | some fault =>
      refine .error (fun h => ?_) ⟨text, rfl, .name htext⟩
      cases (h text rfl).symm.trans htext
    | none => exact .ok (by rintro _ ⟨⟩; exact htext) rfl

theorem settles_requireSnapshot (text : Text) :
    Settles (Text.trim text ≠ "") (fun _ => True) Fault.IsOwn (requireSnapshot text) := by
  rw [requireSnapshot]
  split
  · next h => exact .error (fun hne => hne h) trivial
  · next h => exact .ok h trivial

/-- **What is told of a configuration that is not loaded**: a fault of its own or one of the disk if
it is not usable, another one if a collection has no name, and one of the disk again if a path
cannot be located. -/
inductive IsRefused (volume : Volume) (path : Path) (value : Value) : Fault → Prop
  | unusable {fault : Fault} (h : ¬ IsUsable volume path value)
    (hfault : SourceFault volume path.parent (sourceIn (part "schema" value)) fault) :
    IsRefused volume path value fault
  | unnamed (h : ¬ AreNamed (pairsOf (part "computed_fields" value))) :
    IsRefused volume path value .nameTooLong
  | unlocated {written : Path} {fault : Fault} (hwritten : IsWritten value written)
    (hfault : IsUnlocated written fault) : IsRefused volume path value fault

theorem isRefused_of_isOwn {p : Prop} {fault : Fault} (hpart : IsUsable volume path value → p)
    (hp : ¬ p) (h : fault.IsOwn) : IsRefused volume path value fault :=
  .unusable (fun hu => hp (hpart hu)) (.own h)

/-- The sections that follow the snapshot are read in order. -/
theorem settles_ofSnapshot (hpath : path.isPassable = true) (schemaText : Text)
    (sourcePath : Option Path) :
    Settles (IsOutput (part "output" value) ∧
        (∀ text, words? (part "path" (part "output" value)) = some text →
          pathFault? (.ofText text) = none) ∧
        (IsComputed (part "computed_fields" value) ∧
          AreNamed (pairsOf (part "computed_fields" value))) ∧
        IsGeneration (part "generation" value))
      (· = configurationIn volume path value schemaText sourcePath) (IsRefused volume path value)
      (do
        let given ← outputText (part "output" value)
        let outputPath ← answer (outputPlace path.parent given) volume
        let computed ← computedFields (part "computed_fields" value)
        let options ← generation computed (part "generation" value)
        pure ⟨path, schemaText, sourcePath, outputPath, options⟩) := by
  -- what each section asks for is a part of being usable, and its faults tell that it is missing
  have houtput := (settles_outputText (part "output" value)).weaken
    fun fault hp h => show IsRefused volume path value fault from isRefused_of_isOwn (·.output) hp h
  have hcomputed := (settles_computedFields (part "computed_fields" value)).weaken
    fun fault _ h => show IsRefused volume path value fault from
      h.elim (fun ⟨hp, hown⟩ => .unusable (fun hu => hp hu.computed) (.own hown))
        fun ⟨hunnamed, hfault⟩ => hfault ▸ .unnamed hunnamed
  have hgeneration (computed : Association Text (List ComputedField)) :=
    (settles_generation computed (part "generation" value)).weaken fun fault hp h =>
      show IsRefused volume path value fault from isRefused_of_isOwn (·.generation) hp h
  refine houtput.bind fun given _ hgiven => ?_
  subst hgiven
  have hplace := (@settles_outputPlace volume _ (Path.isPassable_parent hpath)
    (words? (part "path" (part "output" value)))).weaken fun fault _ h =>
      show IsRefused volume path value fault from
        h.elim fun text ⟨htext, hfault⟩ => .unlocated (.output htext) hfault
  refine hplace.bind fun place _ hplace => ?_
  refine hcomputed.bind fun computed _ hcomputed => ?_
  refine (hgeneration computed).map fun options hoptions => ?_
  rw [hoptions, hcomputed, hplace]
  rfl

theorem settles_ofValue (hlegible : IsLegible volume) (hpath : path.isPassable = true)
    (value : Value) :
    Settles (IsUsable volume path value ∧ AreNamed (pairsOf (part "computed_fields" value)) ∧
        AreLocatable value)
      (fun configuration => ∃ text place,
        Supplies volume path.parent (sourceIn (part "schema" value)) text place ∧
          configuration = configurationIn volume path value text place)
      (IsRefused volume path value) (answer (ofValue path value) volume) := by
  let schema := part "schema" value
  let Supplied := Supplies volume path.parent (sourceIn schema)
  have hroot := (settles_sections value).weaken
    fun fault hp h => show IsRefused volume path value fault from isRefused_of_isOwn (·.root) hp h
  have hsource := (settles_source schema).weaken
    fun fault hp h => show IsRefused volume path value fault from
      isRefused_of_isOwn (fun hu => ⟨hu.schema, hu.source⟩) hp h
  have hparent := Path.isPassable_parent hpath
  have hread := (settles_readSource hlegible hparent (sourceIn schema)).weaken
    fun fault _ h => show IsRefused volume path value fault from
      h.elim (fun ⟨hp, hfault⟩ => .unusable
        (fun hu => hp (hu.snapshot.imp fun _ => Exists.imp fun _ => And.left)) hfault)
        fun ⟨_, hwritten, hfault⟩ => .unlocated (.snapshot hwritten) hfault
  have hblank (found : Text × Option Path) (hfound : Supplied found.1 found.2) :
      Settles (∀ text place, Supplied text place → Text.trim text ≠ "") (fun _ => True)
        (IsRefused volume path value) (requireSnapshot found.1) := by
    -- there is one snapshot only, so it is blank if any is
    have hall : Text.trim found.1 ≠ "" ↔ ∀ text place, Supplied text place → Text.trim text ≠ "" :=
      ⟨fun h text place htext => htext.unique hfound ▸ h, fun h => h _ _ hfound⟩
    refine (settles_requireSnapshot found.1).imp hall (fun _ _ h => h) fun fault hp h => ?_
    refine isRefused_of_isOwn (fun hu => ?_) hp h
    obtain ⟨text, place, htext, hne⟩ := hu.snapshot
    exact hfound.unique htext ▸ hne
  have hsteps : Settles (MayBe IsMapping value ∧ (IsMapping schema ∧ NamesSource schema) ∧
      ((∀ path, sourceIn schema = .file path → pathFault? path = none) ∧
        ∃ text place, Supplied text place) ∧
      (∀ text place, Supplied text place → Text.trim text ≠ "") ∧ IsOutput (part "output" value) ∧
      (∀ text, words? (part "path" (part "output" value)) = some text →
        pathFault? (.ofText text) = none) ∧
      (IsComputed (part "computed_fields" value) ∧
        AreNamed (pairsOf (part "computed_fields" value))) ∧
      IsGeneration (part "generation" value))
      (fun configuration => ∃ text place, Supplied text place ∧
        configuration = configurationIn volume path value text place)
      (IsRefused volume path value) (answer (ofValue path value) volume) := by
    rw [answer_ofValue]
    refine hroot.bind fun pairs _ hpairs => ?_
    subst hpairs
    refine hsource.bind fun source _ hsource => ?_
    subst hsource
    refine hread.bind fun found _ hfound => ?_
    refine (hblank found hfound).bind fun _ _ _ => ?_
    refine (settles_ofSnapshot hpath found.1 found.2).imp Iff.rfl ?_ fun _ _ h => h
    exact fun configuration _ h => ⟨found.1, found.2, hfound, h⟩
  -- the conditions of the steps, put in the order of the sections
  rw [areLocatable_iff]
  refine hsteps.congr ⟨?_, ?_⟩
  · rintro ⟨hroot, ⟨hschema, hsource⟩, ⟨hread, text, place, htext⟩, hblank, hout, hplace,
      ⟨hcomp, hnamed⟩, hgen⟩
    exact ⟨⟨hroot, hschema, hsource, ⟨text, place, htext, hblank _ _ htext⟩, hout, hcomp, hgen⟩,
      hnamed, hread, hplace⟩
  · rintro ⟨⟨hroot, hschema, hsource, ⟨text, place, htext, hne⟩, hout, hcomp, hgen⟩, hnamed, hread,
      hplace⟩
    exact ⟨hroot, ⟨hschema, hsource⟩, ⟨hread, text, place, htext⟩,
      fun other _ h => htext.unique h ▸ hne, hout, hplace, ⟨hcomp, hnamed⟩, hgen⟩

/-- What is loaded from a file is what its value describes. -/
theorem answer_load (htext : HoldsText volume path text)
    (hvalue : Value.ofText depth text = .ok value) :
    answer (load path) volume = answer (ofValue path value) volume := by
  rw [answer_load_eq, textAt_of_holdsText htext, ok_bind, hvalue]
  rfl

/-- **Exactly the usable configurations are loaded**, unless a collection of the computed fields has
no name or a relative path cannot be passed to the disk; what is loaded is what the sections say.
Otherwise a fault of the configuration is told, or the disk refuses to read what lies at the path of
the snapshot, a collection has no name, or a path is not located. -/
theorem load_accepts_exactly (hlegible : IsLegible volume) (htext : HoldsText volume path text)
    (hvalue : Value.ofText depth text = .ok value) :
    (Succeeds (answer (load path) volume) ↔
      IsUsable volume path value ∧ AreNamed (pairsOf (part "computed_fields" value)) ∧
        AreLocatable value) ∧
    (∀ configuration, answer (load path) volume = .ok configuration → ∃ schemaText sourcePath,
      Supplies volume path.parent (sourceIn (part "schema" value)) schemaText sourcePath ∧
        configuration = configurationIn volume path value schemaText sourcePath) ∧
    ∀ fault, answer (load path) volume = .error fault → IsRefused volume path value fault := by
  have hsettles := settles_ofValue hlegible htext.1 value
  rw [answer_load htext hvalue]
  exact ⟨hsettles.succeeds_iff, fun _ h => (hsettles.good_of_ok h).2,
    fun _ h => (hsettles.bad_of_error h).2⟩

/-! ### Two configurations -/

/-- A configuration whose snapshot is in a file of its own. -/
def siteText : String :=
  "schema:\n  path: snap.json\noutput:\n  path: ../site.ts\n" ++
    "computed_fields:\n  7:\n    - name: link\n      type: string\n"

/-- The value of `siteText`. -/
def siteValue : Value :=
  .mapping [(.text "schema", .mapping [(.text "path", .scalar (.text "snap.json"))]),
    (.text "output", .mapping [(.text "path", .scalar (.text "../site.ts"))]),
    (.text "computed_fields", .mapping [(.int 7, .list [.mapping [
      (.text "name", .scalar (.text "link")), (.text "type", .scalar (.text "string"))]])])]

/-- A volume with `siteText` and an empty snapshot in its working directory. -/
def siteVolume : Volume where
  working := ["site"]
  entries := [(["site"], .directory), (["site", "c.yaml"], .file siteText.toUTF8),
    (["site", "snap.json"], .file "[]".toUTF8)]

theorem isLegible_siteVolume : IsLegible siteVolume := by
  refine isLegible_of_entries fun pair hpair bytes hbytes => ?_
  simp only [siteVolume, List.mem_cons, List.not_mem_nil, or_false] at hpair
  rcases hpair with rfl | rfl | rfl
  · cases hbytes
  · exact Entry.file.inj hbytes ▸ siteText.isValidUTF8
  · exact Entry.file.inj hbytes ▸ String.isValidUTF8 "[]"

set_option maxRecDepth 10000 in
theorem ofText_siteText : Value.ofText depth siteText = .ok siteValue := by decide +kernel

theorem holdsText_siteVolume : HoldsText siteVolume ⟨.here, ["c.yaml"]⟩ siteText :=
  holdsText_of_find (by decide) rfl (by decide +kernel)

theorem isUsable_siteValue : IsUsable siteVolume ⟨.here, ["c.yaml"]⟩ siteValue where
  root := Or.inr ⟨_, rfl⟩
  schema := ⟨_, rfl⟩
  source := ⟨by decide, fun h => absurd h (by decide), fun _ => ⟨_, rfl⟩⟩
  snapshot := ⟨"[]", _, .file (holdsText_of_find (by decide) rfl (by decide)), by decide +kernel⟩
  output := ⟨Or.inr ⟨_, rfl⟩, Or.inr ⟨_, rfl⟩⟩
  computed := by
    refine ⟨Or.inr ⟨_, rfl⟩, List.forall_mem_singleton.2 ⟨_, rfl, ?_⟩⟩
    refine List.forall_mem_singleton.2 ⟨⟨_, rfl⟩, ⟨_, rfl, ?_⟩, ⟨_, rfl, ?_⟩, Or.inl rfl⟩
    · decide +kernel
    · decide +kernel
  generation := by
    refine ⟨Or.inl rfl, ⟨Or.inl rfl, fun name h => ?_⟩, fun key _ => Or.inl rfl⟩
    cases (show words? .null = none by decide).symm.trans h

theorem areNamed_siteValue : AreNamed (pairsOf (part "computed_fields" siteValue)) :=
  List.forall_mem_singleton.2 (hasName_int_iff.2 (by decide +kernel))

theorem areLocatable_siteValue : AreLocatable siteValue :=
  areLocatable_iff.2 ⟨by rintro _ ⟨⟩; decide, by rintro _ ⟨⟩; decide⟩

/-- The site's configuration is loaded. -/
theorem load_siteText :
    Succeeds (answer (load ⟨.here, ["c.yaml"]⟩) siteVolume : Except Fault Configuration) :=
  (load_accepts_exactly isLegible_siteVolume holdsText_siteVolume ofText_siteText).1.2
    ⟨isUsable_siteValue, areNamed_siteValue, areLocatable_siteValue⟩

/-- A value with computed fields for a collection whose name is a number of more than 4300
digits. -/
def numberedValue : Value :=
  .mapping [(.text "schema", .mapping [(.text "inline", .scalar (.text "[]"))]),
    (.text "computed_fields", .mapping [(.int (Int.ofNat (Nat.pow 16 3600)), .list [])])]

/-- **A usable configuration that is not loaded**: the name of a collection is too long to be
written out. -/
theorem ofValue_numberedValue :
    IsUsable siteVolume ⟨.here, ["c.yaml"]⟩ numberedValue ∧
      (answer (ofValue ⟨.here, ["c.yaml"]⟩ numberedValue) siteVolume :
        Except Fault Configuration) = .error .nameTooLong := by
  have husable : IsUsable siteVolume ⟨.here, ["c.yaml"]⟩ numberedValue := {
    root := Or.inr ⟨_, rfl⟩
    schema := ⟨_, rfl⟩
    source := ⟨by decide, fun _ => ⟨_, rfl⟩, fun h => absurd h (by decide)⟩
    snapshot := ⟨"[]", _, .inline "[]", by decide +kernel⟩
    output := ⟨Or.inl rfl, Or.inl rfl⟩
    computed := ⟨Or.inr ⟨_, rfl⟩, List.forall_mem_singleton.2 ⟨_, rfl, by simp⟩⟩
    generation := by
      refine ⟨Or.inl rfl, ⟨Or.inl rfl, fun name h => ?_⟩, fun key _ => Or.inl rfl⟩
      cases (show words? .null = none by decide).symm.trans h }
  -- all of its sections are as they should be, but for the length of one name
  have hunnamed : ¬ AreNamed (pairsOf (part "computed_fields" numberedValue)) := fun h =>
    absurd (hasName_int_iff.1 (h _ List.mem_cons_self)) (by decide +kernel)
  have hlocatable : AreLocatable numberedValue :=
    areLocatable_iff.2 ⟨by rintro _ ⟨⟩, by rintro _ ⟨⟩⟩
  have hsettles : Settles _ _ _
      (answer (ofValue ⟨.here, ["c.yaml"]⟩ numberedValue) siteVolume) :=
    settles_ofValue isLegible_siteVolume (by decide) numberedValue
  refine ⟨husable, ?_⟩
  -- of the faults that refuse a value just one is left
  cases h : (answer (ofValue ⟨.here, ["c.yaml"]⟩ numberedValue) siteVolume :
      Except Fault Configuration) with
  | ok configuration => exact absurd (hsettles.good_of_ok h).1.2.1 hunnamed
  | error fault =>
    cases (hsettles.bad_of_error h).2 with
    | unusable h => exact absurd husable h
    | unnamed => rfl
    | unlocated hwritten hfault =>
      obtain ⟨hfault⟩ := hfault
      cases (pathFault?_eq_none_iff.2 (hlocatable _ hwritten)).symm.trans hfault

end SchemaScribe.Settings
