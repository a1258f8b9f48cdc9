import SchemaScribe.Proofs.Settings.Acceptance
import SchemaScribe.Run

/-!
# Faults of loading that are not foreseen

Loading a configuration fails in a way that is not foreseen where bytes are no text, where a value
is written that is out of range, where a relative path cannot be passed to the disk, and where the
name of a collection is an integer of too many digits (`LoadsUnforeseen`, `escapes_load_iff`).
-/

namespace SchemaScribe.Settings

open Disk (answer IsQuiet)
open Yaml (Value Scalar)

variable {volume : Volume} {path base : Path} {value : Value} {α β : Type}

/-! ### Outcomes that escape -/

/-- **An outcome escapes**: it is a fault that is not foreseen. -/
def Escapes (x : Except Fault α) : Prop :=
  ∃ fault, x = .error fault ∧ (RunFault.settings fault).isForeseen = false

theorem isForeseen_of_isOwn {fault : Fault} (h : fault.IsOwn) :
    (RunFault.settings fault).isForeseen = true := by
  cases fault with
  | document fault => exact h
  | disk fault => cases h
  | nameTooLong => cases h
  | _ => rfl

theorem not_escapes_ok (a : α) : ¬ Escapes (.ok a : Except Fault α) := by
  rintro ⟨fault, ⟨⟩, -⟩

theorem escapes_error_iff {fault : Fault} :
    Escapes (.error fault : Except Fault α) ↔ (RunFault.settings fault).isForeseen = false := by
  simp [Escapes]

theorem not_escapes_of_isOwn {fault : Fault} (h : fault.IsOwn) :
    ¬ Escapes (.error fault : Except Fault α) := by
  rw [escapes_error_iff, isForeseen_of_isOwn h]
  simp

/-- A sequence escapes at its first step or after it. -/
theorem escapes_bind_iff {x : Except Fault α} {f : α → Except Fault β} :
    Escapes (x >>= f) ↔ Escapes x ∨ ∃ a, x = .ok a ∧ Escapes (f a) := by
  cases x with
  | error fault =>
    rw [error_bind, escapes_error_iff, escapes_error_iff]
    simp
  | ok a =>
    rw [ok_bind]
    simp [not_escapes_ok]

/-- After a step that fails with faults of the configuration alone, a sequence escapes where the
condition of the step holds. -/
theorem Settles.escapes_bind_iff {p : Prop} {a : α} {x : Except Fault α}
    (h : Settles p (· = a) Fault.IsOwn x) {f : α → Except Fault β} :
    Escapes (x >>= f) ↔ p ∧ Escapes (f a) := by
  cases h with
  | ok hp h =>
    subst h
    exact (and_iff_right hp).symm
  | error hp h => exact iff_of_false (not_escapes_of_isOwn h) fun h => hp h.1

/-! ### Files -/

/-- **A file at a path holds bytes that are no text.** -/
def HoldsNoText (volume : Volume) (path : Path) : Prop :=
  path.isPassable = true ∧ ∃ bytes, volume.find path = .ok (.file bytes) ∧ ¬ bytes.IsValidUTF8

theorem textAt_eq_ok_iff {absent : Fault} {text : String} :
    textAt volume absent path = .ok text ↔ HoldsText volume path text := by
  refine ⟨fun h => ?_, fun h => textAt_of_holdsText h absent⟩
  rcases textAt_cases volume path absent with
    ⟨other, hholds, hread⟩ | ⟨_, _, _, _, _, hread⟩ | ⟨_, hread | ⟨_, _, hread⟩⟩
  · cases hread.symm.trans h
    exact hholds
  · cases hread.symm.trans h
  · cases hread.symm.trans h
  · cases hread.symm.trans h

theorem escapes_textAt_iff {absent : Fault} (habsent : absent.IsOwn) :
    Escapes (textAt volume absent path) ↔ HoldsNoText volume path := by
  rcases textAt_cases volume path absent with
    ⟨text, ⟨-, bytes, hfind, htext⟩, hread⟩ | ⟨bytes, fault, hpath, hfind, hvalid, hread⟩ |
      ⟨hnone, h⟩
  · rw [hread]
    refine iff_of_false (not_escapes_ok text) ?_
    rintro ⟨-, other, hother, hvalid⟩
    cases hfind.symm.trans hother
    exact hvalid (succeeds_fileText_iff.1 ⟨text, htext⟩)
  · rw [hread]
    exact iff_of_true (escapes_error_iff.2 rfl) ⟨hpath, bytes, hfind, hvalid⟩
  · -- a refusal of the disk is foreseen, and so is it that nothing is there
    refine iff_of_false ?_ fun ⟨hpath, bytes, hfind, _⟩ => hnone hpath bytes hfind
    rcases h with hread | ⟨refusal, -, hread⟩
    · rw [hread]
      exact not_escapes_of_isOwn habsent
    · rw [hread, escapes_error_iff]
      simp [RunFault.isForeseen, DiskFault.isForeseen]

/-! ### The snapshot -/

theorem escapes_resolvePath_iff (hbase : base.isPassable = true) :
    Escapes (answer (resolvePath base path) volume) ↔ IsLost path := by
  by_cases hlost : IsLost path
  · obtain ⟨fault, hfault⟩ := exists_pathFault?_of_isLost hlost
    rw [answer_resolvePath hbase, hfault]
    exact iff_of_true (escapes_error_iff.2 rfl) hlost
  · rw [answer_resolvePath_of_not_isLost hbase hlost]
    exact iff_of_false (not_escapes_ok _) hlost

/-- The path of a source, if it has one, is not lost. -/
def Source.IsLocatable (source : Source) : Prop := ∀ path, source = .file path → ¬ IsLost path

theorem answer_readSource_file :
    answer (readSource base (.file path)) volume =
      answer (resolvePath base path) volume >>= fun place =>
        textAt volume (.snapshotNotFound place) place >>= fun text =>
          .ok (Text.ofString text, some place) := by
  rw [readSource_file, (isQuiet_resolvePath _ _).answer_bind]
  exact congrArg _ (funext fun place => answer_lookUp _ _ _)

theorem readSource_eq_ok_iff (hbase : base.isPassable = true) {source : Source}
    {found : Text × Option Path} :
    answer (readSource base source) volume = .ok found ↔
      source.IsLocatable ∧ Supplies volume base source found.1 found.2 := by
  cases source with
  | inline text =>
    constructor
    · intro h
      obtain rfl := Except.ok.inj h
      exact ⟨fun path hpath => (by cases hpath), .inline text⟩
    · rintro ⟨-, h⟩
      obtain ⟨schemaText, place⟩ := found
      cases h
      rfl
  | file path =>
    rw [answer_readSource_file]
    -- a path that cannot be resolved supplies nothing
    by_cases hlost : IsLost path
    · obtain ⟨fault, hfault⟩ := exists_pathFault?_of_isLost hlost
      rw [answer_resolvePath hbase, hfault]
      exact iff_of_false (fun h => by cases h) fun h => h.1 path rfl hlost
    · rw [answer_resolvePath_of_not_isLost hbase hlost, ok_bind, bind_eq_ok_iff, supplies_file_iff]
      constructor
      · rintro ⟨text, htext, h⟩
        obtain rfl := Except.ok.inj h
        exact ⟨fun other hother => Source.file.inj hother ▸ hlost, text,
          textAt_eq_ok_iff.1 htext, rfl, rfl⟩
      · rintro ⟨-, text, htext, hfound, hplace⟩
        exact ⟨text, textAt_eq_ok_iff.2 htext, congrArg Except.ok (Prod.ext hfound hplace).symm⟩

theorem escapes_readSource_iff (hbase : base.isPassable = true) {source : Source} :
    Escapes (answer (readSource base source) volume) ↔ ∃ path, source = .file path ∧
      (IsLost path ∨ ¬ IsLost path ∧ HoldsNoText volume (resolved volume base path)) := by
  cases source with
  | inline text =>
    refine iff_of_false (not_escapes_ok _) ?_
    rintro ⟨path, h, -⟩
    cases h
  | file path =>
    have hfile : (∃ other, Source.file path = .file other ∧ (IsLost other ∨
        ¬ IsLost other ∧ HoldsNoText volume (resolved volume base other))) ↔
        IsLost path ∨ ¬ IsLost path ∧ HoldsNoText volume (resolved volume base path) := by
      simp
    -- the path is resolved first, and then what lies there is read
    rw [answer_readSource_file, hfile, escapes_bind_iff, escapes_resolvePath_iff hbase]
    refine or_congr_right' fun hlost => ?_
    have habsent : Fault.IsOwn (.snapshotNotFound (resolved volume base path)) := trivial
    rw [answer_resolvePath_of_not_isLost hbase hlost, and_iff_right hlost,
      ← escapes_textAt_iff habsent]
    constructor
    · rintro ⟨_, ⟨⟩, h⟩
      exact (escapes_bind_iff.1 h).resolve_right fun ⟨_, _, h⟩ => not_escapes_ok _ h
    · intro h
      exact ⟨_, rfl, escapes_bind_iff.2 (Or.inl h)⟩

/-! ### The other sections -/

theorem escapes_outputPlace_iff (hbase : base.isPassable = true) {given : Option Text} :
    Escapes (answer (outputPlace base given) volume) ↔
      ∃ text, given = some text ∧ IsLost (.ofText text) := by
  cases given with
  | none =>
    refine iff_of_false (not_escapes_ok none) ?_
    rintro ⟨text, h, -⟩
    cases h
  | some text =>
    have hsome : (∃ other, some text = some other ∧ IsLost (.ofText other)) ↔
        IsLost (.ofText text) := by simp
    rw [hsome, outputPlace, map_eq_pure_bind, (isQuiet_resolvePath _ _).answer_bind,
      escapes_bind_iff, escapes_resolvePath_iff hbase, or_iff_left]
    rintro ⟨place, -, h⟩
    exact not_escapes_ok _ h

theorem succeeds_outputPlace (hbase : base.isPassable = true) {given : Option Text}
    (h : ¬ ∃ text, given = some text ∧ IsLost (.ofText text)) :
    ∃ place, answer (outputPlace base given) volume = .ok place := by
  cases given with
  | none => exact ⟨none, rfl⟩
  | some text =>
    have hlost : ¬ IsLost (.ofText text) := fun hlost => h ⟨text, rfl, hlost⟩
    rw [outputPlace, map_eq_pure_bind, (isQuiet_resolvePath _ _).answer_bind,
      answer_resolvePath_of_not_isLost hbase hlost]
    exact ⟨_, rfl⟩

/-- **The first pair of computed fields that is at fault has a key without a name.** -/
def HasLongName (pairs : List (Scalar × Value)) : Prop :=
  ∃ before key value after, pairs = before ++ (key, value) :: after ∧
    (∀ pair ∈ before, HasName pair.1 ∧ IsEntryList pair.2) ∧ ¬ HasName key

theorem hasLongName_cons_iff {key : Scalar} {value : Value} {rest : List (Scalar × Value)} :
    HasLongName ((key, value) :: rest) ↔
      ¬ HasName key ∨ HasName key ∧ IsEntryList value ∧ HasLongName rest := by
  constructor
  · rintro ⟨before, key', value', after, hpairs, hbefore, hkey⟩
    cases before with
    | nil =>
      obtain ⟨rfl, -⟩ := Prod.mk.inj (List.cons.inj hpairs).1
      exact Or.inl hkey
    | cons first before =>
      obtain ⟨rfl, rfl⟩ := List.cons.inj hpairs
      obtain ⟨hfirst, hbefore⟩ := List.forall_mem_cons.1 hbefore
      exact Or.inr ⟨hfirst.1, hfirst.2, before, key', value', after, rfl, hbefore, hkey⟩
  · rintro (hkey | ⟨hkey, hlist, before, key', value', after, rfl, hbefore, hkey'⟩)
    · exact ⟨[], key, value, rest, rfl, by simp, hkey⟩
    · exact ⟨(key, value) :: before, key', value', after, rfl,
        List.forall_mem_cons.2 ⟨⟨hkey, hlist⟩, hbefore⟩, hkey'⟩

theorem not_hasLongName_nil : ¬ HasLongName [] := by
  rintro ⟨before, key, value, after, hpairs, -⟩
  simp at hpairs

theorem escapes_computedEntries_iff {made : Association Text (List ComputedField)}
    {pairs : List (Scalar × Value)} :
    Escapes (computedEntries made pairs) ↔ HasLongName pairs := by
  induction pairs generalizing made with
  | nil => exact iff_of_false (not_escapes_ok _) not_hasLongName_nil
  | cons pair rest ih =>
    obtain ⟨key, value⟩ := pair
    rw [computedEntries, hasLongName_cons_iff]
    cases hkey : key.display? with
    | none =>
      have hname := display?_eq_none_iff.1 hkey
      exact iff_of_true (escapes_error_iff.2 rfl) (Or.inl hname)
    | some name =>
      have hname : HasName key := hasName_of_display?_eq_some hkey
      rw [or_iff_right (not_not.2 hname), and_iff_right hname]
      dsimp only
      cases hitems : items? value with
      | none =>
        -- an entry that is no list is refused before the keys behind it are named
        refine iff_of_false (not_escapes_of_isOwn trivial) ?_
        rintro ⟨⟨items, hsome, -⟩, -⟩
        rw [hitems] at hsome
        cases hsome
      | some items =>
        have hlist : (∀ item ∈ items, IsEntry item) ↔ IsEntryList value := by
          simp [IsEntryList, hitems]
        exact (settles_computedList _ 0 items).escapes_bind_iff.trans (and_congr hlist ih)

theorem escapes_computedFields_iff :
    Escapes (computedFields value) ↔ HasLongName (pairsOf value) := by
  unfold computedFields
  split
  · exact iff_of_false (not_escapes_ok _) not_hasLongName_nil
  · rw [(settles_requireMapping _ value).escapes_bind_iff, escapes_computedEntries_iff]
    refine and_iff_right_of_imp fun h => ?_
    -- only a mapping has pairs
    cases value with
    | mapping pairs => exact ⟨pairs, rfl⟩
    | _ => exact absurd h not_hasLongName_nil

/-- The path of the output cannot be located. -/
def LosesOutput (value : Value) : Prop :=
  ∃ text, words? (part "path" (part "output" value)) = some text ∧ IsLost (.ofText text)

/-- After the output, the computed fields alone may escape. -/
theorem escapes_ofOutput_iff {configuration : Options → Configuration} :
    Escapes (do
        let computed ← computedFields (part "computed_fields" value)
        let options ← generation computed (part "generation" value)
        pure (configuration options)) ↔
      HasLongName (pairsOf (part "computed_fields" value)) := by
  rw [escapes_bind_iff, escapes_computedFields_iff, or_iff_left]
  rintro ⟨computed, -, h⟩
  exact not_escapes_ok _ ((settles_generation computed _).escapes_bind_iff.1 h).2

theorem escapes_ofSnapshot_iff (hbase : base.isPassable = true)
    {configuration : Option Path → Options → Configuration} :
    Escapes (do
        let given ← outputText (part "output" value)
        let outputPath ← answer (outputPlace base given) volume
        let computed ← computedFields (part "computed_fields" value)
        let options ← generation computed (part "generation" value)
        pure (configuration outputPath options)) ↔
      IsOutput (part "output" value) ∧ (LosesOutput value ∨
        ¬ LosesOutput value ∧ HasLongName (pairsOf (part "computed_fields" value))) := by
  rw [(settles_outputText _).escapes_bind_iff, escapes_bind_iff, escapes_outputPlace_iff hbase]
  refine and_congr_right fun _ => or_congr_right' fun hlost => ?_
  constructor
  · rintro ⟨place, -, h⟩
    exact ⟨hlost, escapes_ofOutput_iff.1 h⟩
  · rintro ⟨-, h⟩
    obtain ⟨place, hplace⟩ := succeeds_outputPlace hbase hlost
    exact ⟨place, hplace, escapes_ofOutput_iff.2 h⟩

theorem escapes_ofValue_iff (hpath : path.isPassable = true) :
    Escapes (answer (ofValue path value) volume) ↔
      MayBe IsMapping value ∧
        (IsMapping (part "schema" value) ∧ NamesSource (part "schema" value)) ∧
        ((∃ snapshot, sourceIn (part "schema" value) = .file snapshot ∧ (IsLost snapshot ∨
            ¬ IsLost snapshot ∧ HoldsNoText volume (resolved volume path.parent snapshot))) ∨
          ∃ found : Text × Option Path, ((sourceIn (part "schema" value)).IsLocatable ∧
              Supplies volume path.parent (sourceIn (part "schema" value)) found.1 found.2) ∧
            Text.trim found.1 ≠ "" ∧ IsOutput (part "output" value) ∧ (LosesOutput value ∨
              ¬ LosesOutput value ∧ HasLongName (pairsOf (part "computed_fields" value)))) := by
  have hbase : path.parent.isPassable = true := Path.isPassable_parent hpath
  have hblank (text : Text) :
      Settles (Text.trim text ≠ "") (· = ()) Fault.IsOwn (requireSnapshot text) :=
    (settles_requireSnapshot text).imp Iff.rfl (fun _ _ _ => rfl) fun _ _ h => h
  -- each step that cannot escape only adds its condition
  rw [answer_ofValue, (settles_sections value).escapes_bind_iff]
  refine and_congr_right fun _ => ?_
  refine (settles_source (part "schema" value)).escapes_bind_iff.trans ?_
  refine and_congr_right fun _ => ?_
  rw [escapes_bind_iff, escapes_readSource_iff hbase]
  refine or_congr_right (exists_congr fun found => ?_)
  rw [readSource_eq_ok_iff hbase, (hblank found.1).escapes_bind_iff]
  exact and_congr_right fun _ => and_congr_right fun _ => escapes_ofSnapshot_iff hbase

/-! ### Configurations -/

/-- **A configuration is read and names its snapshot**: its file holds a text, and the value of that
is a mapping with a proper schema section. -/
structure NamesSnapshot (volume : Volume) (path : Path) (value : Value) (source : Source) :
    Prop where
  read : ∃ text, HoldsText volume path text ∧ Value.ofText depth text = .ok value
  root : MayBe IsMapping value
  schema : IsMapping (part "schema" value)
  names : NamesSource (part "schema" value)
  source : source = sourceIn (part "schema" value)

/-- **A configuration has its snapshot**, and its output section is what it has to be. -/
structure HasSnapshot (volume : Volume) (path : Path) (value : Value) : Prop where
  named : ∃ source, NamesSnapshot volume path value source ∧ source.IsLocatable ∧
    ∃ text place, Supplies volume path.parent source text place ∧ Text.trim text ≠ ""
  output : IsOutput (part "output" value)

/-- **The ways in which loading fails that are not foreseen.** -/
inductive LoadsUnforeseen (volume : Volume) (path : Path) : Prop
  /-- The configuration is no text. -/
  | bytes (h : HoldsNoText volume path)
  /-- The text of the configuration has a value that is out of range. -/
  | document {text : String} {fault : Yaml.Fault} (h : HoldsText volume path text)
    (hfault : Value.ofText depth text = .error fault)
    (hmalformed : fault.isMalformed = false)
  /-- The path of the snapshot is lost. -/
  | lostSnapshot {value : Value} {snapshot : Path}
    (h : NamesSnapshot volume path value (.file snapshot)) (hlost : IsLost snapshot)
  /-- The snapshot is no text. -/
  | snapshotBytes {value : Value} {snapshot : Path}
    (h : NamesSnapshot volume path value (.file snapshot)) (hlost : ¬ IsLost snapshot)
    (hbytes : HoldsNoText volume (resolved volume path.parent snapshot))
  /-- The path of the output is lost. -/
  | lostOutput {value : Value} (h : HasSnapshot volume path value) (hlost : LosesOutput value)
  /-- A collection of the computed fields has a name of too many digits. -/
  | longName {value : Value} (h : HasSnapshot volume path value) (hlost : ¬ LosesOutput value)
    (hname : HasLongName (pairsOf (part "computed_fields" value)))

/-- A value that was read escapes where its snapshot, its output or its computed fields do. -/
theorem loadsUnforeseen_of_ofValue {text : String} (htext : HoldsText volume path text)
    (hvalue : Value.ofText depth text = .ok value)
    (h : Escapes (answer (ofValue path value) volume)) : LoadsUnforeseen volume path := by
  obtain ⟨hroot, ⟨hschema, hsource⟩, h⟩ := (escapes_ofValue_iff htext.1).1 h
  have hnames : NamesSnapshot volume path value (sourceIn (part "schema" value)) :=
    ⟨⟨text, htext, hvalue⟩, hroot, hschema, hsource, rfl⟩
  rcases h with ⟨snapshot, hfile, h⟩ | ⟨found, ⟨hlocatable, hfound⟩, hblank, houtput, h⟩
  · rw [hfile] at hnames
    exact h.elim (.lostSnapshot hnames) fun h => .snapshotBytes hnames h.1 h.2
  · have hsnapshot : HasSnapshot volume path value :=
      ⟨⟨_, hnames, hlocatable, found.1, found.2, hfound, hblank⟩, houtput⟩
    exact h.elim (.lostOutput hsnapshot) fun h => .longName hsnapshot h.1 h.2

theorem NamesSnapshot.isPassable {source : Source} (h : NamesSnapshot volume path value source) :
    path.isPassable = true := by
  obtain ⟨text, htext, -⟩ := h.read
  exact htext.1

theorem escapes_ofValue_of_namesSnapshot {snapshot : Path}
    (h : NamesSnapshot volume path value (.file snapshot))
    (hescapes : IsLost snapshot ∨
      ¬ IsLost snapshot ∧ HoldsNoText volume (resolved volume path.parent snapshot)) :
    Escapes (answer (ofValue path value) volume) :=
  (escapes_ofValue_iff h.isPassable).2
    ⟨h.root, ⟨h.schema, h.names⟩, Or.inl ⟨snapshot, h.source.symm, hescapes⟩⟩

theorem escapes_ofValue_of_hasSnapshot
    (h : HasSnapshot volume path value) (hescapes : LosesOutput value ∨
      ¬ LosesOutput value ∧ HasLongName (pairsOf (part "computed_fields" value))) :
    Escapes (answer (ofValue path value) volume) := by
  obtain ⟨⟨source, hnames, hlocatable, text, place, hfound, hblank⟩, houtput⟩ := h
  rw [hnames.source] at hlocatable hfound
  exact (escapes_ofValue_iff hnames.isPassable).2 ⟨hnames.root,
    ⟨hnames.schema, hnames.names⟩,
    Or.inr ⟨(text, place), ⟨hlocatable, hfound⟩, hblank, houtput, hescapes⟩⟩

/-- **Loading escapes in these ways, and in no others.** -/
theorem escapes_load_iff :
    Escapes (answer (load path) volume) ↔ LoadsUnforeseen volume path := by
  have hload : Escapes (answer (load path) volume) ↔ HoldsNoText volume path ∨
      ∃ text, HoldsText volume path text ∧
        Escapes ((Value.ofText depth text).mapError Fault.document >>= fun value =>
          answer (ofValue path value) volume) := by
    rw [answer_load_eq, escapes_bind_iff,
      escapes_textAt_iff (show Fault.IsOwn (.notFound path) from trivial)]
    exact or_congr_right (exists_congr fun text => and_congr_left' textAt_eq_ok_iff)
  -- a value that escapes was read from the text of the file
  have hvalue {value : Value} (hnames : ∃ source, NamesSnapshot volume path value source)
      (h : Escapes (answer (ofValue path value) volume)) :
      Escapes (answer (load path) volume) := by
    obtain ⟨source, hnames⟩ := hnames
    obtain ⟨text, htext, hread⟩ := hnames.read
    refine hload.2 (Or.inr ⟨text, htext, ?_⟩)
    rw [hread]
    exact h
  constructor
  · rw [hload]
    rintro (h | ⟨text, htext, h⟩)
    · exact .bytes h
    · cases hread : Value.ofText depth text with
      | error fault =>
        rw [hread] at h
        have hstray : fault.isMalformed = false := escapes_error_iff.1 h
        exact .document htext hread hstray
      | ok value =>
        rw [hread] at h
        exact loadsUnforeseen_of_ofValue htext hread h
  · rintro (h | ⟨htext, hfault, hstray⟩ | ⟨h, hlost⟩ | ⟨h, hlost, hbytes⟩ | ⟨h, hlost⟩ |
      ⟨h, hlost, hname⟩)
    · exact hload.2 (Or.inl h)
    · refine hload.2 (Or.inr ⟨_, htext, ?_⟩)
      rw [hfault]
      exact escapes_error_iff.2 hstray
    · exact hvalue ⟨_, h⟩ (escapes_ofValue_of_namesSnapshot h (Or.inl hlost))
    · exact hvalue ⟨_, h⟩ (escapes_ofValue_of_namesSnapshot h (Or.inr ⟨hlost, hbytes⟩))
    · obtain ⟨source, hnames, -⟩ := h.named
      exact hvalue ⟨_, hnames⟩ (escapes_ofValue_of_hasSnapshot h (Or.inl hlost))
    · obtain ⟨source, hnames, -⟩ := h.named
      exact hvalue ⟨_, hnames⟩ (escapes_ofValue_of_hasSnapshot h (Or.inr ⟨hlost, hname⟩))

end SchemaScribe.Settings
