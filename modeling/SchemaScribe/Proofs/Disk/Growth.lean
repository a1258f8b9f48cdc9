import SchemaScribe.Proofs.Disk.Answer
import SchemaScribe.Proofs.Disk.Path

/-!
# What making directories and files changes

A path that can be followed leads to the place that its normal form names (`placeOf_eq`).  Making
the missing directories of a path adds directories where the path passes through and changes nothing
else, whether it succeeds or not (`addsDirectories_makeDirectories`).  Writing a file changes the
place that its path leads to, and nothing if it fails.
-/

namespace SchemaScribe

/-! ### Places -/

namespace Volume

variable {volume : Volume} {path : Path}

/-- **The working directory is there**, and it is named from the root by proper names. -/
structure IsProper (volume : Volume) : Prop where
  undotted : (".." : Text) ∉ volume.working
  present : volume.entryAt? volume.working = some .directory

theorem follow_eq {place q : Place} {names : List Text} (h : volume.follow place names = .ok q) :
    q = (Path.walkBack place.reverse names).reverse := by
  induction names generalizing place with
  | nil =>
    obtain rfl := Except.ok.inj h
    rw [Path.walkBack, List.reverse_reverse]
  | cons name rest ih =>
    rw [follow] at h
    split at h
    · cases h
    · cases h
    · split at h
      · cases h
      · -- a place ends in the name that was walked last, which comes first in the walk
        rw [ih h, Path.walkBack]
        split <;> simp

/-- Names that can be followed from where a path starts lead to the place of its normal form. -/
theorem normalize_of_follow (hworking : (".." : Text) ∉ volume.working) {place : Place}
    (h : volume.follow (if path.isAbsolute then [] else volume.working) path.names = .ok place) :
    place = (path.normalize volume.working).names := by
  rw [follow_eq h, Path.normalize, Path.namesFromRoot]
  split
  · rfl
  · exact (Path.withoutDots_append _ _ hworking).symm

/-- **A path that can be followed leads to the place of its normal form.** -/
theorem placeOf_eq (hworking : (".." : Text) ∉ volume.working) {place : Place}
    (h : volume.placeOf path = .ok place) : place = (path.normalize volume.working).names := by
  rw [placeOf] at h
  split at h
  · cases h
  · exact normalize_of_follow hworking h

theorem entryAt?_put_self {place : Place} (h : place ≠ []) (entry : Entry) :
    (volume.put place entry).entryAt? place = some entry := by
  rw [entryAt?, if_neg h, put, Association.get?_put_self]

theorem entryAt?_put_of_ne {place other : Place} (h : other ≠ place) (entry : Entry) :
    (volume.put place entry).entryAt? other = volume.entryAt? other := by
  rw [entryAt?, entryAt?, put, Association.get?_put_of_ne h]

theorem ne_nil_of_entryAt?_ne {place : Place} (h : volume.entryAt? place ≠ some .directory) :
    place ≠ [] := by
  rintro rfl
  exact h rfl

theorem makeDirectory_eq_ok_iff {next : Volume} :
    volume.makeDirectory path = .ok next ↔
      ∃ place, volume.placeOf path = .ok place ∧ volume.entryAt? place = none ∧
        next = volume.put place .directory := by
  rw [makeDirectory, bind_eq_ok_iff]
  refine exists_congr fun place => and_congr_right fun _ => ?_
  cases volume.entryAt? place with
  | none => exact pure_eq_ok_iff.trans (by simp [eq_comm])
  | some entry => exact iff_of_false (by intro h; cases h) (by simp)

theorem write_eq_ok_iff {bytes : ByteArray} {next : Volume} :
    volume.write path bytes = .ok next ↔
      ∃ place, volume.placeOf path = .ok place ∧ volume.entryAt? place ≠ some .directory ∧
        next = volume.put place (.file bytes) := by
  rw [write, bind_eq_ok_iff]
  refine exists_congr fun place => and_congr_right fun _ => ?_
  cases volume.entryAt? place with
  | none => exact pure_eq_ok_iff.trans (by simp [eq_comm])
  | some entry =>
    cases entry with
    | file _ => exact pure_eq_ok_iff.trans (by simp [eq_comm])
    | directory => exact iff_of_false (by intro h; cases h) (by simp)

/-- A written file lies at the place that its path leads to, and nothing else is changed. -/
theorem entryAt?_of_write (hworking : (".." : Text) ∉ volume.working) {bytes : ByteArray}
    {next : Volume}
    (h : volume.write path bytes = .ok next) :
    next.working = volume.working ∧
      next.entryAt? (path.normalize volume.working).names = some (.file bytes) ∧
      ∀ other, other ≠ (path.normalize volume.working).names →
        next.entryAt? other = volume.entryAt? other := by
  obtain ⟨place, hplace, hentry, rfl⟩ := write_eq_ok_iff.1 h
  rw [← placeOf_eq hworking hplace]
  exact ⟨rfl, entryAt?_put_self (ne_nil_of_entryAt?_ne hentry) _,
    fun _ hne => entryAt?_put_of_ne hne _⟩

/-! ### Growth -/

/-- **Directories were added at some of the given places**, and nothing else was changed. -/
structure AddsDirectories (places : Place → Prop) (before after : Volume) : Prop where
  working : after.working = before.working
  entry : ∀ place, after.entryAt? place = before.entryAt? place ∨
    places place ∧ before.entryAt? place = none ∧ after.entryAt? place = some .directory

theorem AddsDirectories.refl (places : Place → Prop) (volume : Volume) :
    AddsDirectories places volume volume :=
  ⟨rfl, fun _ => Or.inl rfl⟩

theorem AddsDirectories.trans {places : Place → Prop} {first second third : Volume}
    (h : AddsDirectories places first second) (h' : AddsDirectories places second third) :
    AddsDirectories places first third := by
  refine ⟨h'.working.trans h.working, fun place => ?_⟩
  rcases h'.entry place with hkept | ⟨hplace, hnone, hadded⟩
  · rw [hkept]
    exact h.entry place
  · -- a directory that came later was not there after the first step
    rcases h.entry place with hkept | ⟨-, -, hadded'⟩
    · exact Or.inr ⟨hplace, hkept ▸ hnone, hadded⟩
    · rw [hadded'] at hnone
      cases hnone

theorem AddsDirectories.imp {places places' : Place → Prop} {before after : Volume}
    (h : AddsDirectories places before after) (himp : ∀ place, places place → places' place) :
    AddsDirectories places' before after :=
  ⟨h.working, fun place => (h.entry place).imp_right fun ⟨hplace, hrest⟩ => ⟨himp _ hplace, hrest⟩⟩

/-- **A file is put at a place**: it lies there afterwards, and nothing else is changed but for
directories that were added at some of the given places. -/
structure Puts (places : Place → Prop) (place : Place) (bytes : ByteArray)
    (before after : Volume) : Prop where
  file : after.entryAt? place = some (.file bytes)
  others : ∀ other, other ≠ place → after.entryAt? other = before.entryAt? other ∨
    places other ∧ before.entryAt? other = none ∧ after.entryAt? other = some .directory

/-- **The files are the same before and after**, with the same bytes at the same places. -/
def KeepsFiles (before after : Volume) : Prop :=
  ∀ place bytes,
    after.entryAt? place = some (.file bytes) ↔ before.entryAt? place = some (.file bytes)

theorem KeepsFiles.refl (volume : Volume) : KeepsFiles volume volume := fun _ _ => Iff.rfl

theorem iff_of_kept_or_added {places : Place → Prop} {before after : Volume} {place : Place}
    (h : after.entryAt? place = before.entryAt? place ∨
      places place ∧ before.entryAt? place = none ∧ after.entryAt? place = some .directory)
    (bytes : ByteArray) :
    after.entryAt? place = some (.file bytes) ↔ before.entryAt? place = some (.file bytes) := by
  rcases h with h | ⟨-, hnone, hadded⟩
  · rw [h]
  · rw [hnone, hadded]
    exact iff_of_false (by simp) (by simp)

/-- Directories that are added change no file. -/
theorem AddsDirectories.keepsFiles {places : Place → Prop} {before after : Volume}
    (h : AddsDirectories places before after) : KeepsFiles before after :=
  fun place => iff_of_kept_or_added (h.entry place)

/-- A file that is put changes no file just if it was there before. -/
theorem Puts.keepsFiles_iff {places : Place → Prop} {place : Place} {bytes : ByteArray}
    {before after : Volume} (h : Puts places place bytes before after) :
    KeepsFiles before after ↔ before.entryAt? place = some (.file bytes) := by
  constructor
  · exact fun hkeeps => (hkeeps place bytes).1 h.file
  · intro hbefore other bytes'
    by_cases hother : other = place
    · rw [hother, h.file, hbefore]
    · exact iff_of_kept_or_added (h.others other hother) bytes'

/-! ### Changes as actions -/

theorem run_change_of_ok {step : Volume → Except Refusal Volume} {next : Volume}
    (h : step volume = .ok next) : (change step).run volume = (.ok (), next) := by
  simp only [change, StateT.run_bind, StateT.run_get, pure_bind, h]
  rfl

theorem run_change_of_error {step : Volume → Except Refusal Volume} {refusal : Refusal}
    (h : step volume = .error refusal) : (change step).run volume = (.error refusal, volume) := by
  simp only [change, StateT.run_bind, StateT.run_get, pure_bind, h]
  rfl

end Volume

namespace Disk

open Volume (AddsDirectories)

variable {path : Path} {volume : Volume}

theorem after_makeDirectory (hworking : (".." : Text) ∉ volume.working) :
    AddsDirectories (path.Passes volume.working) volume
      (after (liftM (makeDirectory path : StateM Volume _) : ExceptT DiskFault (StateM Volume) _)
        volume) := by
  rw [after_lift]
  cases h : volume.makeDirectory path with
  | error refusal =>
    have hrun : (makeDirectory path : StateM Volume _).run volume = (.error refusal, volume) :=
      Volume.run_change_of_error h
    rw [hrun]
    exact .refl _ _
  | ok next =>
    have hrun : (makeDirectory path : StateM Volume _).run volume = (.ok (), next) :=
      Volume.run_change_of_ok h
    obtain ⟨place, hplace, hnone, rfl⟩ := Volume.makeDirectory_eq_ok_iff.1 h
    rw [hrun]
    refine ⟨rfl, fun other => ?_⟩
    by_cases hother : other = place
    · -- the new directory is where the path ends
      subst hother
      have hne : other ≠ [] := Volume.ne_nil_of_entryAt?_ne (by rw [hnone]; simp)
      refine Or.inr ⟨?_, hnone, Volume.entryAt?_put_self hne _⟩
      rw [Volume.placeOf_eq hworking hplace]
      exact Path.passes_end _ _
    · exact Or.inl (Volume.entryAt?_put_of_ne hother _)

/-- Making one directory adds it where its path ends, if at all. -/
theorem addsDirectories_makeOne (path : Path) (hworking : (".." : Text) ∉ volume.working) :
    AddsDirectories (path.Passes volume.working) volume
      (after (makeOne path : ExceptT DiskFault (StateM Volume) _) volume) := by
  rw [makeOne]
  split
  · exact .refl _ _
  · dsimp only
    rw [after_bind_of_isQuiet]
    · exact after_makeDirectory hworking
    · rintro (refusal | _)
      · dsimp only
        split
        · exact fun _ => rfl
        · refine isQuiet_find?.bind fun found => ?_
          split
          · exact isQuiet_pure _
          · exact isQuiet_throw _
      · exact isQuiet_pure _

theorem addsDirectories_makeAbove (hworking : (".." : Text) ∉ volume.working) (fuel : Nat) :
    AddsDirectories (path.Passes volume.working) volume
      (after (makeAbove fuel path : ExceptT DiskFault (StateM Volume) _) volume) := by
  induction fuel generalizing path volume with
  | zero => exact addsDirectories_makeOne path hworking
  | succ fuel ih =>
    rw [makeAbove]
    have hfirst := addsDirectories_makeOne path hworking
    cases h : answer (makeOne path : ExceptT DiskFault (StateM Volume) _) volume with
    | ok _ =>
      rw [after, run_tryCatch_of_ok h]
      exact hfirst
    | error fault =>
      rw [after, run_tryCatch_of_error h, ← after]
      -- the directories above are made first, which the path passes through as well
      have hparent : AddsDirectories (path.Passes volume.working) volume
          (after (makeAbove fuel path.parent) (after (makeOne path) volume)) := by
        have hnext := @ih path.parent _ (hfirst.working ▸ hworking)
        rw [hfirst.working] at hnext
        exact hfirst.trans (hnext.imp fun _ => Path.Passes.of_parent)
      split
      · cases hp : answer (makeAbove fuel path.parent : ExceptT DiskFault (StateM Volume) _)
          (after (makeOne path) volume) with
        | ok _ =>
          -- and then the directory itself is tried again
          rw [after_bind_of_ok hp]
          have hlast := addsDirectories_makeOne path (hparent.working ▸ hworking)
          rw [hparent.working] at hlast
          exact hparent.trans hlast
        | error fault =>
          rw [after_bind_of_error hp]
          exact hparent
      · exact hfirst

/-- **Making a directory with those above it** adds directories where the path passes through, and
changes nothing else. -/
theorem addsDirectories_makeDirectories (hworking : (".." : Text) ∉ volume.working) :
    AddsDirectories (path.Passes volume.working) volume
      (after (makeDirectories path : ExceptT DiskFault (StateM Volume) _) volume) :=
  addsDirectories_makeAbove hworking _

/-! ### Faults -/

/-- **Why directories cannot be made**: the path cannot be passed, or the disk refuses. -/
inductive BarsPath (path : Path) : DiskFault → Prop
  | name {fault : NameFault} (h : path.isPassable = false) : BarsPath path (.name fault)
  | refused (refusal : Refusal) (place : Path) : BarsPath path (.refused refusal place)

theorem BarsPath.of_parent {fault : DiskFault} (h : BarsPath path.parent fault) :
    BarsPath path fault := by
  cases h with
  | refused refusal place => exact .refused refusal place
  | name h =>
    refine .name (Bool.eq_false_iff.2 fun hpath => ?_)
    cases (Path.isPassable_parent hpath).symm.trans h

theorem failsWith_find? (path : Path) :
    FailsWith (BarsPath path) (find? path : ExceptT DiskFault (StateM Volume) _) := by
  rw [find?]
  split
  · exact .pure _
  · refine (FailsWith.lift _).bind fun found => ?_
    cases found with
    | ok kind => exact .pure _
    | error refusal =>
      dsimp only
      split
      · exact .pure _
      · exact .throw (.refused _ _)

theorem failsWith_makeOne (path : Path) :
    FailsWith (BarsPath path) (makeOne path : ExceptT DiskFault (StateM Volume) _) := by
  rw [makeOne]
  split
  · next fault hfault =>
    refine .throw (.name (Bool.eq_false_iff.2 fun hpath => ?_))
    cases (Path.fault?_eq_none_iff.2 hpath).symm.trans hfault
  · refine (FailsWith.lift _).bind fun made => ?_
    cases made with
    | ok _ => exact .pure _
    | error refusal =>
      dsimp only
      split
      · exact .throw (.refused _ _)
      · refine (failsWith_find? path).bind fun found => ?_
        split
        · exact .pure _
        · exact .throw (.refused _ _)

/-- Directories are not made for such reasons alone. -/
theorem failsWith_makeAbove (fuel : Nat) (path : Path) :
    FailsWith (BarsPath path) (makeAbove fuel path : ExceptT DiskFault (StateM Volume) _) := by
  induction fuel generalizing path with
  | zero => exact failsWith_makeOne path
  | succ fuel ih =>
    rw [makeAbove]
    refine FailsWith.tryCatch (fun fault hfault => ?_) (failsWith_makeOne path)
    split
    · have habove : FailsWith (BarsPath path) (makeAbove fuel path.parent :
          ExceptT DiskFault (StateM Volume) _) :=
        fun volume fault h => (ih path.parent volume fault h).of_parent
      exact habove.bind fun _ => failsWith_makeOne path
    · exact .throw hfault

/-- No directory is made for a path that cannot be passed. -/
theorem answer_makeDirectories_of_fault {fault : NameFault} (h : path.fault? = some fault) :
    answer (makeDirectories path : ExceptT DiskFault (StateM Volume) _) volume =
      .error (.name fault) := by
  have hone : answer (makeOne path : ExceptT DiskFault (StateM Volume) _) volume =
      .error (.name fault) := by
    rw [makeOne, h]
    rfl
  rw [makeDirectories]
  cases path.names.length with
  | zero => exact hone
  | succ fuel =>
    rw [makeAbove, answer, run_tryCatch_of_error hone]
    rfl

/-! ### Writing -/

/-- The bytes that writing a text puts in a file: none where the text cannot be encoded. -/
def bytesOf (text : Text) : ByteArray := (Text.Utf8.encode text).toOption.getD .empty

/-- **What writing a text comes to**, and what it leaves behind.  The file is opened before the text
is encoded, so a text that cannot be encoded leaves the file empty. -/
inductive WritesText (path : Path) (text : Text) (volume : Volume) :
    Except DiskFault Unit → Volume → Prop
  | unpassed {fault : NameFault} (hfault : path.fault? = some fault) :
    WritesText path text volume (.error (.name fault)) volume
  | refused {refusal : Refusal} (hpath : path.isPassable = true)
    (hwrite : volume.write path (bytesOf text) = .error refusal) :
    WritesText path text volume (.error (.refused refusal path)) volume
  | emptied {cause : Text.Utf8.EncodeFault} {next : Volume} (hpath : path.isPassable = true)
    (hcause : Text.Utf8.encode text = .error cause)
    (hwrite : volume.write path .empty = .ok next) :
    WritesText path text volume (.error (.notEncoded cause)) next
  | written {bytes : ByteArray} {next : Volume} (hpath : path.isPassable = true)
    (hbytes : Text.Utf8.encode text = .ok bytes) (hwrite : volume.write path bytes = .ok next) :
    WritesText path text volume (.ok ()) next

theorem run_writeBytes_of_fault {fault : NameFault} (h : path.fault? = some fault)
    (bytes : ByteArray) :
    (writeBytes path bytes : ExceptT DiskFault (StateM Volume) _).run.run volume =
      (.error (.name fault), volume) := by
  rw [writeBytes, ask, h]
  rfl

theorem run_writeBytes_of_error (hpath : path.isPassable = true) {bytes : ByteArray}
    {refusal : Refusal} (h : volume.write path bytes = .error refusal) :
    (writeBytes path bytes : ExceptT DiskFault (StateM Volume) _).run.run volume =
      (.error (.refused refusal path), volume) := by
  have hrun : (write path bytes : StateM Volume _).run volume = (.error refusal, volume) :=
    Volume.run_change_of_error h
  rw [writeBytes, ask, Path.fault?_eq_none_iff.2 hpath]
  exact run_lift_bind_of_run hrun _

theorem run_writeBytes_of_ok (hpath : path.isPassable = true) {bytes : ByteArray} {next : Volume}
    (h : volume.write path bytes = .ok next) :
    (writeBytes path bytes : ExceptT DiskFault (StateM Volume) _).run.run volume =
      (.ok (), next) := by
  have hrun : (write path bytes : StateM Volume _).run volume = (.ok (), next) :=
    Volume.run_change_of_ok h
  rw [writeBytes, ask, Path.fault?_eq_none_iff.2 hpath]
  exact run_lift_bind_of_run hrun _

/-- **Writing a text comes to one of these.** -/
theorem writesText (path : Path) (text : Text) (volume : Volume) :
    WritesText path text volume (answer (writeText path text) volume)
      (after (writeText path text : ExceptT DiskFault (StateM Volume) _) volume) := by
  rw [answer, after, writeText]
  cases hencode : Text.Utf8.encode text with
  | ok bytes =>
    dsimp only
    have hbytes : bytesOf text = bytes := by rw [bytesOf, hencode]; rfl
    cases hpath : path.isPassable with
    | false =>
      obtain ⟨fault, hfault⟩ := Path.exists_fault?_of_not_isPassable hpath
      rw [run_writeBytes_of_fault hfault]
      exact .unpassed hfault
    | true =>
      cases hwrite : volume.write path bytes with
      | error refusal =>
        rw [run_writeBytes_of_error hpath hwrite]
        exact .refused hpath (hbytes ▸ hwrite)
      | ok next =>
        rw [run_writeBytes_of_ok hpath hwrite]
        exact .written hpath hencode hwrite
  | error cause =>
    dsimp only
    -- the file is opened for no bytes before the text turns out to have none
    have hbytes : bytesOf text = .empty := by rw [bytesOf, hencode]; rfl
    rw [ExceptT.run_bind]
    cases hpath : path.isPassable with
    | false =>
      obtain ⟨fault, hfault⟩ := Path.exists_fault?_of_not_isPassable hpath
      rw [run_bind_of_run (run_writeBytes_of_fault hfault _)]
      exact .unpassed hfault
    | true =>
      cases hwrite : volume.write path .empty with
      | error refusal =>
        rw [run_bind_of_run (run_writeBytes_of_error hpath hwrite)]
        exact .refused hpath (hbytes ▸ hwrite)
      | ok next =>
        rw [run_bind_of_run (run_writeBytes_of_ok hpath hwrite)]
        exact .emptied hpath hencode hwrite

end Disk

end SchemaScribe
