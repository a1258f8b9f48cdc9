import Mathlib.Data.List.Basic
import SchemaScribe.Proofs.Association
import SchemaScribe.Proofs.Disk.Growth

/-!
# Disks as trees

On a disk each entry lies in a directory, under a name that is not empty and not made of dots
(`Volume.IsTree`).  A path that leads to anything but a directory therefore ends in a name, and
without it leads to the directory that the name is in (`IsTree.exists_directory`).  New directories
and files leave a tree, and so do the actions that make them (`keepsTree_makeDirectories`,
`keepsTree_writeText`).
-/

namespace SchemaScribe

/-! ### Names on the way -/

/-- **A tidy path**: none of its names is empty or a single dot. -/
def Path.IsTidy (path : Path) : Prop :=
  ∀ name ∈ path.names, name ∉ (["", "."] : List Text)

namespace Path.IsTidy

variable {path base : Path}

theorem parent (h : path.IsTidy) : path.parent.IsTidy :=
  fun name hname => h name (List.mem_of_mem_dropLast hname)

/-- A path that is written down is read without such names. -/
theorem ofText (text : Text) : (Path.ofText text).IsTidy := by
  intro name hname hmem
  obtain ⟨hempty, hdot⟩ := notMem_names_ofText hname
  simp only [List.mem_cons, List.not_mem_nil, or_false] at hmem
  rcases hmem with rfl | rfl
  · exact hempty rfl
  · exact hdot rfl

theorem join (hbase : base.IsTidy) (h : path.IsTidy) : (base.join path).IsTidy := by
  rw [Path.join]
  split
  · exact h
  · exact List.forall_mem_append.2 ⟨hbase, h⟩

theorem normalize (h : path.IsTidy) {working : List Text}
    (hworking : ∀ name ∈ working, name ∉ (["", "."] : List Text)) :
    (path.normalize working).IsTidy := by
  intro name hname
  have hkept := (mem_of_mem_walkBack (List.mem_reverse.1 hname)).resolve_left List.not_mem_nil
  rw [namesFromRoot] at hkept
  split at hkept
  · exact h name hkept
  · exact (List.mem_append.1 hkept).elim (hworking name) (h name)

end Path.IsTidy

namespace Volume

variable {volume : Volume} {path : Path} {place : Place} {entry : Entry}

/-- **A disk that is a tree**: each entry lies in a directory, proper names lead to it from the
root, and the working directory is there. -/
structure IsTree (volume : Volume) : Prop where
  above : ∀ place name entry, volume.entryAt? (place ++ [name]) = some entry →
    volume.entryAt? place = some .directory
  named : ∀ place entry, volume.entryAt? place = some entry →
    ∀ name ∈ place, name ∉ (["", ".", ".."] : List Text)
  working : volume.entryAt? volume.working = some .directory

theorem IsTree.undotted (h : volume.IsTree) : (".." : Text) ∉ volume.working := fun hmem =>
  h.named _ _ h.working _ hmem (by simp)

/-- Above a directory there is a directory. -/
theorem IsTree.dropLast (h : volume.IsTree) (hplace : volume.entryAt? place = some .directory) :
    volume.entryAt? place.dropLast = some .directory := by
  rcases List.eq_nil_or_concat' place with rfl | ⟨directory, name, rfl⟩
  · rfl
  · rw [List.dropLast_concat]
    exact h.above _ _ _ hplace

/-! ### Where a path ends -/

/-- The last of some names is looked up in the directory that the others lead to. -/
theorem follow_concat_eq_ok {names : List Text} {name : Text} {found : Place}
    (h : volume.follow place (names ++ [name]) = .ok found) :
    ∃ directory, volume.follow place names = .ok directory ∧
      volume.entryAt? directory = some .directory ∧
      found = if name = ".." then directory.dropLast else directory ++ [name] := by
  induction names generalizing place with
  | nil =>
    rw [List.nil_append, follow] at h
    split at h
    · cases h
    · cases h
    · next hdirectory =>
      split at h
      · cases h
      · exact ⟨place, rfl, hdirectory, (Except.ok.inj h).symm⟩
  | cons first rest ih =>
    -- the first step is the same for both, and what follows it is shorter
    rw [List.cons_append, follow] at h
    rw [follow]
    split at h
    · cases h
    · cases h
    · split at h
      · cases h
      · next hlength =>
        obtain ⟨directory, hrest, hfound⟩ := ih h
        exact ⟨directory, by rwa [if_neg hlength], hfound⟩

/-- **A path that leads to no directory ends in a name**, and without it leads to the directory
that this name is in. -/
theorem IsTree.exists_directory (h : volume.IsTree) (hplace : volume.placeOf path = .ok place)
    (hentry : volume.entryAt? place ≠ some .directory) :
    ∃ name ∈ path.names, name ≠ ".." ∧
      place = (path.parent.normalize volume.working).names ++ [name] ∧
      volume.entryAt? (path.parent.normalize volume.working).names = some .directory := by
  rw [placeOf] at hplace
  split at hplace
  · cases hplace
  rcases List.eq_nil_or_concat' path.names with hnames | ⟨names, name, hnames⟩
  · -- a path without names leads to where it starts
    rw [hnames, follow] at hplace
    obtain rfl := Except.ok.inj hplace
    refine absurd ?_ hentry
    split
    · rfl
    · exact h.working
  · rw [hnames] at hplace
    obtain ⟨directory, hfollow, hdirectory, rfl⟩ := follow_concat_eq_ok hplace
    by_cases hdots : name = ".."
    · rw [if_pos hdots] at hentry
      exact absurd (h.dropLast hdirectory) hentry
    · have hparent : path.parent.names = names := by
        rw [Path.parent, hnames, List.dropLast_concat]
      rw [← hparent] at hfollow
      have hnormal : directory = (path.parent.normalize volume.working).names :=
        normalize_of_follow h.undotted hfollow
      rw [← hnormal, if_neg hdots]
      exact ⟨name, by simp [hnames], hdots, rfl, hdirectory⟩

/-! ### Growing trees -/

/-- An entry that comes into a directory, where no other directory is, leaves a tree. -/
theorem IsTree.put (h : volume.IsTree) (hpath : path.IsTidy)
    (hplace : volume.placeOf path = .ok place) (hentry : volume.entryAt? place ≠ some .directory)
    (entry : Entry) : (volume.put place entry).IsTree := by
  obtain ⟨name, hname, hdots, hend, hdirectory⟩ := h.exists_directory hplace hentry
  have hkept : ∀ {other}, volume.entryAt? other = some .directory →
      (volume.put place entry).entryAt? other = some .directory := by
    intro other hother
    rw [entryAt?_put_of_ne _ entry, hother]
    rintro rfl
    exact hentry hother
  refine ⟨fun other last found hfound => ?_, fun other found hfound => ?_, hkept h.working⟩
  · -- the new entry lies in the directory that its path leads through
    by_cases hother : other ++ [last] = place
    · obtain ⟨rfl, -⟩ := List.append_inj' (hother.trans hend) rfl
      exact hkept hdirectory
    · rw [entryAt?_put_of_ne hother] at hfound
      exact hkept (h.above _ _ _ hfound)
  · -- its name is the last one of the path, which is proper
    by_cases hother : other = place
    · subst hother
      rw [hend, List.forall_mem_append, List.forall_mem_singleton]
      have hproper := hpath name hname
      refine ⟨h.named _ _ hdirectory, ?_⟩
      simp only [List.mem_cons, List.not_mem_nil, or_false, not_or] at hproper ⊢
      exact ⟨hproper.1, hproper.2, hdots⟩
    · rw [entryAt?_put_of_ne hother] at hfound
      exact h.named _ _ hfound

theorem IsTree.makeDirectory (h : volume.IsTree) (hpath : path.IsTidy) {next : Volume}
    (hnext : volume.makeDirectory path = .ok next) : next.IsTree := by
  obtain ⟨place, hplace, hnone, rfl⟩ := makeDirectory_eq_ok_iff.1 hnext
  exact h.put hpath hplace (by simp [hnone]) _

theorem IsTree.write (h : volume.IsTree) (hpath : path.IsTidy) {bytes : ByteArray} {next : Volume}
    (hnext : volume.write path bytes = .ok next) :
    next.IsTree := by
  obtain ⟨place, hplace, hentry, rfl⟩ := write_eq_ok_iff.1 hnext
  exact h.put hpath hplace hentry _

end Volume

/-! ### Actions on trees -/

namespace Disk

variable {ε α β : Type} {path : Path}

/-- **An action keeps trees**: started on one, it leaves one behind. -/
def KeepsTree (action : ExceptT ε (StateM Volume) α) : Prop :=
  ∀ volume, volume.IsTree → (after action volume).IsTree

theorem IsQuiet.keepsTree {x : ExceptT ε (StateM Volume) α} (h : IsQuiet x) : KeepsTree x :=
  fun volume htree => by rwa [h]

theorem KeepsTree.bind {x : ExceptT ε (StateM Volume) α} {f : α → ExceptT ε (StateM Volume) β}
    (hx : KeepsTree x) (hf : ∀ a, KeepsTree (f a)) : KeepsTree (x >>= f) := by
  intro volume htree
  cases h : answer x volume with
  | ok a =>
    rw [after_bind_of_ok h]
    exact hf a _ (hx _ htree)
  | error e =>
    rw [after_bind_of_error h]
    exact hx _ htree

theorem KeepsTree.tryCatch {x : ExceptT ε (StateM Volume) α}
    {f : ε → ExceptT ε (StateM Volume) α} (hx : KeepsTree x) (hf : ∀ e, KeepsTree (f e)) :
    KeepsTree (tryCatch x f) := by
  intro volume htree
  cases h : answer x volume with
  | ok a =>
    rw [after, run_tryCatch_of_ok h]
    exact hx _ htree
  | error e =>
    -- what is done about the fault starts from what the first attempt left behind
    rw [after, run_tryCatch_of_error h]
    exact hf e _ (hx _ htree)

theorem keepsTree_makeDirectory (hpath : path.IsTidy) :
    KeepsTree (liftM (makeDirectory path : StateM Volume _) :
      ExceptT DiskFault (StateM Volume) _) := by
  intro volume htree
  rw [after_lift]
  cases h : volume.makeDirectory path with
  | error refusal =>
    have hrun : (makeDirectory path : StateM Volume _).run volume = (.error refusal, volume) :=
      Volume.run_change_of_error h
    rwa [hrun]
  | ok next =>
    have hrun : (makeDirectory path : StateM Volume _).run volume = (.ok (), next) :=
      Volume.run_change_of_ok h
    rw [hrun]
    exact htree.makeDirectory hpath h

theorem keepsTree_makeOne (hpath : path.IsTidy) :
    KeepsTree (makeOne path : ExceptT DiskFault (StateM Volume) _) := by
  rw [makeOne]
  split
  · exact (isQuiet_throw _).keepsTree
  · refine (keepsTree_makeDirectory hpath).bind fun made => ?_
    cases made with
    | ok _ => exact (isQuiet_pure _).keepsTree
    | error refusal =>
      dsimp only
      split
      · exact (isQuiet_throw _).keepsTree
      · refine (isQuiet_find?.bind fun found => ?_).keepsTree
        split
        · exact isQuiet_pure _
        · exact isQuiet_throw _

/-- **Making directories keeps trees.** -/
theorem keepsTree_makeDirectories (hpath : path.IsTidy) :
    KeepsTree (makeDirectories path : ExceptT DiskFault (StateM Volume) _) := by
  have habove (fuel : Nat) {path : Path} (hpath : path.IsTidy) :
      KeepsTree (makeAbove fuel path : ExceptT DiskFault (StateM Volume) _) := by
    induction fuel generalizing path with
    | zero => exact keepsTree_makeOne hpath
    | succ fuel ih =>
      rw [makeAbove]
      refine (keepsTree_makeOne hpath).tryCatch fun fault => ?_
      split
      · exact (ih hpath.parent).bind fun _ => keepsTree_makeOne hpath
      · exact (isQuiet_throw _).keepsTree
  exact habove _ hpath

/-- **Writing a text keeps trees**, whether the text can be encoded or not. -/
theorem keepsTree_writeText (hpath : path.IsTidy) (text : Text) :
    KeepsTree (writeText path text : ExceptT DiskFault (StateM Volume) _) := by
  intro volume htree
  have hwrites := writesText path text volume
  generalize after (writeText path text : ExceptT DiskFault (StateM Volume) _) volume = left,
    answer (writeText path text : ExceptT DiskFault (StateM Volume) _) volume = result
    at hwrites ⊢
  cases hwrites with
  | unpassed _ => exact htree
  | refused _ _ => exact htree
  | emptied _ _ hwrite => exact htree.write hpath hwrite
  | written _ _ hwrite => exact htree.write hpath hwrite

end Disk

end SchemaScribe
