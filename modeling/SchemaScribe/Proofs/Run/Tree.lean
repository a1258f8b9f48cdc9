import SchemaScribe.Proofs.Disk.Tree
import SchemaScribe.Proofs.Run.Effect
import SchemaScribe.Proofs.Settings.Computed

/-!
# Runs on trees

A run on a disk that is a tree leaves a tree behind, also where it fails on its way
(`isTree_leftBy`), and so do runs after each other (`isTree_after_runs`).  So what is proved of
disks that are trees holds whatever runs came before.
-/

namespace SchemaScribe

open Disk (answer after KeepsTree)

variable {request : Request} {volume : Volume} {path : Path}

/-! ### Where definitions go -/

theorem Volume.IsTree.tidy_working (h : volume.IsTree) :
    ∀ name ∈ volume.working, name ∉ (["", "."] : List Text) := by
  intro name hname hmem
  refine h.named _ _ h.working name hname ?_
  simp only [List.mem_cons, List.not_mem_nil, or_false] at hmem ⊢
  exact hmem.imp_right Or.inl

/-- The path of an output is tidy if that of its configuration is. -/
theorem isTidy_outputPath_of_load (htree : volume.IsTree) (hpath : path.IsTidy)
    {configuration : Settings.Configuration}
    (h : answer (Settings.load path) volume = .ok configuration) {place : Path}
    (hplace : configuration.outputPath = some place) : place.IsTidy := by
  obtain ⟨text, value, htext, -, hvalue⟩ := Settings.exists_value_of_load h
  have houtput := (Settings.isTakenFrom_of_ofValue hvalue).output
  obtain ⟨-, hgiven⟩ :=
    (Settings.settles_outputPlace (Path.isPassable_parent htext.1) _).good_of_ok houtput
  rw [hplace] at hgiven
  obtain ⟨written, -, rfl⟩ := Option.map_eq_some_iff.1 hgiven.symm
  rw [Settings.resolved]
  split
  · exact .ofText written
  · exact (hpath.parent.join (.ofText written)).normalize htree.tidy_working

theorem isTidy_of_target (htree : volume.IsTree) {configuration : Settings.Configuration}
    (h : answer (Settings.load (.ofText request.configPath)) volume = .ok configuration)
    (htarget : request.target configuration.outputPath = some path) : path.IsTidy := by
  cases goesTo_of_target htarget with
  | asked _ _ => exact .ofText _
  | configured _ hconfigured => exact isTidy_outputPath_of_load htree (.ofText _) h hconfigured

/-! ### Runs -/

theorem keepsTree_writeDefinitions (hpath : path.IsTidy) (text : Text) :
    KeepsTree (writeDefinitions text path : ExceptT DiskFault (StateM Volume) _) :=
  (Disk.keepsTree_makeDirectories hpath.parent).bind fun _ =>
    (Disk.keepsTree_writeText hpath text).bind fun _ => Disk.isQuiet_locate.keepsTree

/-- **A run leaves a tree behind**, whatever came of it. -/
theorem isTree_leftBy (htree : volume.IsTree) (request : Request) :
    (leftBy request volume).IsTree := by
  have hcourse := course request volume
  generalize noticesOf request volume = notices, leftBy request volume = left,
    resultOf request volume = result at hcourse ⊢
  cases hcourse with
  | unprepared _ => exact htree
  | ungenerated _ _ => exact htree
  | told _ _ _ => exact htree
  | unwritten h _ htarget _ =>
    exact keepsTree_writeDefinitions (isTidy_of_target htree (prepare_eq_ok_iff.1 h).1 htarget) _ _
      htree
  | written h _ htarget _ =>
    exact keepsTree_writeDefinitions (isTidy_of_target htree (prepare_eq_ok_iff.1 h).1 htarget) _ _
      htree

/-- **Runs after each other leave a tree behind.** -/
theorem isTree_after_runs (htree : volume.IsTree) (requests : List Request) :
    (requests.foldl (fun before request => leftBy request before) volume).IsTree := by
  induction requests generalizing volume with
  | nil => exact htree
  | cons request rest ih => exact ih (isTree_leftBy htree request)

end SchemaScribe
