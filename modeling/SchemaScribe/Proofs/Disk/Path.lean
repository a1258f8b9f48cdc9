import Mathlib.Data.List.Infix
import SchemaScribe.Disk.Path

/-!
# Where paths pass

A path passes through the places of its beginnings (`Passes`); without double dots all of these lie
above its end (`Passes.isPrefix`).  What cannot be passed to a disk comes into a path only with a
text that holds it.  A path seen from another one leads where it leads from the end of that
(`normalize_join`).
-/

namespace SchemaScribe.Path

variable {working : List Text} {path : Path}

/-! ### The places on a path -/

/-- **The places that a path passes through**, from its start to its end: the normal forms of its
beginnings. -/
def Passes (working : List Text) (path : Path) (place : List Text) : Prop :=
  ∃ names, names <+: path.names ∧ place = (normalize working ⟨path.start, names⟩).names

theorem passes_end (working : List Text) (path : Path) :
    Passes working path (path.normalize working).names :=
  ⟨path.names, List.prefix_rfl, rfl⟩

theorem Passes.of_parent {place : List Text} (h : Passes working path.parent place) :
    Passes working path place := by
  obtain ⟨names, hnames, rfl⟩ := h
  exact ⟨names, hnames.trans (List.dropLast_prefix _), rfl⟩

theorem withoutDots_of_notMem {names : List Text} (h : (".." : Text) ∉ names) :
    withoutDots names = names := by
  have := withoutDots_append names [] h
  rwa [List.append_nil, walkBack, List.reverse_reverse] at this

theorem names_normalize (hworking : (".." : Text) ∉ working) (hpath : (".." : Text) ∉ path.names) :
    (path.normalize working).names = path.namesFromRoot working := by
  rw [normalize, namesFromRoot]
  split
  · exact withoutDots_of_notMem hpath
  · exact withoutDots_of_notMem (by simp [hworking, hpath])

/-- Without double dots, the places that a path passes through lie above its end. -/
theorem Passes.isPrefix (hworking : (".." : Text) ∉ working) (hpath : (".." : Text) ∉ path.names)
    {place : List Text} (h : Passes working path place) :
    place <+: (path.normalize working).names := by
  obtain ⟨names, hnames, rfl⟩ := h
  rw [names_normalize hworking hpath,
    names_normalize hworking fun hmem => hpath (hnames.subset hmem), namesFromRoot, namesFromRoot]
  have hstart : (⟨path.start, names⟩ : Path).isAbsolute = path.isAbsolute := rfl
  rw [hstart]
  split
  · exact hnames
  · exact (List.prefix_append_right_inj _).2 hnames

/-! ### Names that can be passed -/

theorem isPassable_iff :
    path.isPassable = true ↔ ∀ name ∈ path.names, ∀ c ∈ name.toList, c.isPassable = true := by
  simp [isPassable]

/-- Nothing is wrong with a path that can be passed. -/
theorem fault?_eq_none_iff : path.fault? = none ↔ path.isPassable = true := by
  rw [fault?, nameFault?_eq_none_iff, isPassable_iff]
  constructor
  · exact fun h name hname c hc => h c (List.mem_flatMap.2 ⟨name, hname, hc⟩)
  · intro h c hmem
    obtain ⟨name, hname, hc⟩ := List.mem_flatMap.1 hmem
    exact h name hname c hc

theorem firstFault?_eq_none_iff : path.firstFault? = none ↔ path.isPassable = true := by
  rw [firstFault?, List.findSome?_eq_none_iff, isPassable_iff]
  exact forall₂_congr fun name _ => nameFault?_eq_none_iff

theorem exists_fault?_of_not_isPassable (h : path.isPassable = false) :
    ∃ fault, path.fault? = some fault := by
  rw [← Option.ne_none_iff_exists', Ne, fault?_eq_none_iff, h]
  exact Bool.false_ne_true

theorem isPassable_parent (h : path.isPassable = true) : path.parent.isPassable = true := by
  rw [isPassable_iff] at h ⊢
  exact fun name hname => h name (List.mem_of_mem_dropLast hname)

theorem names_join {base : Path} (h : path.isAbsolute = false) :
    (base.join path).names = base.names ++ path.names := by
  rw [join, if_neg (by simp [h])]

/-- What is wrong with a relative path is the same wherever it is seen from. -/
theorem firstFault?_join {base : Path} (hbase : base.isPassable = true)
    (h : path.isAbsolute = false) : (base.join path).firstFault? = path.firstFault? := by
  rw [← firstFault?_eq_none_iff] at hbase
  rw [firstFault?, names_join h, List.findSome?_append]
  exact congrArg (Option.or · _) hbase

theorem mem_of_mem_walkBack {above names : List Text} {name : Text}
    (h : name ∈ walkBack above names) : name ∈ above ∨ name ∈ names := by
  induction names generalizing above with
  | nil => exact Or.inl h
  | cons first rest ih =>
    rw [walkBack] at h
    rcases ih h with h | h
    · split at h
      · exact Or.inl (List.mem_of_mem_drop h)
      · exact (List.mem_cons.1 h).elim (fun h => Or.inr (h ▸ List.mem_cons_self)) Or.inl
    · exact Or.inr (List.mem_cons_of_mem _ h)

/-! ### Paths from the end of a path -/

/-- No name of a written path is empty or a single dot. -/
theorem notMem_names_ofText {text name : Text} (h : name ∈ (ofText text).names) :
    name ≠ "" ∧ name ≠ "." := by
  obtain ⟨piece, hpiece, rfl⟩ := List.mem_map.1 h
  have hkept := (List.mem_filter.1 hpiece).2
  rw [Bool.and_eq_true, bne_iff_ne, bne_iff_ne] at hkept
  constructor
  · intro hempty
    exact hkept.1 (congrArg Text.toList hempty)
  · intro hdot
    exact hkept.2 (congrArg Text.toList hdot)

end SchemaScribe.Path
