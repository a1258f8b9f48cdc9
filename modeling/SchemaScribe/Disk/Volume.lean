import SchemaScribe.Association
import SchemaScribe.Disk.Access

/-!
# Volumes

A disk as a value: what lies at which place, a place being the names from the root to it (`Volume`).
A path is followed name by name, and each directory that it passes through has to be there; a
double dot leads to the directory above.  Names are told apart as texts: that some halves may
together stand for the bytes of a character is left out.
-/

namespace SchemaScribe

/-- What lies at a place. -/
inductive Entry where
  | file (bytes : ByteArray)
  | directory

/-- Files are told apart by their bytes. -/
instance : DecidableEq Entry
  | .file a, .file b =>
    decidable_of_decidable_of_iff (p := a.data.toList = b.data.toList) (by
      rw [Entry.file.injEq, Array.toList_inj]
      exact ⟨ByteArray.ext, congrArg _⟩)
  | .directory, .directory => .isTrue rfl
  | .file _, .directory => .isFalse (by simp)
  | .directory, .file _ => .isFalse (by simp)

/-- The kind of an entry. -/
def Entry.kind : Entry → EntryKind
  | .file _ => .file
  | .directory => .directory

/-- The names from the root to a place. -/
abbrev Place := List Text

/-- **A disk as a value.** -/
structure Volume where
  working : Place
  entries : Association Place Entry

namespace Volume

/-! ### Places -/

/-- What lies at a place.  The root is a directory. -/
def entryAt? (volume : Volume) (place : Place) : Option Entry :=
  if place = [] then some .directory else Association.get? place volume.entries

/-- The longest name, in bytes. -/
def nameLimit : Nat := 255

/-- The longest path, in bytes. -/
def pathLimit : Nat := 4095

/-- The place that names lead to from another place.  The last name need not be there. -/
def follow (volume : Volume) (place : Place) : List Text → Except Refusal Place
  | [] => .ok place
  | name :: rest =>
    match volume.entryAt? place with
    | none => .error .missing
    | some (.file _) => .error .notDirectory
    | some .directory =>
      if nameLimit < name.byteCount then .error .nameTooLong
      else volume.follow (if name = ".." then place.dropLast else place ++ [name]) rest

/-- The place that a path leads to. -/
def placeOf (volume : Volume) (path : Path) : Except Refusal Place :=
  if pathLimit < path.text.byteCount then .error .nameTooLong
  else volume.follow (if path.isAbsolute then [] else volume.working) path.names

/-- What lies where a path leads to. -/
def find (volume : Volume) (path : Path) : Except Refusal Entry := do
  match volume.entryAt? (← volume.placeOf path) with
  | some entry => pure entry
  | none => throw .missing

/-- The volume with an entry at a place. -/
def put (volume : Volume) (place : Place) (entry : Entry) : Volume :=
  { volume with entries := Association.put place entry volume.entries }

/-! ### Actions -/

/-- The bytes of a file. -/
def read (volume : Volume) (path : Path) : Except Refusal ByteArray := do
  match ← volume.find path with
  | .file bytes => pure bytes
  | .directory => throw .isDirectory

/-- The volume with a new directory. -/
def makeDirectory (volume : Volume) (path : Path) : Except Refusal Volume := do
  let place ← volume.placeOf path
  match volume.entryAt? place with
  | some _ => throw .occupied
  | none => pure (volume.put place .directory)

/-- The volume with a file of the given bytes. -/
def write (volume : Volume) (path : Path) (bytes : ByteArray) : Except Refusal Volume := do
  let place ← volume.placeOf path
  match volume.entryAt? place with
  | some .directory => throw .isDirectory
  | _ => pure (volume.put place (.file bytes))

/-- The volume without the entry at a place. -/
def erase (volume : Volume) (place : Place) : Volume :=
  { volume with entries := volume.entries.filter (·.1 != place) }

/-- A change of a volume as an action: a refusal leaves it as it is. -/
def change (step : Volume → Except Refusal Volume) : StateM Volume (Except Refusal Unit) := do
  match step (← get) with
  | .ok volume => do
    set volume
    pure (.ok ())
  | .error refusal => pure (.error refusal)

/-- A volume is a disk. -/
instance : Disk (StateM Volume) where
  workingNames := do pure (← get).working
  kind path := do pure (((← get).find path).map Entry.kind)
  read path := do pure ((← get).read path)
  makeDirectory path := change (·.makeDirectory path)
  write path bytes := change (·.write path bytes)

end Volume

end SchemaScribe
