import SchemaScribe.Text.CodePoint

/-!
# Paths

A path is where it starts and the names that it passes through (`Path`).  Empty names and single
dots are dropped when a path is read, double dots are kept: what they mean depends on the disk.
Only `Path.normalize` takes them away, without looking at the disk.

Not every name can be passed to a disk (`NameFault`).  A disk knows names as bytes: a name is
encoded, and the halves from `0xDC80` to `0xDCFF` stand for the bytes from `0x80` to `0xFF` that
belong to no character.
-/

namespace SchemaScribe

/-! ### Names -/

/-- **Why a name cannot be passed to a disk.** -/
inductive NameFault where
  /-- It holds a half that stands for no byte. -/
  | half (index : Fin 0x800)
  | nullCharacter
  deriving DecidableEq, Repr

/-- The half that a code point is, if it is one that stands for no byte. -/
def CodePoint.stray? : CodePoint → Option (Fin 0x800)
  | .char _ => none
  | .half index => if 0x480 ≤ index.val ∧ index.val < 0x500 then none else some index

/-- The code point may stand in a name that is passed to a disk. -/
def CodePoint.isPassable (c : CodePoint) : Bool := c.stray?.isNone && c != '\x00'

/-- **Why the code points of a name cannot be passed to a disk**, if they cannot. -/
def nameFault? (cs : List CodePoint) : Option NameFault :=
  match cs.findSome? CodePoint.stray? with
  | some index => some (.half index)
  | none => if cs.contains '\x00' then some .nullCharacter else none

/-- How many bytes a code point of a name becomes. -/
def CodePoint.byteCount : CodePoint → Nat
  | .char c => c.utf8Size
  | .half _ => 1

/-- How many bytes a name has. -/
def Text.byteCount (name : Text) : Nat :=
  name.toList.foldl (fun count c => count + c.byteCount) 0

/-- Names can be passed where nothing is wrong with them. -/
theorem nameFault?_eq_none_iff {cs : List CodePoint} :
    nameFault? cs = none ↔ ∀ c ∈ cs, c.isPassable = true := by
  rw [nameFault?]
  cases hstray : cs.findSome? CodePoint.stray? with
  | some index =>
    obtain ⟨c, hmem, hc⟩ := List.exists_of_findSome?_eq_some hstray
    refine iff_of_false (by simp) fun h => ?_
    have hpassable := h c hmem
    rw [CodePoint.isPassable, hc] at hpassable
    cases hpassable
  | none =>
    have hnone := List.findSome?_eq_none_iff.1 hstray
    simp only [ite_eq_right_iff, reduceCtorEq, imp_false, List.contains_iff_mem]
    constructor
    · intro hnull c hmem
      rw [CodePoint.isPassable, hnone c hmem, Option.isNone_none, Bool.true_and, bne_iff_ne]
      rintro rfl
      exact hnull hmem
    · intro h hnull
      cases h _ hnull

/-! ### Paths -/

/-- Where a path starts. -/
inductive PathStart where
  /-- At the working directory. -/
  | here
  /-- At the root. -/
  | root
  /-- At the root, written with two slashes. -/
  | doubleRoot
  deriving DecidableEq, Repr

/-- The text of a start. -/
def PathStart.text : PathStart → Text
  | .here => ""
  | .root => "/"
  | .doubleRoot => "//"

/-- **A path.** -/
structure Path where
  start : PathStart
  names : List Text
  deriving DecidableEq, Repr

namespace Path

/-! ### Reading and writing -/

/-- The start of a written path.  Two slashes are kept apart from one, and more count as one. -/
def startOf : List CodePoint → PathStart
  | '/' :: '/' :: '/' :: _ => .root
  | '/' :: '/' :: _ => .doubleRoot
  | '/' :: _ => .root
  | _ => .here

/-- The names between the slashes of a text. -/
def namesOf (cs : List CodePoint) : List Text :=
  ((cs.splitOn (.char '/')).filter fun name => name != [] && name != [.char '.']).map Text.ofList

/-- **The path that a text writes.** -/
def ofText (text : Text) : Path := ⟨startOf text.toList, namesOf text.toList⟩

/-- **The text of a path.**  The path to where one is reads as a dot. -/
def text (path : Path) : Text :=
  let written := path.start.text ++ Text.intercalate "/" path.names
  if written = "" then "." else written

/-! ### Parts -/

/-- The path starts at the root. -/
def isAbsolute (path : Path) : Bool := path.start != .here

/-- A path without its last name. -/
def parent (path : Path) : Path := { path with names := path.names.dropLast }

/-- A path seen from another one. -/
def join (base path : Path) : Path :=
  if path.isAbsolute then path else { base with names := base.names ++ path.names }

/-! ### Passing -/

/-- The path can be passed to a disk. -/
def isPassable (path : Path) : Bool := path.names.all fun name => name.toList.all (·.isPassable)

/-- **Why a path cannot be passed to a disk**, if it cannot.  All of it is encoded before the null
character is looked for. -/
def fault? (path : Path) : Option NameFault := nameFault? (path.names.flatMap Text.toList)

/-- Why a path cannot be passed to a disk if its names are passed one after the other. -/
def firstFault? (path : Path) : Option NameFault :=
  path.names.findSome? fun name => nameFault? name.toList

/-! ### Normal form -/

/-- Names below a directory, given from the last to the first, with each double dot taking back the
name before it.  At the root it takes back nothing. -/
def walkBack (above : List Text) : List Text → List Text
  | [] => above
  | name :: rest => walkBack (if name = ".." then above.drop 1 else name :: above) rest

/-- The names without double dots. -/
def withoutDots (names : List Text) : List Text := (walkBack [] names).reverse

/-- The names from the root to where a path leads, seen from a working directory. -/
def namesFromRoot (working : List Text) (path : Path) : List Text :=
  if path.isAbsolute then path.names else working ++ path.names

/-- **The path from the root without double dots**, seen from a working directory. -/
def normalize (working : List Text) (path : Path) : Path :=
  ⟨.root, withoutDots (path.namesFromRoot working)⟩

/-! ### Laws -/

theorem walkBack_append (above a b : List Text) :
    walkBack above (a ++ b) = walkBack (walkBack above a) b := by
  induction a generalizing above with
  | nil => rfl
  | cons name rest ih => simp [walkBack, ih]

/-- Normalizing the first names first makes no difference. -/
theorem withoutDots_append (a b : List Text) (h : (".." : Text) ∉ a) :
    withoutDots (a ++ b) = (walkBack a.reverse b).reverse := by
  have key : ∀ (above names : List Text), (".." : Text) ∉ names →
      walkBack above names = names.reverse ++ above := by
    intro above names
    induction names generalizing above with
    | nil => intro _; rfl
    | cons name rest ih =>
      intro hn
      simp only [List.mem_cons, not_or] at hn
      simp [walkBack, Ne.symm hn.1, ih _ hn.2]
  simp [withoutDots, walkBack_append, key [] a h]

end Path

end SchemaScribe
