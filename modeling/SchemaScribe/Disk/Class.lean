import SchemaScribe.Disk.Path
import SchemaScribe.Text.Quoted
import SchemaScribe.Text.Utf8

/-!
# Disks

What the library asks of a disk: where one is, what lies at a path, and how files and directories
are read and made (`Disk`).  A disk may refuse; `DiskFault` tells why.
-/

namespace SchemaScribe

/-! ### Faults -/

/-- **Why a disk refuses.** -/
inductive Refusal where
  | missing
  | occupied
  | notDirectory
  | isDirectory
  | nameTooLong
  /-- Any other reason, by its number and its wording. -/
  | other (code : Nat) (wording : Text)
  deriving DecidableEq, Repr

/-- The number of a reason. -/
def Refusal.code : Refusal → Nat
  | .missing => 2
  | .occupied => 17
  | .notDirectory => 20
  | .isDirectory => 21
  | .nameTooLong => 36
  | .other code _ => code

/-- The wording of a reason. -/
def Refusal.wording : Refusal → Text
  | .missing => "No such file or directory"
  | .occupied => "File exists"
  | .notDirectory => "Not a directory"
  | .isDirectory => "Is a directory"
  | .nameTooLong => "File name too long"
  | .other _ wording => wording

/-- **Why an access to a disk fails**: the disk refuses, a name cannot be passed to it, what it
holds is no text, or a text has no bytes. -/
inductive DiskFault where
  | refused (refusal : Refusal) (path : Path)
  | name (fault : NameFault)
  | notText (fault : Text.Utf8.Fault)
  | notEncoded (fault : Text.Utf8.EncodeFault)
  deriving DecidableEq, Repr

/-- The wording of the fault of a name.  Where in the path the half stands is left open, since that
changes with how the path is spelled. -/
def NameFault.message : NameFault → Text
  | .half index =>
    "'utf-8' codec can't encode character '" ++ Text.Utf8.halfEscape index ++
      "': surrogates not allowed"
  | .nullCharacter => "embedded null byte"

/-- The wording of a fault. -/
def DiskFault.message : DiskFault → Text
  | .refused refusal path =>
    "[Errno " ++ toString refusal.code ++ "] " ++ refusal.wording ++ ": " ++ Text.quoted path.text
  | .name fault => fault.message
  | .notText fault => fault.message
  | .notEncoded fault => fault.message

/-! ### The interface -/

/-- What lies at a path. -/
inductive EntryKind where
  | file
  | directory
  deriving DecidableEq, Repr

/-- **A disk**, as the actions that a monad has on it. -/
class Disk (m : Type → Type) where
  /-- The names from the root to the working directory. -/
  workingNames : m (List Text)
  /-- What lies at a path. -/
  kind : Path → m (Except Refusal EntryKind)
  /-- The bytes of a file. -/
  read : Path → m (Except Refusal ByteArray)
  /-- Make a directory. -/
  makeDirectory : Path → m (Except Refusal Unit)
  /-- Make a file of the given bytes, in place of the one that is there. -/
  write : Path → ByteArray → m (Except Refusal Unit)

end SchemaScribe
