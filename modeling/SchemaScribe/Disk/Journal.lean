import SchemaScribe.Disk.Volume

/-!
# Journals

A disk that also writes down which files are made or replaced, in the order in which that happens.
-/

namespace SchemaScribe

/-- The paths of the files written so far. -/
abbrev Journal := List Path

/-- A disk with a journal is a disk. -/
instance {m : Type → Type} [Monad m] [Disk m] : Disk (StateT Journal m) where
  workingNames := liftM (Disk.workingNames : m _)
  kind path := liftM (Disk.kind path : m _)
  read path := liftM (Disk.read path : m _)
  makeDirectory path := liftM (Disk.makeDirectory path : m _)
  write path bytes := do
    let answer ← liftM (Disk.write path bytes : m _)
    if answer.isOk then modify (· ++ [path])
    pure answer

end SchemaScribe
