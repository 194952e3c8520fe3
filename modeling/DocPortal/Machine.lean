import DocPortal.Environment
import DocPortal.FileSystem.Operations

/-!
# Machines

What a command runs on: a tree of files, a working directory and environment variables.
-/

namespace DocPortal

/-- A machine. -/
structure Machine where
  files : FileSystem
  cwd : Location := []
  env : Environment := []
  deriving DecidableEq, Repr

end DocPortal
