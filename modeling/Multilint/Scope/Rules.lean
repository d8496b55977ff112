import Multilint.Scope.Exclusion
import Multilint.Scope.IgnoreFile
/-!
# The scope of a run

Exclude patterns and an ignore file are two vetoes: a path that either of them excludes is out of the
run. Directories of dependencies are passed over on a walk unless the scope includes them.
-/

namespace Multilint

/-- What takes paths out of a run. -/
structure Scope where
  /-- The exclude patterns. -/
  exclusions : List Exclusion := []
  /-- The ignore file. -/
  ignoreFile : Option IgnoreFile := none
  /-- Walks go into directories of dependencies. -/
  dependencies : Bool := false
  deriving DecidableEq, Repr, Inhabited

namespace Scope

/-- The names of directories that hold dependencies or results of a build. -/
def dependencyDirs : List String :=
  [".venv", "venv", "env", "ENV", "site-packages", "node_modules", "__pycache__", ".tox",
    ".pytest_cache", ".mypy_cache", ".git", "target", "dist", "build"]

/-- The name of the ignore file that is looked for unless the settings name another. -/
def ignoreFileName : String := ".metalint-ignore"

/-- The exclude patterns that texts write; blank texts write none. -/
def exclusionsOf (patterns : List String) : Except Failure (List Exclusion) :=
  (patterns.filter fun p => Text.trimmed p ≠ "").mapM Exclusion.ofText

/-- Whether a path from the root is out of the run. -/
def excludes (s : Scope) (path : Path) (isDir : Bool) : Bool :=
  s.exclusions.any (·.excludes path.slashed) || s.ignoreFile.any (·.ignores path isDir)

/-- Whether a walk passes over a directory. -/
def prunes (s : Scope) (dir : Path) : Bool :=
  (!s.dependencies && dependencyDirs.contains (dir.fileName?.getD "")) || s.excludes dir true

/-- Whether some pattern excludes a path; a text that is no pattern excludes none. -/
def excludedBy (patterns : List String) (path : Path) : Bool :=
  patterns.any fun p => (Exclusion.ofText p).toOption.any (·.excludes path.slashed)

end Scope

end Multilint
