import Multilint.Scope.Rules
import Multilint.FileTree
/-!
# Discovery

The files a tool works on: those among and below the inputs that an include pattern matches and the
scope does not exclude. The list is sorted by path, each file once.
-/

namespace Multilint

namespace Discovery

/-- The include patterns that texts write. -/
def includesOf (patterns : List String) : Except Failure (List Glob) :=
  patterns.mapM fun p =>
    match Glob.ofText p with
    | .ok g => .ok g
    | .error e => .error (.invalidPattern p e)

/-- Whether an include pattern matches a file: by its path where the pattern holds a slash, by its name
otherwise. -/
def matchesInclude (path : Path) (g : Glob) : Bool :=
  if g.text.toList.contains '/' then g.matchesText path.slashed
  else g.matchesText (path.fileName?.getD "")

/-- The files that one input brings in, before any pattern is asked. An input that leads nowhere brings
in none. -/
def candidates (tree : FileTree) (dir : Path) (scope : Scope) (input : Path) : List Path :=
  if tree.isFile dir input then [Path.absolute dir input]
  else if tree.isDir dir input then tree.walk scope.prunes (Path.absolute dir input)
  else []

/-- Whether a file is to be worked on. -/
def keeps (includes : List Glob) (scope : Scope) (path : Path) : Bool :=
  includes.any (matchesInclude path) && !scope.excludes path false

/-- A sorted list without the repetitions. -/
def distinct : List Path → List Path
  | [] => []
  | [p] => [p]
  | p :: q :: rest => if p = q then distinct (q :: rest) else p :: distinct (q :: rest)

/-- The files of a run for given inputs and include patterns. -/
def files (tree : FileTree) (dir : Path) (scope : Scope) (inputs : List Path)
    (includes : List Glob) : List Path :=
  distinct (((inputs.flatMap (candidates tree dir scope)).filter
    (keeps includes scope)).mergeSort Path.le)

end Discovery

/-- The files a tool with the given include patterns works on. -/
def discover (tree : FileTree) (dir : Path) (scope : Scope) (inputs : List Path)
    (patterns : List String) : Except Failure (List Path) := do
  let includes ← Discovery.includesOf patterns
  return Discovery.files tree dir scope inputs includes

end Multilint
