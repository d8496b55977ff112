import Multilint.FileTree
import Multilint.Scope.Rules
/-!
# Finding the ignore file

The ignore file of a run is the first file of its name in the directory where the search starts and the
ones above it.
-/

namespace Multilint

namespace IgnoreFile

/-- The first file of a name at or above a directory. -/
def find? (tree : FileTree) (dir start : Path) (name : String) : Option Path :=
  ((Path.absolute dir start).ancestors.map (·.join (Path.ofString name))).find?
    (tree.isFile dir)

/-- The failure to read a file whose bytes are no text. -/
def notText : Failure :=
  .io "stream did not contain valid UTF-8"

/-- The ignore file at a path. Its rules are about the directory it lies in. -/
def load (tree : FileTree) (dir path : Path) : Except Failure IgnoreFile :=
  match (tree.content? dir path).bind String.fromUTF8? with
  | some text => .ok (ofText (Path.absolute dir (path.parent?.getD ⟨false, ["."]⟩)) text)
  | none => .error notText

end IgnoreFile

end Multilint
