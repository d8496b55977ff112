import Multilint.Json.Reader
import Multilint.Machine.Host
/-!
# Snapshots of machines

A machine can be written down as a JSON object: the paths of files with their texts. A text that starts
with `#!` is a script and may be executed. Commands are looked for in the directory `bin`.
-/

namespace Multilint

namespace Machine

/-- The directory that the paths of a snapshot are in. -/
def snapshotDir : Path := Path.ofNames ["work"]

/-- The file of a text. -/
def fileOf (text : String) : FileTree :=
  .file text.toUTF8 (text.startsWith "#!")

/-- The machine of a snapshot. What is no text is left out. -/
def ofSnapshot (v : Json) : Machine :=
  let put (t : FileTree) (member : String × Json) : FileTree :=
    match member.2.string? with
    | some text =>
      FileTree.insert (fileOf text) (Path.absolute snapshotDir (Path.ofString member.1)).names t
    | none => t
  { tree := (v.object?.getD []).foldl put (FileTree.insert (.dir []) snapshotDir.names (.dir []))
    environment := [("PATH", snapshotDir.toString ++ "/bin")] }

/-- The machine of the text of a snapshot; an empty one where the text is none. -/
def ofText (s : String) : Machine :=
  match Json.ofText s.toList with
  | .ok v => ofSnapshot v
  | .error _ => ofSnapshot (.object [])

end Machine

end Multilint
