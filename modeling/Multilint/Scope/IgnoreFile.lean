import Multilint.Path
import Multilint.Glob.Basic
/-!
# Ignore files

An ignore file takes paths below its directory out of a run. Of the rules that match a path the last
one decides, and a rule that starts with `!` decides against ignoring. Nothing below an ignored
directory comes back.
-/

namespace Multilint

/-- One rule of an ignore file. -/
structure IgnoreRule where
  /-- The pattern. -/
  glob : Glob
  /-- The rule takes paths back in. -/
  negated : Bool
  /-- The rule is about directories only. -/
  dirOnly : Bool
  /-- The pattern holds a slash, so it is about the path from the file's directory. -/
  anchored : Bool
  deriving DecidableEq, Repr

/-- The rules of an ignore file and the directory they are about. -/
structure IgnoreFile where
  /-- The directory, with slashes and without one at its end. -/
  root : String
  /-- The rules, in the order of the file. -/
  rules : List IgnoreRule
  deriving DecidableEq, Repr

namespace IgnoreRule

/-- The rule of a line. Blank lines, comments and lines whose pattern is no glob have none. -/
def ofLine? (line : List Char) : Option IgnoreRule :=
  match Text.trim line with
  | [] | '#' :: _ => none
  | c :: cs =>
    let negated := c = '!'
    let written := if negated then cs else c :: cs
    let body := (written.reverse.dropWhile (· = '/')).reverse
    let pattern := body.dropWhile (· = '/')
    if pattern.isEmpty then none
    else
      match Glob.ofText (String.ofList pattern) with
      | .error _ => none
      | .ok glob =>
        some ⟨glob, negated, written.getLast? = some '/', body.contains '/'⟩

/-- Whether a rule matches a path, given by its names from the file's directory. -/
def matchesAt (r : IgnoreRule) (names : List String) (isDir : Bool) : Bool :=
  (!r.dirOnly || isDir) &&
    (r.glob.matchesPath ("/".intercalate names) ||
      (!r.anchored && r.glob.matchesPath (names.getLast?.getD "")))

end IgnoreRule

namespace IgnoreFile

/-- The rules of a text that stands for a directory, given from the root. -/
def ofText (dir : Path) (text : String) : IgnoreFile :=
  { root := String.ofList (dir.slashed.toList.reverse.dropWhile (· = '/')).reverse
    rules := (Text.lines text.toList).filterMap IgnoreRule.ofLine? }

/-- The names of a path from the file's directory, if it lies below it. -/
def below? (f : IgnoreFile) (path : Path) : Option (List String) :=
  match Text.after? f.root.toList path.slashed.toList with
  | some ('/' :: c :: cs) => some (Text.pieces '/' (String.ofList (c :: cs)))
  | _ => none

/-- The verdict of the last rule that matches. -/
def lastVerdict (f : IgnoreFile) (names : List String) (isDir : Bool) : Bool :=
  f.rules.foldl (fun v r => if r.matchesAt names isDir then !r.negated else v) false

/-- Whether a path is ignored: the verdict falls on it, or on a directory above it. -/
def ignores (f : IgnoreFile) (path : Path) (isDir : Bool) : Bool :=
  match f.below? path with
  | none => false
  | some names =>
    (List.range (names.length - 1)).any (fun k => f.lastVerdict (names.take (k + 1)) true) ||
      f.lastVerdict names isDir

end IgnoreFile

end Multilint
