import Multilint.Failure
/-!
# Exclude patterns

A pattern given for a whole run takes paths out of it. A bare name excludes every path with a segment
of that name, `dir/*` excludes what is below a directory, and a glob excludes a path when it matches
the path or one of its segments. Paths are matched from the root, with slashes.
-/

namespace Multilint

/-- What the form of an exclude pattern adds to its glob. -/
inductive ExclusionForm where
  /-- A bare name. -/
  | name (name : String)
  /-- `dir/*`, with a glob for a single segment where the directory is one. -/
  | tree (dir : String) (segment : Option Glob)
  /-- Any other pattern. -/
  | glob
  deriving DecidableEq, Repr

/-- A compiled exclude pattern. -/
structure Exclusion where
  /-- The pattern without outer blanks. -/
  text : String
  /-- Its form. -/
  form : ExclusionForm
  /-- The pattern as a glob, unless it is empty. -/
  glob : Option Glob
  deriving DecidableEq, Repr

namespace Exclusion

/-- Whether a text holds a character that is special in globs. -/
def hasWildcard (s : List Char) : Bool :=
  s.any fun c => c == '*' || c == '?' || c == '['

/-- The text without any `./` it starts with. -/
def dropHere : List Char → List Char
  | '.' :: '/' :: cs => dropHere cs
  | cs => cs

/-- The text without the slashes it ends with. -/
def dropEndSlashes (s : List Char) : List Char :=
  (s.reverse.dropWhile (· = '/')).reverse

/-- The directory of a pattern `dir/*`. -/
def treeDir? (s : List Char) : Option (List Char) :=
  match s.reverse with
  | '*' :: '/' :: r => some (dropEndSlashes (dropHere r.reverse))
  | _ => none

/-- A glob, refused as the pattern it comes from. -/
def compile (pattern text : String) : Except Failure Glob :=
  match Glob.ofText text with
  | .ok g => .ok g
  | .error e => .error (.invalidPattern pattern e)

/-- The form of a pattern. -/
def formOf (pattern : String) : Except Failure ExclusionForm :=
  let cs := pattern.toList
  match treeDir? cs with
  | some dir =>
    if hasWildcard dir && !dir.contains '/' then do
      let g ← compile pattern (String.ofList dir)
      return .tree (String.ofList dir) (some g)
    else .ok (.tree (String.ofList dir) none)
  | none => .ok (if !cs.contains '/' && !hasWildcard cs then .name pattern else .glob)

/-- The pattern a text writes. -/
def ofText (raw : String) : Except Failure Exclusion := do
  let pattern := Text.trimmed raw
  let form ← formOf pattern
  if pattern = "" then return ⟨pattern, form, none⟩
  let g ← compile pattern pattern
  return ⟨pattern, form, some g⟩

/-- The segments of a path. -/
def segments (path : String) : List String :=
  (Text.pieces '/' path).filter (· ≠ "")

/-- Whether the form of a pattern excludes a path. -/
def formMatches (path : String) : ExclusionForm → Bool
  | .name n => (segments path).contains n
  | .tree dir segment =>
    Text.occursIn ('/' :: dir.toList ++ ['/']) path.toList ||
      (Text.after? (dir.toList ++ ['/']) path.toList).isSome ||
      segment.any fun g => (segments path).dropLast.any g.matchesText
  | .glob => false

/-- Whether a pattern excludes a path. The empty pattern excludes none. -/
def excludes (e : Exclusion) (path : String) : Bool :=
  e.text ≠ "" &&
    (formMatches path e.form ||
      e.glob.any fun g => g.matchesText path || (segments path).any g.matchesText)

end Exclusion

end Multilint
