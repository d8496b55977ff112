import Multilint.Text.Basic
/-!
# Paths

A path keeps its segments as they were written. Its parts leave out what says nothing: empty segments,
and each `.` that does not start a relative path. `Path.absolute` resolves a path against a directory
by its parts alone, without looking at any file.
-/

namespace Multilint

/-- A path as it is written: the segments between slashes, behind a slash where it is rooted. -/
structure Path where
  /-- Whether it starts with a slash. -/
  rooted : Bool
  /-- What stands between the slashes. -/
  segments : List String
  deriving DecidableEq, Repr, Inhabited

/-- A part of a path that says something. -/
inductive Part where
  /-- The slash a rooted path starts with. -/
  | root
  /-- The dot that starts a relative path. -/
  | here
  /-- Two dots. -/
  | up
  /-- A name. -/
  | name (s : String)
  deriving DecidableEq, Repr

namespace Path

/-- The path a text writes. -/
def ofString (s : String) : Path :=
  match s.toList with
  | [] => ⟨false, []⟩
  | ['/'] => ⟨true, []⟩
  | '/' :: cs => ⟨true, (Text.splitOn '/' cs).map String.ofList⟩
  | cs => ⟨false, (Text.splitOn '/' cs).map String.ofList⟩

/-- The text of a path. -/
def toString (p : Path) : String :=
  (if p.rooted then "/" else "") ++ "/".intercalate p.segments

instance : ToString Path := ⟨Path.toString⟩

/-- The path of given names from the root. -/
def ofNames (names : List String) : Path :=
  ⟨true, names⟩

/-- The directory that holds everything. -/
def root : Path := ofNames []

/-- The part that a segment is, where it is not the first one. -/
def part? (s : String) : Option Part :=
  if s = "" || s = "." then none
  else if s = ".." then some .up
  else some (.name s)

/-- The parts of a path. -/
def parts (p : Path) : List Part :=
  if p.rooted then .root :: p.segments.filterMap part?
  else
    match p.segments with
    | "." :: rest => .here :: rest.filterMap part?
    | ss => ss.filterMap part?

/-- The names left when each `..` takes back the name before it, starting with given names. The
root is its own parent. -/
def fold (names : List String) : List Part → List String
  | [] => names
  | .root :: ps => fold [] ps
  | .here :: ps => fold names ps
  | .up :: ps => fold names.dropLast ps
  | .name s :: ps => fold (names ++ [s]) ps

/-- The names of a path from the root, if it is rooted. -/
def names (p : Path) : List String :=
  fold [] p.parts

/-- The path from the root that a path means in a directory. -/
def absolute (dir p : Path) : Path :=
  ofNames (fold dir.names p.parts)

/-- The path of something in a directory; a rooted path replaces the directory. -/
def join (p q : Path) : Path :=
  if q.rooted || (!p.rooted && p.segments.isEmpty) then q
  else
    let ss := if p.segments.getLast? = some "" then p.segments.dropLast else p.segments
    ⟨p.rooted, ss ++ if q.segments.isEmpty then [""] else q.segments⟩

/-- The segments up to the last one that says something. -/
def core (p : Path) : List String :=
  let ss := (p.segments.reverse.dropWhile fun s => s = "" || s = ".").reverse
  if ss.isEmpty && !p.rooted && p.segments.head? = some "." then ["."] else ss

/-- The path without its last part; the root and the empty path have none. -/
def parent? (p : Path) : Option Path :=
  match p.core with
  | [] => none
  | s :: ss => some { p with segments := ({ p with segments := (s :: ss).dropLast } : Path).core }

/-- The last part, if it is a name. -/
def fileName? (p : Path) : Option String :=
  match p.parts.getLast? with
  | some (.name s) => some s
  | _ => none

/-- Whether the parts of a path start with the parts of another one. -/
def startsWith (p q : Path) : Bool :=
  q.parts.isPrefixOf p.parts

/-- The path and the directories above it, up to the root. -/
def ancestors (p : Path) : List Path :=
  (List.range (p.names.length + 1)).map fun k => ofNames (p.names.take (p.names.length - k))

/-- The text that patterns are matched with: backslashes count as slashes. -/
def slashed (p : Path) : String :=
  String.ofList (p.toString.toList.map fun c => if c = '\\' then '/' else c)

/-- The order of paths: name by name, a directory before what is in it. -/
def namesLe : List String → List String → Bool
  | [], _ => true
  | _ :: _, [] => false
  | a :: as, b :: bs => a < b || (a = b && namesLe as bs)

/-- The order of paths from the root. -/
def le (p q : Path) : Bool :=
  namesLe p.names q.names

/-- The names left of two lists behind their common beginning. -/
def diverge : List String → List String → List String × List String
  | a :: as, b :: bs => if a = b then diverge as bs else (a :: as, b :: bs)
  | as, bs => (as, bs)

/-- The path of a file as seen from a directory, both from the root: up to their common directory,
then down. -/
def relativeTo (file dir : Path) : Path :=
  let (down, up) := diverge file.names dir.names
  ⟨false, up.map (fun _ => "..") ++ down⟩

/-! ## The directory that holds several files -/

/-- The path cut until it holds another one; nothing if even its first part does not. The fuel is
the number of its parts. -/
def cutUntil (dir : Path) : Nat → Path → Option Path
  | 0, p => if dir.startsWith p then some p else none
  | fuel + 1, p =>
    if dir.startsWith p then some p
    else
      match p.parent? with
      | none => none
      | some q => cutUntil dir fuel q

/-- The deepest directory that holds all files. -/
def commonParent? (files : List Path) : Option Path :=
  match files.filterMap parent? with
  | [] => none
  | d :: ds => ds.foldl (fun c dir => c.bind fun c => cutUntil dir (c.parts.length) c) (some d)

end Path

end Multilint
