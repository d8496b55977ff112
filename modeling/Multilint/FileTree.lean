import Multilint.Path
/-!
# File trees

A tree of files, directories and symbolic links. `FileTree.resolve` follows a path through the tree the
way an operating system does: each name on the way must be a directory, `..` leads to the directory a
link led into, and links are followed a bounded number of times. `FileTree.walk` lists the files below a
directory without following the links in it.
-/

namespace Multilint

/-- A file, a directory or a link. -/
inductive FileTree where
  /-- A file, and whether it may be executed. -/
  | file (content : ByteArray) (executable : Bool)
  /-- A directory. -/
  | dir (entries : List (String × FileTree))
  /-- A symbolic link and its target. -/
  | link (target : String)

instance : Inhabited FileTree := ⟨.dir []⟩

/-- Why a path leads nowhere. -/
inductive PathFault where
  /-- Nothing has the name. -/
  | missing
  /-- The path goes on behind something that is no directory. -/
  | notDirectory
  /-- Too many links. -/
  | linkLoop
  deriving DecidableEq, Repr

/-- What stands at the end of a path, and its names from the root with all links followed. -/
structure Found where
  /-- The names from the root. -/
  names : List String
  /-- What is there. -/
  node : FileTree

namespace FileTree

/-- The entry of a directory with a given name. -/
def entry? (t : FileTree) (name : String) : Option FileTree :=
  match t with
  | .dir es => (es.find? (·.1 = name)).map (·.2)
  | _ => none

/-- What stands at given names, no link being followed. -/
def at? : FileTree → List String → Option FileTree
  | t, [] => some t
  | t, n :: ns => (t.entry? n).bind (·.at? ns)

/-- Whether something is a directory. -/
def isDirNode : FileTree → Bool
  | .dir _ => true
  | _ => false

/-- Follows segments from a directory. `jump` goes on behind a link, and the flag says whether a link in
the last place is followed too. -/
def follow (root : FileTree) (last : Bool)
    (jump : List String → List String → Except PathFault Found) :
    List String → List String → Except PathFault Found
  | here, [] =>
    match root.at? here with
    | some t => .ok ⟨here, t⟩
    | none => .error .missing
  | here, s :: rest =>
    match root.at? here with
    | none => .error .missing
    | some t =>
      if !t.isDirNode then .error .notDirectory
      else if s = "" || s = "." then follow root last jump here rest
      else if s = ".." then follow root last jump here.dropLast rest
      else
        match t.entry? s with
        | none => .error .missing
        | some (.link target) =>
          if rest.isEmpty && !last then .ok ⟨here ++ [s], .link target⟩
          else
            let p := Path.ofString target
            if target = "" then .error .missing
            else jump (if p.rooted then [] else here) (p.segments ++ rest)
        | some _ => follow root last jump (here ++ [s]) rest

/-- Follows segments from a directory through at most so many links. -/
def followLinks (root : FileTree) (last : Bool) :
    Nat → List String → List String → Except PathFault Found
  | 0, _, _ => .error .linkLoop
  | links + 1, here, segments => follow root last (followLinks root last links) here segments

/-- The number of links after which a path is given up. -/
def linkLimit : Nat := 40

/-- What a path leads to from a directory; the flag says whether a link in the last place is followed. -/
def resolveWith (root : FileTree) (last : Bool) (dir p : Path) : Except PathFault Found :=
  if !p.rooted && p.segments.isEmpty then .error .missing
  else followLinks root last (linkLimit + 1) (if p.rooted then [] else dir.names) p.segments

/-- What a path leads to from a directory. -/
def resolve (root : FileTree) (dir p : Path) : Except PathFault Found :=
  root.resolveWith true dir p

/-- What a path names in a directory, which may be a link. -/
def resolveEntry (root : FileTree) (dir p : Path) : Except PathFault Found :=
  root.resolveWith false dir p

/-- Whether a path leads to a file. -/
def isFile (root : FileTree) (dir p : Path) : Bool :=
  match root.resolve dir p with
  | .ok ⟨_, .file _ _⟩ => true
  | _ => false

/-- Whether a path leads to a directory. -/
def isDir (root : FileTree) (dir p : Path) : Bool :=
  match root.resolve dir p with
  | .ok ⟨_, .dir _⟩ => true
  | _ => false

/-- Whether a path leads to anything. -/
def leads (root : FileTree) (dir p : Path) : Bool :=
  (root.resolve dir p).toOption.isSome

/-- The content of a file. -/
def content? (root : FileTree) (dir p : Path) : Option ByteArray :=
  match root.resolve dir p with
  | .ok ⟨_, .file bytes _⟩ => some bytes
  | _ => none

/-! ## Walks -/

mutual

/-- The files at and below something that stands at given names. `prune` passes over a directory below
the start, and `isFile` tells which links lead to files. -/
def walkNode (prune isFile : List String → Bool) (names : List String) :
    FileTree → List (List String)
  | .file _ _ => [names]
  | .dir es => walkEntries prune isFile names es
  | .link _ => if isFile names then [names] else []

/-- The files at and below the entries of a directory. -/
def walkEntries (prune isFile : List String → Bool) (names : List String) :
    List (String × FileTree) → List (List String)
  | [] => []
  | (n, t) :: es =>
    (if t.isDirNode && prune (names ++ [n]) then []
      else walkNode prune isFile (names ++ [n]) t) ++ walkEntries prune isFile names es

end

/-- The files at and below given names. A link in the place where the walk starts is followed, the
links below it are not. -/
def walk (root : FileTree) (prune : Path → Bool) (start : Path) : List Path :=
  let isFile ns := root.isFile Path.root (Path.ofNames ns)
  let prune ns := prune (Path.ofNames ns)
  let found := match root.resolveEntry Path.root start with
    | .ok ⟨_, .link _⟩ =>
      match root.resolve Path.root start with
      | .ok ⟨_, .dir es⟩ => walkEntries prune isFile start.names es
      | .ok ⟨_, .file _ _⟩ => [start.names]
      | _ => []
    | .ok ⟨_, t⟩ => walkNode prune isFile start.names t
    | .error _ => []
  found.map Path.ofNames

/-! ## Changes -/

/-- The entries with one put in place of the one of its name, or at the end. -/
def putEntry (name : String) (t : FileTree) : List (String × FileTree) → List (String × FileTree)
  | [] => [(name, t)]
  | (n, u) :: es => if n = name then (n, t) :: es else (n, u) :: putEntry name t es

/-- The tree with something put at given names; directories on the way are made. -/
def insert (new : FileTree) : List String → FileTree → FileTree
  | [], _ => new
  | n :: ns, t =>
    let es := match t with
      | .dir es => es
      | _ => []
    .dir (putEntry n (insert new ns ((t.entry? n).getD (.dir []))) es)

/-- The tree without what stands at given names. -/
def remove (t : FileTree) (names : List String) : FileTree :=
  match t.at? names.dropLast, names.getLast? with
  | some (.dir es), some last => insert (.dir (es.filter (·.1 ≠ last))) names.dropLast t
  | _, _ => t

end FileTree

end Multilint
