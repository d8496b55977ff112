import Multilint.Machine.Program
/-!
# What a command name leads to

A name with a slash is a path; any other one is looked for in the directories of the search path. The
programs of the system stand in its own directories, whatever the files are. A file may be executed when
its mode says so, and a file that starts with `#!` is handed to the program it names.
-/

namespace Multilint

namespace Shell

/-- What can be started: a program of the system, with arguments in front of those given. -/
structure Executable where
  /-- The name of the program. -/
  name : String
  /-- What it was called. -/
  called : String
  /-- The arguments in front. -/
  front : List String
  deriving DecidableEq, Repr

/-- The programs of the system besides those of files and streams. -/
def systemPrograms : List String :=
  ["sh", "dash", "bash", "env", "echo", "printf", "true", "false", "test", "[", "pwd", "kill"] ++
    Program.table.map (·.1)

/-- The program of the system that a path names. -/
def systemProgram? (dir : Path) (p : Path) : Option String :=
  match (Path.absolute dir p).names with
  | ["bin", name] => if systemPrograms.contains name then some name else none
  | ["usr", "bin", name] => if systemPrograms.contains name then some name else none
  | _ => none

/-- The program and the argument that the first line of a file names. -/
def interpreter? (content : List UInt8) : Option (String × List String) :=
  match content with
  | 35 :: 33 :: rest =>
    let line := Utf8.characters (rest.takeWhile (· ≠ Flow.newline))
    let blank (c : Char) : Bool := c = ' ' || c = '\t'
    let line := (line.dropWhile blank).reverse.dropWhile blank |>.reverse
    let name := line.takeWhile fun c => !blank c
    let argument := (line.drop name.length).dropWhile blank
    some (String.ofList name, if argument.isEmpty then [] else [String.ofList argument])
  | _ => none

/-- The number of the system for a path that leads nowhere. -/
def faultNumber : PathFault → Nat
  | .missing => 2
  | .notDirectory => 20
  | .linkLoop => 40

/-- What a path leads to, through at most so many files that name a program, or the number of the fault. -/
def executable (tree : FileTree) (dir : Path) : Nat → String → Except Nat Executable
  | 0, _ => .error 40
  | n + 1, text =>
    let p := Path.ofString text
    match tree.resolve dir p with
    | .ok ⟨_, .file content true⟩ =>
      match interpreter? content.toList with
      | none => .error 8
      | some (name, argument) =>
        match executable tree dir n name with
        | .ok e => .ok { e with front := e.front ++ argument ++ [text] }
        | .error e => .error e
    | .ok _ => .error 13
    | .error fault =>
      match systemProgram? dir p with
      | some name => .ok ⟨name, text, []⟩
      | none => .error (faultNumber fault)

/-- The path of a name in a directory of the search path. -/
def inDirectory (d name : String) : String :=
  (if d = "" then "." else d) ++ "/" ++ name

/-- Looks for a name in directories. A file that may not be executed is remembered, and the search goes
on. -/
def search (tree : FileTree) (dir : Path) (name : String) : Bool → List String → Except Nat Executable
  | denied, [] => .error (if denied then 13 else 2)
  | denied, d :: ds =>
    match executable tree dir 4 (inDirectory d name) with
    | .ok e => .ok (if e.front.isEmpty then { e with called := name } else e)
    | .error 13 => search tree dir name true ds
    | .error 2 | .error 20 => search tree dir name denied ds
    | .error n => .error n

/-- What a command name leads to, or the number of the fault. -/
def locate (tree : FileTree) (dir : Path) (searchPath : List String) (name : String) :
    Except Nat Executable :=
  if name = "" then .error 2
  else if name.toList.contains '/' then executable tree dir 4 name
  else search tree dir name false searchPath

/-- The path of a file that may be executed, as a name leads to it. -/
def pathOf? (tree : FileTree) (dir : Path) (searchPath : List String) (name : String) : Option String :=
  let names (p : String) : Bool := match executable tree dir 4 p with
    | .error n => n = 8
    | .ok _ => true
  if name.toList.contains '/' then if names name then some name else none
  else (searchPath.map fun d => inDirectory d name).find? names

end Shell

end Multilint
