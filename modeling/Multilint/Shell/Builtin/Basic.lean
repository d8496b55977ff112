import Multilint.Machine.Condition
import Multilint.Machine.Formatted
import Multilint.Shell.Builtin.Processes
/-!
# Commands about the course of a script, texts and directories

Commands that end scripts, functions and loops, those that only write or answer a question, and those about the
directory of the process.
-/

namespace Multilint

namespace Shell

namespace Builtin

/-- `exit`, with the status of the last command where none is said. -/
def exit (args : List String) : Run Unit := do
  match args with
  | [] =>
    if let some n := (← ofProcess Process.kept) then setStatus n
  | a :: _ => setStatus (← number a)
  throw .exit

/-- `return`. -/
def leaveFunction (args : List String) : Run Unit := do
  if let some a := args.head? then setStatus (← number a)
  throw .finish

/-- `break` and `continue`: leave as many loops as are said, as far as there are so many. -/
def leaveLoops (escape : Nat → Escape) (args : List String) : Run Unit := do
  let n ← match args with
    | [] => pure 1
    | a :: _ => do
      let n ← number a
      if n = 0 then fail ("Illegal number: " ++ a)
      pure n
  setStatus 0
  let around ← ofProcess Process.loops
  if around > 0 then throw (escape (min n around - 1))

/-- `echo`. -/
def echo (args : List String) : Run Unit := do
  emit 1 ⟨Formatted.echoEscaped args, []⟩
  setStatus 0

/-- `printf`. -/
def printf (args : List String) : Run Unit := do
  let k ← chosen [] args
  match k.rest with
  | [] => fail "usage: printf format [arg ...]"
  | format :: rest =>
    let (bytes, faults) := Formatted.printf .shell format rest
    emit 1 ⟨bytes, []⟩
    faults.forM fun f => complain (f.message .shell)
    setStatus (if faults.any Formatted.Fault.ofFormat then 2 else if faults.isEmpty then 0 else 1)

/-- `test`, and `[` under its own name. -/
def test (name : String) (args : List String) : Run Unit := do
  if name = "[" && args.getLast? ≠ some "]" then fail "missing ]"
  let s ← surroundings
  match Condition.holds s.tree s.dir (if name = "[" then args.dropLast else args) with
  | .ok b => setStatus (if b then 0 else 1)
  | .error why => fail why.message

/-- The directory of the process with all links followed. -/
def physical (tree : FileTree) (dir p : Path) : Path :=
  match tree.resolve dir p with
  | .ok found => Path.ofNames found.names
  | .error _ => Path.absolute dir p

/-- `pwd`. -/
def pwd (args : List String) : Run Unit := do
  let k ← chosen (plainLetters "LP") args
  let s ← surroundings
  let dir := if (k.options.getLast?).any (·.1 = 'P') then physical s.tree s.dir (Path.ofString ".") else s.dir
  say (dir.toString ++ "\n")
  setStatus 0

/-- Whether a path is looked for from other directories too. -/
def isSearched (text : String) : Bool :=
  match text.toList with
  | '/' :: _ => false
  | ['.'] | '.' :: '/' :: _ | ['.', '.'] | '.' :: '.' :: '/' :: _ => false
  | _ => true

/-- `cd`. -/
def cd (args : List String) : Run Unit := do
  let k ← chosen (plainLetters "LP") args
  let p ← ofProcess id
  let (target, back) := match k.rest with
    | [] => ((valueOf? p "HOME").getD "", false)
    | a :: _ => if a = "-" then ((valueOf? p "OLDPWD").getD "", true) else (a, false)
  let s ← surroundings
  let text := if target = "" then "." else target
  let places := if isSearched text then Text.pieces ':' ((valueOf? p "CDPATH").getD "") else []
  let candidates := places.map fun d => (if d = "" then text else d ++ "/" ++ text, d != "")
  let (chosen, shown) := (candidates.find? fun c => s.tree.isDir s.dir (Path.ofString c.1)).getD (text, false)
  let path := Path.absolute s.dir (Path.ofString chosen)
  let path := if (k.options.getLast?).any (·.1 = 'P') then physical s.tree s.dir (Path.ofString chosen) else path
  if !s.tree.isDir s.dir path then fail ("can't cd to " ++ target)
  setVariable "OLDPWD" fun v => { v with value := some s.dir.toString, exported := true }
  setVariable "PWD" fun v => { v with value := some path.toString, exported := true }
  changeProcess fun p => { p with dir := path }
  if back || shown then say (path.toString ++ "\n")
  setStatus 0

end Builtin

end Shell

end Multilint
