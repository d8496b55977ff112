import Multilint.Command.Host
import Multilint.Shell.Execution
/-!
# An in-memory machine

A machine holds files and an environment, and it answers calls: the command is looked up, run as a program
or as a script, and what it wrote until its time was up is its output. So whole runs can be carried out and
reasoned about without any process.
-/

namespace Multilint

/-- A machine. -/
structure Machine where
  /-- The files. -/
  tree : FileTree
  /-- The variables that commands see. -/
  environment : List (String × String) := []

namespace Machine

/-- The number of steps after which a script counts as one that never ends. -/
def stepLimit : Nat := 200000

/-- A process of a machine before its program runs. -/
def process (m : Machine) (dir : Path) : Shell.Process :=
  { dir, bindings := m.environment.map fun (k, v) => (k, { value := some v, exported := true }) }

/-- The directory that a call runs in, with all links followed. -/
def place (m : Machine) (here : Path) (dir : Option Path) : Except Nat Path :=
  match m.tree.resolve here (dir.getD (Path.ofString ".")) with
  | .ok ⟨names, .dir _⟩ => .ok (Path.ofNames names)
  | .ok _ => .error 20
  | .error fault => .error (Shell.faultNumber fault)

/-- Runs a program of the system until a time is up. Without any time it does nothing. -/
def runProgram (m : Machine) (dir : Path) (milliseconds : Nat) (program : Shell.Executable) (args : List String) :
    Outcome × Machine :=
  let start : Shell.State := { tree := m.tree, limit := milliseconds, process := m.process dir }
  let (result, s) := (Shell.standard stepLimit program.name program.called (program.front ++ args)).run.run start
  let ended (success : Bool) : Outcome :=
    Ending.outcome
      { success
        out := (Shell.writtenTo s.writes 1 (some milliseconds)).bytes
        err := (Shell.writtenTo s.writes 2 (some milliseconds)).bytes }
  let outcome := match result with
    | .error .hang => .timedOut
    | .error (.killed _) => ended false
    | _ => ended (s.process.status % 256 = 0)
  if milliseconds = 0 then (.timedOut, m) else (outcome, { m with tree := s.tree })

/-- Runs a command in a directory until a time is up. -/
def run (m : Machine) (here : Path) (command : List String) (dir : Option Path) (milliseconds : Nat) :
    Outcome × Machine :=
  let failed (n : Nat) : Outcome × Machine := (.failed (.ofNumber n), m)
  match command with
  | [] => (.failed .emptyCommand, m)
  | name :: args =>
    if command.any fun a => a.toList.contains '\x00' then (.failed .nulByte, m)
    else
      match m.place here dir with
      | .error n => failed n
      | .ok place =>
        let path :=
          match m.environment.lookup "PATH" with
          | some text => Text.pieces ':' text
          | none => Shell.defaultPath
        match Shell.locate m.tree place path name with
        | .error n => failed n
        | .ok e => m.runProgram place milliseconds e args

/-- The host that a machine is for a run in a directory. -/
def host (here : Path) : Host Machine :=
  { call := fun c m => m.run here c.command c.dir (1000 * c.seconds)
    tree := Machine.tree
    dir := here }

end Machine

end Multilint
