import Multilint.Machine.Formatted
import Multilint.Shell.Builtin
import Multilint.Shell.Lookup
/-!
# The start of programs

What a program finds when it starts: the variables that were exported to it, the directories that commands are looked
for in, and what is said where there is no such command. Programs of files and streams are carried out here.
-/

namespace Multilint

namespace Shell

/-- The variables that a program started now sees. -/
def exportedVariables (p : Process) : List (String × Variable) :=
  p.bindings.filter fun v => v.2.exported && v.2.value.isSome

/-- The directories of the system for commands. -/
def systemPath : String :=
  "/usr/local/sbin:/usr/local/bin:/usr/sbin:/usr/bin:/sbin:/bin"

/-- The directories that commands are looked for in. -/
def searchPath (p : Process) : List String :=
  match valueOf? p "PATH" with
  | some v => Text.pieces ':' v
  | none => []

/-- The directories that commands are looked for in where no variable says so. -/
def defaultPath : List String :=
  ["/bin", "/usr/bin"]

/-- The message and the status for a command that cannot be started. -/
def startFault (name : String) : Nat → String × Nat
  | 2 | 20 => if name = "" then (": Permission denied", 127) else (name ++ ": not found", 127)
  | 13 => (name ++ ": Permission denied", 126)
  | 8 => (name ++ ": Exec format error", 126)
  | _ => (name ++ ": cannot execute", 126)

/-- What `env` changes before it starts a command. -/
structure Settings where
  /-- Nothing is left of the variables. -/
  empty : Bool := false
  /-- The variables that are taken away. -/
  removed : List String := []
  /-- The variables that are set. -/
  assigned : List (String × String) := []
  /-- The command. -/
  command : List String := []

/-- Reads the arguments of `env`, of which there are at most so many; a letter that it does not know is a fault. -/
def Settings.take : Nat → List String → Except Char Settings
  | 0, args => .ok { command := args }
  | _, [] => .ok {}
  | n + 1, a :: rest =>
    match a.toList with
    | ['-'] | ['-', 'i'] => (take n rest).map fun k => { k with empty := true }
    | ['-', 'u'] => (take n (rest.drop 1)).map fun k => { k with removed := rest.head?.toList ++ k.removed }
    | ['-', '-'] => (take n rest)
    | '-' :: c :: _ => .error c
    | _ =>
      match splitAssignment a with
      | (name, some value) => (take n rest).map fun k => { k with assigned := (name, value) :: k.assigned }
      | (_, none) => .ok { command := a :: rest }

/-- The variables of a shell at its start. -/
def startingVariables (p : Process) : List (String × Variable) :=
  let given := exportedVariables p |>.filter fun v => !(["IFS", "OPTIND", "PWD", "PS1", "PS2", "PS4"].contains v.1)
  let own : List (String × Variable) :=
    [("IFS", { value := some usualSeparators }), ("OPTIND", { value := some "1" }),
      ("PPID", { value := some (toString (p.number - 1)) }), ("PS1", { value := some "# " }),
      ("PS2", { value := some "> " }), ("PS4", { value := some "+ " }),
      ("PWD", { value := some p.dir.toString, exported := true })]
  own ++ (if (given.lookup "PATH").isSome then [] else [("PATH", { value := some systemPath })]) ++ given

/-- Carries out the programs that need no shell. -/
def plainProgram (name called : String) (args : List String) : Run Unit := do
  match name with
  | "echo" =>
    emit 1 ⟨Formatted.echoPlain args, []⟩
    setStatus 0
  | "printf" =>
    match args with
    | [] => perform ({ (← surroundings) with called }.misused "missing operand")
    | format :: rest =>
      let (bytes, faults) := Formatted.printf .program format rest
      emit 1 ⟨bytes, []⟩
      faults.forM fun f => emit 2 (.ofText (called ++ ": " ++ f.message .program ++ "\n"))
      setStatus (if faults.isEmpty then 0 else 1)
  | _ =>
    match Program.table.lookup name with
    | some program => perform (program args { (← surroundings) with called })
    | none =>
      match builtin? name args with
      | some x => x
      | none => setStatus 0

end Shell

end Multilint
