import Multilint.Shell.Builtin.Basic
import Multilint.Shell.Token
/-!
# Commands of the shell itself

The table of the commands that a shell carries out without starting a program. For some of them a fault is one of the
shell, which ends by it, and what is assigned in front of them stays.
-/

namespace Multilint

namespace Shell

/-- What a command does that the shell carries out itself, as far as that needs no other commands. -/
def builtin? (name : String) (args : List String) : Option (Run Unit) :=
  match name with
  | ":" | "true" => some (setStatus 0)
  | "false" => some (setStatus 1)
  | "echo" => some (Builtin.echo args)
  | "printf" => some (Builtin.printf args)
  | "test" | "[" => some (Builtin.test name args)
  | "exit" => some (Builtin.exit args)
  | "return" => some (Builtin.leaveFunction args)
  | "break" => some (Builtin.leaveLoops .leave args)
  | "continue" => some (Builtin.leaveLoops .again args)
  | "cd" | "chdir" => some (Builtin.cd args)
  | "pwd" => some (Builtin.pwd args)
  | "set" => some (Builtin.set args)
  | "shift" => some (Builtin.shift args)
  | "export" =>
    some (Builtin.mark name (fun v => { v with exported := true }) Variable.exported args)
  | "readonly" => some (Builtin.mark name (fun v => { v with fixed := true }) Variable.fixed args)
  | "local" => some (Builtin.makeLocal args)
  | "unset" => some (Builtin.unset args)
  | "read" => some (Builtin.read args)
  | "getopts" => some (Builtin.getopts args)
  | "alias" => some (Builtin.setAliases args)
  | "unalias" => some (Builtin.unalias args)
  | "kill" => some (Builtin.kill args)
  | "trap" => some (Builtin.trap args)
  | "wait" => some (Builtin.wait args)
  | "jobs" => some (Builtin.jobs args)
  | "fg" | "bg" => some (Builtin.toForeground args)
  | "umask" => some (Builtin.umask args)
  | "ulimit" => some (Builtin.ulimit args)
  | "times" => some Builtin.times
  | _ => none

/-- The commands of the shell that carry out others. -/
def outerCommands : List String :=
  [".", "command", "eval", "exec", "hash", "type"]

/-- Whether a command is one of the shell. -/
def isBuiltin (name : String) : Bool :=
  outerCommands.contains name || (builtin? name []).isSome

/-- The commands whose arguments may be assignments. -/
def declaringCommands : List String :=
  ["export", "local", "readonly"]

end Shell

end Multilint
