import Multilint.Path
import Multilint.Text.Utf8
/-!
# Calls of commands

A call has one of three outcomes: the command ended, it ran longer than it may, or it could not be
started. None of them is a failure of the program that made the call.

A command writes bytes to two streams. The output of a call is the text of the first stream followed by
the text of the second one; each is read for itself, so bytes that are no text in one of them do not
change how the other one reads.
-/

namespace Multilint

/-- A call of a command. -/
structure Call where
  /-- The program and its arguments. -/
  command : List String
  /-- The directory the command runs in, where it is not that of the caller. -/
  dir : Option Path
  /-- The seconds it may take. -/
  seconds : Nat
  deriving DecidableEq, Repr

/-- The kinds of causes for which a command is not started. -/
inductive StartFault where
  /-- The program is not there. -/
  | notFound
  /-- The program may not be executed. -/
  | denied
  /-- There is no program to start, or a word that cannot be handed over. -/
  | invalid
  /-- A path goes on behind something that is no directory. -/
  | notDirectory
  /-- A path has too many links. -/
  | linkLoop
  /-- Anything else. -/
  | other
  deriving DecidableEq, Repr

/-- Why a command was not started. -/
structure StartFailure where
  /-- The kind of cause. -/
  fault : StartFault
  /-- The wording of the system. -/
  message : String
  deriving DecidableEq, Repr

namespace StartFailure

/-- The wording of the system for an error number. -/
def systemText : Nat → String
  | 1 => "Operation not permitted"
  | 2 => "No such file or directory"
  | 5 => "Input/output error"
  | 7 => "Argument list too long"
  | 8 => "Exec format error"
  | 11 => "Resource temporarily unavailable"
  | 12 => "Cannot allocate memory"
  | 13 => "Permission denied"
  | 20 => "Not a directory"
  | 22 => "Invalid argument"
  | 24 => "Too many open files"
  | 26 => "Text file busy"
  | 36 => "File name too long"
  | 40 => "Too many levels of symbolic links"
  | n => "Unknown error " ++ toString n

/-- The kind of cause of an error number. -/
def systemFault : Nat → StartFault
  | 2 => .notFound
  | 1 | 13 => .denied
  | 20 => .notDirectory
  | 22 => .invalid
  | 40 => .linkLoop
  | _ => .other

/-- The failure with an error number of the system. -/
def ofNumber (n : Nat) : StartFailure :=
  ⟨systemFault n, systemText n ++ " (os error " ++ toString n ++ ")"⟩

/-- The failure of a call that names no program. -/
def emptyCommand : StartFailure :=
  ⟨.invalid, "empty command"⟩

/-- The failure of a call with a word that the system cannot take. -/
def nulByte : StartFailure :=
  ⟨.invalid, "nul byte found in provided data"⟩

end StartFailure

/-- The outcome of a call. -/
inductive Outcome where
  /-- The command ended, with a status that means success or not, and all it wrote. -/
  | completed (success : Bool) (output : String)
  /-- The command took longer than it may. -/
  | timedOut
  /-- The command was not started. -/
  | failed (failure : StartFailure)
  deriving DecidableEq, Repr

/-! ## What a command wrote -/

/-- A command that has ended. -/
structure Ending where
  /-- Its status means success. -/
  success : Bool
  /-- What it wrote to standard output. -/
  out : List UInt8
  /-- What it wrote to standard error. -/
  err : List UInt8
  deriving DecidableEq, Repr

/-- The output of a command: what it wrote to standard output, then what it wrote to standard error. -/
def Ending.output (e : Ending) : String :=
  Utf8.text e.out ++ Utf8.text e.err

/-- The outcome of a call whose command has ended. -/
def Ending.outcome (e : Ending) : Outcome :=
  .completed e.success e.output

end Multilint
