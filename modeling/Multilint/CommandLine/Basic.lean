import Multilint.Settings.Resolution
/-!
# What a command line asks for

A command line is read as an order: say which version this is, list the tools, or run tools. One that
gives no order halts, either because it asks for an explanation or because of a mistake.
-/

namespace Multilint

/-- What a command line says about a run. -/
structure RunArguments where
  /-- The files and directories to work on. -/
  inputs : List String
  /-- What is set in place of the settings file. -/
  overrides : Overrides
  /-- No progress is shown. -/
  noProgress : Bool := false
  deriving DecidableEq, Repr

/-- What is asked for. -/
inductive Order where
  /-- Which version this is. -/
  | version
  /-- The tools, in the format of a key. -/
  | listTools (format : Option String)
  /-- A run. -/
  | run (action : Action) (arguments : RunArguments)
  deriving DecidableEq, Repr

/-- An order, and whether much is said while it is carried out. -/
structure CommandLine where
  /-- Much is said. -/
  verbose : Bool
  /-- What is asked for. -/
  order : Order
  deriving DecidableEq, Repr

namespace CommandLine

/-- The level from which entries of the log are written. -/
def logLevel (verbose : Bool) : String :=
  if verbose then "debug" else "warn"

end CommandLine

/-- Why a command line gives no order. -/
inductive Halt where
  /-- An explanation is asked for. -/
  | help
  /-- The version is asked for by an option. -/
  | version
  /-- Nothing at all is said. -/
  | nothingGiven
  /-- No command is given. -/
  | noCommand
  /-- There is no such command. -/
  | unknownCommand
  /-- There is no such argument. -/
  | unknownArgument
  /-- An option that takes a value stands without one. -/
  | valueMissing
  /-- The value of an option cannot be read. -/
  | valueUnreadable
  /-- An option that takes no value is given one. -/
  | valueUnwanted
  /-- An option is given twice. -/
  | givenTwice
  deriving DecidableEq, Repr

namespace Halt

/-- The exit status: what is asked for is no mistake. -/
def exitCode : Halt → Nat
  | .help | .version => 0
  | _ => 2

/-- What the commands are. -/
def usage : String :=
  "Usage: metalint [--verbose] version|check|fmt|list-tools|help [ARGUMENTS]"

/-- The wording of a mistake. -/
def message : Halt → String
  | .help | .version => ""
  | .nothingGiven | .noCommand => "a command is required"
  | .unknownCommand => "there is no such command"
  | .unknownArgument => "there is no such argument"
  | .valueMissing => "an option needs a value"
  | .valueUnreadable => "the value of an option cannot be read"
  | .valueUnwanted => "an option takes no value"
  | .givenTwice => "an option is given twice"

end Halt

end Multilint
