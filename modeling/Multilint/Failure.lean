import Multilint.Glob.Basic
import Multilint.Json.Basic
import Multilint.Path
/-!
# Failures of a run

What keeps a run from giving a report. What goes wrong while a tool runs is no failure: it is part of
the tool's result.
-/

namespace Multilint

/-- An option given for a tool that the tool does not take. -/
inductive OptionFault where
  /-- The tool declares no such option. -/
  | unknown (key : String) (declared : List String)
  /-- The default of the option has another type. -/
  | wrongKind (key : String) (expected found : JsonKind)
  deriving DecidableEq, Repr

/-- The wording of an option fault. -/
def OptionFault.message : OptionFault → String
  | .unknown key declared =>
    "unknown option '" ++ key ++ "' (known: " ++ ", ".intercalate declared ++ ")"
  | .wrongKind key expected found =>
    "option '" ++ key ++ "' expects a " ++ expected.name ++ ", got a " ++ found.name

/-- A cause for which a run gives no report. -/
inductive Failure where
  /-- A requested tool is not in the toolbox. -/
  | unknownTool (id : String)
  /-- A tool of the same name is in the toolbox. -/
  | duplicateTool (name : String)
  /-- An option that the tool does not take. -/
  | invalidOption (tool : String) (fault : OptionFault)
  /-- A glob pattern that is no pattern. -/
  | invalidPattern (pattern : String) (failure : GlobFailure)
  /-- A settings file that cannot be read. -/
  | config (path : Path) (detail : String)
  /-- A tool did not pass the version gate of a strict run. -/
  | versionGate (tool message : String)
  /-- A file could not be read. -/
  | io (message : String)
  deriving DecidableEq, Repr

namespace Failure

/-- The wording of a failure. -/
def message : Failure → String
  | .unknownTool id => "unknown tool '" ++ id ++ "'"
  | .duplicateTool name => "tool '" ++ name ++ "' is already registered"
  | .invalidOption tool fault => "invalid option for " ++ tool ++ ": " ++ fault.message
  | .invalidPattern pattern failure =>
    "invalid glob pattern '" ++ pattern ++ "': " ++ failure.message
  | .config path detail => "invalid config " ++ path.toString ++ ": " ++ detail
  | .versionGate tool message => tool ++ " failed the version gate: " ++ message
  | .io message => message

/-- The exit status of a run that ends so: one for the version gate, two for anything that has to
be put right first. -/
def exitCode : Failure → Nat
  | .versionGate _ _ => 1
  | _ => 2

end Failure

end Multilint
