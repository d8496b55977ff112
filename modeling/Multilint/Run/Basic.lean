import Multilint.Scope.Rules
import Multilint.Tool.Toolbox
import Multilint.Version.Basic
/-!
# What a run is asked for

A request says which tools work on which files, and whether they check or fix. The settings of a run hold
what is the same for every tool, and what is set for single tools.
-/

namespace Multilint

/-- What the tools are to do. -/
inductive Action where
  /-- Report findings. -/
  | check
  /-- Mend findings. -/
  | fix
  deriving DecidableEq, Repr, Inhabited

namespace Action

/-- The name of an action. -/
def name : Action → String
  | .check => "check"
  | .fix => "fix"

/-- Whether findings are mended. -/
def isFix : Action → Bool
  | .check => false
  | .fix => true

end Action

/-- A request. -/
structure Request where
  /-- The tools; none means every tool that can do what is asked. -/
  tools : List String := []
  /-- Tools that are left out unless they are named. -/
  disabled : List String := []
  /-- Files and directories to work on. -/
  inputs : List Path := []
  /-- What to do. -/
  action : Action := .check
  /-- Tools run even when they conflict. -/
  ignoreConflicts : Bool := false
  /-- A tool that does not pass the version gate ends the run. -/
  strict : Bool := false
  deriving DecidableEq, Repr

/-- What is set for one tool. -/
structure ToolSettings where
  /-- The seconds a command may take. -/
  timeout : Option Nat := none
  /-- Options in place of the tool's defaults. -/
  options : Options := .empty
  deriving Repr, Inhabited

/-- What is set for a run. -/
structure RunSettings where
  /-- The directory that tools run in unless they run beside their files. -/
  root : Path := ⟨false, ["."]⟩
  /-- Findings are mended where a tool can. -/
  fix : Bool := false
  /-- What is out of the run. -/
  scope : Scope := {}
  /-- The seconds a command of any tool may take. -/
  timeout : Option Nat := none
  /-- Settings of single tools under their identities. -/
  tools : List (String × ToolSettings) := []
  /-- The seconds a version command may take. -/
  versionSeconds : Nat := Version.defaultSeconds
  deriving Repr, Inhabited

namespace RunSettings

/-- The settings of a tool. -/
def tool? (s : RunSettings) (name : String) : Option ToolSettings :=
  Keyed.get? s.tools (toolId name)

/-- The seconds a command of a tool may take: what is set for the run, else for the tool, else what the
tool says. -/
def secondsFor (s : RunSettings) (spec : ToolSpec) : Nat :=
  (s.timeout.or ((s.tool? spec.name).bind ToolSettings.timeout)).getD spec.effectiveTimeout

/-- The options a tool runs with. -/
def optionsFor (s : RunSettings) (spec : ToolSpec) : Except Failure Options :=
  spec.effectiveOptions (((s.tool? spec.name).map ToolSettings.options).getD .empty)

end RunSettings

end Multilint
