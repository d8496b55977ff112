import Multilint.Findings.Json
import Multilint.Table.Column
import Multilint.Tool.Options
/-!
# Tools

A tool is described by a `ToolSpec`, which never changes, and served by a `ToolAdapter`: how its
commands are built, how its output is read and in which columns its findings are shown.
-/

namespace Multilint

/-- A role that a tool plays. -/
inductive Role where
  /-- It finds faults. -/
  | linter
  /-- It changes files. -/
  | formatter
  /-- It checks types. -/
  | typeChecker
  /-- It finds weaknesses. -/
  | security
  /-- It checks documentation. -/
  | docs
  deriving DecidableEq, Repr

namespace Role

/-- The roles in the order they are listed. -/
def all : List Role :=
  [.linter, .formatter, .typeChecker, .security, .docs]

/-- The label of a role. -/
def label : Role → String
  | .linter => "linter"
  | .formatter => "formatter"
  | .typeChecker => "type-checker"
  | .security => "security"
  | .docs => "docs"

end Role

/-- How a tool is called on its files. -/
inductive Invocation where
  /-- Once for each file, so that one file cannot spoil the others. -/
  | perFile
  /-- Once for all files. -/
  | batch
  /-- Once; it finds its files by itself. -/
  | project
  deriving DecidableEq, Repr, Inhabited

/-- The name of an invocation. -/
def Invocation.name : Invocation → String
  | .perFile => "per-file"
  | .batch => "batch"
  | .project => "project"

/-- A description of a tool. -/
structure ToolSpec where
  /-- The name it is listed under. -/
  name : String
  /-- What it is. -/
  description : String := ""
  /-- It can report findings. -/
  canCheck : Bool := false
  /-- It can mend findings. -/
  canFix : Bool := false
  /-- The roles it plays. -/
  roles : List Role := []
  /-- The include patterns of its files. -/
  filePatterns : List String := []
  /-- A tool of higher priority runs earlier and wins a conflict. -/
  priority : Int := 0
  /-- The tools it must not run with. -/
  conflicts : List String := []
  /-- The configuration files it reads by itself. -/
  nativeConfigs : List String := []
  /-- The command that prints its version. -/
  versionCommand : List String := []
  /-- The regular expression whose first group is the version. -/
  versionPattern : Option String := none
  /-- The least version that is good enough. -/
  minVersion : Option String := none
  /-- How to install it. -/
  installHint : Option String := none
  /-- Its options and their defaults. -/
  defaults : Options := .empty
  /-- The seconds a command may take; zero where the tool does not say. -/
  timeout : Nat := 0
  /-- How it is called. -/
  invocation : Invocation := .perFile
  /-- It runs in the root of the run, not in the directory of its files. -/
  fromRoot : Bool := false
  deriving Repr, Inhabited

/-- The identity of a tool behind its spellings: no outer blanks, lower case, and underscores for
hyphens. -/
def toolId (name : String) : String :=
  String.ofList ((Text.trim name.toList).map fun c => if c = '-' then '_' else c.toLower)

/-- The seconds a command may take where nothing says otherwise. -/
def defaultTimeout : Nat := 30

namespace ToolSpec

/-- Whether the tool declares a conflict with another one. -/
def declaresConflict (s : ToolSpec) (other : String) : Bool :=
  s.conflicts.any fun c => toolId c = toolId other

/-- Whether the tool can fix, or check. -/
def supports (s : ToolSpec) (fix : Bool) : Bool :=
  if fix then s.canFix else s.canCheck

/-- The seconds a command may take. -/
def effectiveTimeout (s : ToolSpec) : Nat :=
  if s.timeout = 0 then defaultTimeout else s.timeout

/-- How to install the tool. -/
def hint (s : ToolSpec) : String :=
  s.installHint.getD ("Install " ++ s.name ++ " and ensure it is in PATH")

/-- The labels of the roles, in the order of roles. -/
def labels (s : ToolSpec) : List String :=
  (Role.all.filter s.roles.contains).map Role.label

/-- Whether the tool plays all of some roles, of which there is at least one. -/
def plays (s : ToolSpec) (roles : List Role) : Bool :=
  !roles.isEmpty && roles.all s.roles.contains

/-- The options with overrides for some of them. -/
def effectiveOptions (s : ToolSpec) (overrides : Options) : Except Failure Options :=
  match s.defaults.merge overrides with
  | .ok o => .ok o
  | .error f => .error (.invalidOption s.name f)

end ToolSpec

/-- What a run needs to work with a tool. -/
structure ToolAdapter where
  /-- The findings in the output of the check command. -/
  read : String → Except OutputFault (List Finding)
  /-- The columns its findings are shown in. -/
  columns : List Column
  /-- The command that checks, program first. -/
  checkCommand : Options → List String
  /-- The command that fixes, for tools that can. -/
  fixCommand : Option (Options → List String)

/-- A tool in a toolbox. -/
structure Tool where
  /-- Its description. -/
  spec : ToolSpec
  /-- Its service. -/
  adapter : ToolAdapter
  /-- How many tools were registered before it. -/
  rank : Nat

/-- The name of a tool. -/
def Tool.name (t : Tool) : String :=
  t.spec.name

/-- Whether one of two tools declares a conflict with the other. -/
def Tool.conflictsWith (t u : Tool) : Bool :=
  t.spec.declaresConflict u.name || u.spec.declaresConflict t.name

end Multilint
