import Multilint.Run.Basic
import Multilint.Scope.Location
import Multilint.Settings.File
import Multilint.Text.Basic
/-!
# Settings of an invocation

The command line has the last word, then the settings file, then the defaults. The settings found so say
which tools are asked for and what the run is set to.
-/

namespace Multilint

/-- What a command line sets; nothing is left to the settings file. -/
structure Overrides where
  /-- Where the root is looked for. -/
  repoRoot : Option String := none
  /-- The tools to run. -/
  tools : Option (List String) := none
  /-- The exclude patterns. -/
  exclude : Option (List String) := none
  /-- Walks go into directories of dependencies. -/
  includeVenv : Option Bool := none
  /-- The key of the format. -/
  outputFormat : Option String := none
  /-- The seconds a command of any tool may take. -/
  timeout : Option Nat := none
  /-- Tools run even when they conflict. -/
  ignoreConflicts : Option Bool := none
  /-- A tool that does not pass the version gate ends the run. -/
  strict : Option Bool := none
  deriving DecidableEq, Repr

/-- The settings of an invocation. -/
structure Settings where
  /-- The directory the run is about. -/
  root : Path
  /-- The settings file, if there is one. -/
  file : Option Path
  /-- The tools to run; none means the default ones. -/
  tools : List String
  /-- The tools that are not among the default ones. -/
  disabled : List String
  /-- The exclude patterns. -/
  exclude : List String
  /-- Walks go into directories of dependencies. -/
  includeVenv : Bool
  /-- The key of the format. -/
  outputFormat : String
  /-- The seconds a command of any tool may take. -/
  timeout : Option Nat
  /-- Tools run even when they conflict. -/
  ignoreConflicts : Bool
  /-- A tool that does not pass the version gate ends the run. -/
  strict : Bool
  /-- The name of the ignore file. -/
  ignoreFile : String
  /-- The seconds a version command may take. -/
  versionSeconds : Nat
  /-- Settings of single tools under their identities. -/
  toolSettings : List (String × ToolSettings)
  deriving Repr

namespace Settings

/-- The sections that switch a tool off. -/
def disabledIn (f : SettingsFile) : List String :=
  (f.tool.filter fun e => e.2.enabled = some false).map (·.1)

/-- The tools to run: those of the command line, else those of the file that it does not switch off. -/
def toolsFor (o : Overrides) (f : SettingsFile) : List String :=
  match o.tools, f.tools with
  | some explicit, _ => explicit
  | none, some listed =>
    listed.filter fun id => !(disabledIn f).any fun d => toolId d = toolId id
  | none, none => []

/-- The settings of single tools. Of two sections for one tool the later one counts. -/
def toolSettingsOf (f : SettingsFile) : List (String × ToolSettings) :=
  Keyed.ofList (f.tool.map fun e => (toolId e.1, ⟨e.2.timeout, e.2.options⟩))

/-- The seconds a version command may take: what the environment says, else what the file says unless it
is nothing. -/
def versionSecondsFor (environment : Option String) (f : SettingsFile) : Nat :=
  match environment with
  | some text => Version.secondsOfText Version.defaultSeconds text
  | none => (f.versionTimeout.filter (· > 0)).getD Version.defaultSeconds

/-- The settings of a file under those of a command line. -/
def merge (o : Overrides) (environment : Option String) (root : Path) (file : Option Path)
    (f : SettingsFile) : Settings :=
  { root, file
    tools := toolsFor o f
    disabled := disabledIn f
    exclude := (o.exclude.or f.exclude).getD []
    includeVenv := (o.includeVenv.or f.includeVenv).getD false
    outputFormat := (o.outputFormat.or f.outputFormat).getD "grid"
    timeout := o.timeout.or f.timeout
    ignoreConflicts := (o.ignoreConflicts.or f.ignoreConflicts).getD false
    strict := (o.strict.or f.strict).getD false
    ignoreFile := f.ignoreFile.getD Scope.ignoreFileName
    versionSeconds := versionSecondsFor environment f
    toolSettings := toolSettingsOf f }

/-- The settings of an invocation in a directory. -/
def resolve (tree : FileTree) (dir : Path) (o : Overrides) (environment : Option String) :
    Except Failure Settings := do
  let root := SettingsFile.findRoot tree dir (Path.ofString (o.repoRoot.getD "."))
  let f ← SettingsFile.load tree dir root
  return merge o environment root (SettingsFile.path? tree dir root) f

/-- The scope of a run. A missing ignore file is no fault, an unreadable one is. -/
def scope (s : Settings) (tree : FileTree) (dir : Path) : Except Failure Scope := do
  let ignoreFile ← match IgnoreFile.find? tree dir s.root s.ignoreFile with
    | none => pure none
    | some p => (IgnoreFile.load tree dir p).map some
  let exclusions ← Scope.exclusionsOf s.exclude
  return ⟨exclusions, ignoreFile, s.includeVenv⟩

/-- What is set for a run. -/
def runSettings (s : Settings) (tree : FileTree) (dir : Path) (fix : Bool) :
    Except Failure RunSettings := do
  let scope ← s.scope tree dir
  return {
    root := s.root, fix, scope
    timeout := s.timeout, tools := s.toolSettings, versionSeconds := s.versionSeconds }

/-- The request of an invocation. -/
def request (s : Settings) (inputs : List String) (action : Action) : Request :=
  { tools := s.tools, disabled := s.disabled, inputs := inputs.map Path.ofString, action
    ignoreConflicts := s.ignoreConflicts, strict := s.strict }

end Settings

end Multilint
