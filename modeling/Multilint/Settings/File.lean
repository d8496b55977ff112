import Multilint.FileTree
import Multilint.Settings.Source
import Multilint.Tool.Options
/-!
# Settings files

What a settings file may set, for the whole run and for single tools. Keys that mean nothing are passed
over; a value of the wrong type makes the file invalid.
-/

namespace Multilint

/-- What a settings file says about one tool. -/
structure ToolSection where
  /-- The tool is switched on or off. -/
  enabled : Option Bool := none
  /-- The seconds a command may take. -/
  timeout : Option Nat := none
  /-- Options in place of the tool's defaults. -/
  options : Options := .empty
  deriving Repr

/-- What a settings file says. -/
structure SettingsFile where
  /-- The tools to run. -/
  tools : Option (List String) := none
  /-- The exclude patterns. -/
  exclude : Option (List String) := none
  /-- Walks go into directories of dependencies. -/
  includeVenv : Option Bool := none
  /-- The key of the format. -/
  outputFormat : Option String := none
  /-- The seconds a command of any tool may take. -/
  timeout : Option Nat := none
  /-- Tools run even when they conflict. -/
  ignoreConflicts : Option Bool := none
  /-- A tool that does not pass the version gate ends the run. -/
  strict : Option Bool := none
  /-- The name of the ignore file. -/
  ignoreFile : Option String := none
  /-- The seconds a version command may take. -/
  versionTimeout : Option Nat := none
  /-- The sections of single tools, in the order of their names. -/
  tool : List (String × ToolSection) := []
  deriving Repr

namespace ToolSection

/-- The keys of a section. -/
def keys : List String := ["enabled", "timeout", "options"]

variable {m : Type → Type} [Monad m] [Alternative m] {ν : Type}

/-- The section a value writes. -/
def ofValue (s : Source m ν) (v : ν) : m ToolSection := do
  let es ← s.record keys 2 v
  return {
    enabled := ← s.field es "enabled" s.bool
    timeout := ← s.field es "timeout" s.nat
    options := ← Source.fieldOr es "options" (fun w => Options.mk <$> s.map s.json w) .empty }

end ToolSection

namespace SettingsFile

/-- The keys of a file. -/
def keys : List String :=
  ["tools", "exclude", "include_venv", "output_format", "timeout", "ignore_conflicts", "strict",
    "ignore_file", "version_timeout", "tool"]

variable {m : Type → Type} [Monad m] [Alternative m] {ν : Type}

/-- The settings a value writes. -/
def ofValue (s : Source m ν) (v : ν) : m SettingsFile := do
  let es ← s.record keys 9 v
  return {
    tools := ← s.field es "tools" s.texts
    exclude := ← s.field es "exclude" s.texts
    includeVenv := ← s.field es "include_venv" s.bool
    outputFormat := ← s.field es "output_format" s.text
    timeout := ← s.field es "timeout" s.nat
    ignoreConflicts := ← s.field es "ignore_conflicts" s.bool
    strict := ← s.field es "strict" s.bool
    ignoreFile := ← s.field es "ignore_file" s.text
    versionTimeout := ← s.field es "version_timeout" s.nat
    tool := ← Source.fieldOr es "tool" (s.map (ToolSection.ofValue s)) [] }

/-- The settings of a TOML text. -/
def ofToml? (text : String) : Option SettingsFile := do
  let es ← Toml.Entries.ofText? text.toList
  ofValue Toml.source (.table .header es)

/-- The settings of a YAML text; a text without a document sets nothing. -/
def ofYaml? (text : String) : Option SettingsFile := do
  match ← Yaml.Document.ofText? text.toList with
  | none => some {}
  | some d => (ofValue (Yaml.source d) d.view).run' d.followLimit

/-! ## Files -/

/-- The name of a settings file in TOML. -/
def tomlName : String := "metalint.toml"

/-- The names of settings files, the first one that is there counts. -/
def names : List String := [tomlName, "metalint.yaml", "metalint.yml"]

/-- The settings file in a directory. -/
def path? (tree : FileTree) (dir root : Path) : Option Path :=
  (names.map fun n => root.join (Path.ofString n)).find? (tree.isFile dir)

/-- The directory that a run is about: the first one at or above the start that has a settings file or is
the top of a repository; the start where there is none. -/
def findRoot (tree : FileTree) (dir start : Path) : Path :=
  let start := Path.absolute dir start
  (start.ancestors.find? fun d =>
    (names ++ [".git"]).any fun n => tree.leads dir (d.join (Path.ofString n))).getD start

/-- The settings of a file by the language of its name. -/
def ofText? (path : Path) (text : String) : Option SettingsFile :=
  if path.fileName? = some tomlName then ofToml? text else ofYaml? text

/-- The settings of the file in a directory; a directory without one sets nothing. -/
def load (tree : FileTree) (dir root : Path) : Except Failure SettingsFile :=
  match path? tree dir root with
  | none => .ok {}
  | some path =>
    match (tree.content? dir path).bind String.fromUTF8? with
    | none => .error (.config path "stream did not contain valid UTF-8")
    | some text =>
      match ofText? path text with
      | none => .error (.config path "not a valid settings file")
      | some f => .ok f

end SettingsFile

end Multilint
