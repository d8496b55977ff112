import Multilint.Run.Basic
import Multilint.Scope.Discovery
import Multilint.Version.Gate
/-!
# Preparing a tool

A tool is ready when it passes the version gate and there are files for it. Otherwise its result is known
without running it.
-/

namespace Multilint

/-- What a tool that is ready works on. -/
structure Job where
  /-- The directory it runs in. -/
  dir : Path
  /-- The files, in the order of paths. -/
  files : List Path
  /-- The files as seen from the directory. -/
  names : List String
  /-- The seconds a command may take. -/
  seconds : Nat
  /-- The options. -/
  options : Options
  /-- Findings are to be mended. -/
  fix : Bool
  deriving Repr

/-- What comes of preparing a tool. -/
inductive Preparation where
  /-- The tool is ready. -/
  | ready (job : Job)
  /-- The tool does not run. -/
  | done (result : ToolResult)
  deriving Repr

namespace Preparation

variable {σ : Type}

/-- The file endings that include patterns name. -/
def endings (patterns : List String) : List String :=
  patterns.filterMap fun p =>
    match p.toList with
    | '*' :: '.' :: cs => some (String.ofList ('.' :: cs))
    | _ => none

/-- The message of a tool that has no files. -/
def noFilesMessage (patterns : List String) (fix : Bool) : String :=
  let what := match endings patterns with
    | [] => "files"
    | es => "/".intercalate es ++ " files"
  "No " ++ what ++ " found to " ++ (if fix then "fix" else "check") ++ "."

/-- The directory a tool runs in: the root, or the deepest directory that holds its files. -/
def dirFor (spec : ToolSpec) (root : Path) (files : List Path) : Path :=
  if spec.fromRoot then root else (Path.commonParent? files).getD root

/-- The job of a tool on some files. -/
def jobFor (spec : ToolSpec) (settings : RunSettings) (here : Path) (options : Options)
    (files : List Path) : Job :=
  let dir := dirFor spec (Path.absolute here settings.root) files
  { dir, files, options
    names := files.map fun f => (f.relativeTo dir).slashed
    seconds := settings.secondsFor spec
    fix := settings.fix }

/-- The preparation of a tool that passed the gate. -/
def ofFiles (spec : ToolSpec) (settings : RunSettings) (here : Path) (options : Options)
    (files : List Path) : Preparation :=
  if files.isEmpty then
    .done (.message spec.name (noFilesMessage spec.filePatterns settings.fix))
  else .ready (jobFor spec settings here options files)

end Preparation

/-- Prepares a tool: its options, the version gate, its files. -/
def prepare {σ : Type} (h : Host σ) (settings : RunSettings) (inputs : List Path) (t : Tool) :
    ExceptT Failure (Calling σ) Preparation := do
  let options ← settings.optionsFor t.spec
  match ← Version.check h t.spec settings.versionSeconds with
  | some skipped => return .done skipped
  | none =>
    let tree ← h.files
    let files ← discover tree h.dir settings.scope inputs t.spec.filePatterns
    return .ofFiles t.spec settings h.dir options files

end Multilint
