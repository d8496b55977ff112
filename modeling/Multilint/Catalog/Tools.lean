import Multilint.Catalog.Commands
import Multilint.Findings.Blocks
import Multilint.Findings.Lines
import Multilint.Tool.Toolbox
/-!
# The catalog of tools

The tools that are known without any settings, in the order they are registered.
-/

namespace Multilint

namespace Catalog

/-- A description of a tool and its service. -/
structure Entry where
  /-- The description. -/
  spec : ToolSpec
  /-- The service. -/
  adapter : ToolAdapter

/-- A reader that refuses no output. -/
def lenient (read : String → List Finding) (s : String) : Except OutputFault (List Finding) :=
  .ok (read s)

/-- The include patterns of Python files. -/
def pythonFiles : List String := ["*.py", "*.pyi"]

/-- A formatter for Python. -/
def black : Entry where
  spec :=
    { name := "black"
      description := "Python code formatter"
      canCheck := true
      canFix := true
      roles := [.formatter]
      filePatterns := pythonFiles
      priority := 90
      nativeConfigs := ["pyproject.toml"]
      versionCommand := ["black", "--version"]
      versionPattern := some "(?i)black,\\s+(\\d+(?:\\.\\d+)*)"
      installHint := some "pip install black"
      defaults := .ofList
        [("line_length", .null), ("target_version", .null), ("preview", .bool false)]
      timeout := 30 }
  adapter := ⟨lenient Findings.ofReformatOutput, Table.fileColumns, Black.check, some Black.fix⟩

/-- A linter for Python. -/
def ruff : Entry where
  spec :=
    { name := "ruff"
      description := "Fast Python linter"
      canCheck := true
      canFix := true
      roles := [.linter, .formatter]
      filePatterns := pythonFiles
      priority := 85
      nativeConfigs := ["pyproject.toml", "ruff.toml", ".ruff.toml"]
      versionCommand := ["ruff", "--version"]
      installHint := some "pip install ruff"
      defaults := .ofList [("select", .null), ("ignore", .null), ("line_length", .null)]
      timeout := 30 }
  adapter := ⟨Findings.ofLocatedRecords, Table.placeColumns, Ruff.check, some Ruff.fix⟩

/-- A formatter for web files. -/
def prettier : Entry where
  spec :=
    { name := "prettier"
      description := "Opinionated formatter for web files"
      canCheck := true
      canFix := true
      roles := [.formatter]
      filePatterns := ["*.js", "*.jsx", "*.ts", "*.tsx", "*.json", "*.css", "*.scss", "*.md",
        "*.yaml", "*.yml"]
      priority := 80
      nativeConfigs := [".prettierrc", ".prettierrc.json", "prettier.config.js"]
      versionCommand := ["prettier", "--version"]
      minVersion := some "3.0.0"
      installHint := some "npm install --global prettier"
      defaults := .ofList [("config", .null)]
      timeout := 30 }
  adapter := ⟨lenient Findings.ofWarnOutput, Table.fileColumns, Prettier.check,
    some Prettier.fix⟩

/-- A formatter for Rust. -/
def rustfmt : Entry where
  spec :=
    { name := "rustfmt"
      description := "Rust code formatter"
      canCheck := true
      canFix := true
      roles := [.formatter]
      filePatterns := ["*.rs"]
      priority := 80
      nativeConfigs := ["rustfmt.toml", ".rustfmt.toml"]
      versionCommand := ["rustfmt", "--version"]
      minVersion := some "1.0.0"
      installHint := some "rustup component add rustfmt"
      timeout := 60
      invocation := .project
      fromRoot := true }
  adapter := ⟨lenient Findings.ofDiffOutput, Table.lineColumns, Rustfmt.check, some Rustfmt.fix⟩

/-- A type checker for Python. -/
def mypy : Entry where
  spec :=
    { name := "mypy"
      description := "Static type checker for Python"
      canCheck := true
      roles := [.typeChecker]
      filePatterns := pythonFiles
      priority := 82
      nativeConfigs := ["mypy.ini", ".mypy.ini", "pyproject.toml", "setup.cfg"]
      versionCommand := ["mypy", "--version"]
      installHint := some "pip install mypy"
      defaults := .ofList
        [("strict", .bool false), ("ignore_missing_imports", .bool true),
          ("python_version", .null), ("config_file", .null)]
      timeout := 60
      invocation := .batch
      fromRoot := true }
  adapter := ⟨lenient Findings.ofCompilerOutput, Table.placeColumns, mypyCheck, none⟩

/-- A linter for shell scripts. -/
def shellcheck : Entry where
  spec :=
    { name := "shellcheck"
      description := "Static analysis for shell scripts"
      canCheck := true
      roles := [.linter]
      filePatterns := ["*.sh", "*.bash", "*.ksh", "*.zsh"]
      priority := 50
      nativeConfigs := [".shellcheckrc"]
      versionCommand := ["shellcheck", "--version"]
      minVersion := some "0.9.0"
      installHint := some "Install shellcheck from your package manager"
      defaults := .ofList [("severity", .string "style"), ("exclude", .null), ("shell", .null)]
      timeout := 30 }
  adapter := ⟨Findings.ofComments, Table.placeColumns, shellcheckCheck, none⟩

/-- A linter for container files. -/
def hadolint : Entry where
  spec :=
    { name := "hadolint"
      description := "Dockerfile linter"
      canCheck := true
      roles := [.linter, .security]
      filePatterns := ["Dockerfile", "Dockerfile.*", "*.dockerfile"]
      priority := 50
      nativeConfigs := [".hadolint.yaml", ".hadolint.yml"]
      versionCommand := ["hadolint", "--version"]
      minVersion := some "2.12.0"
      installHint := some "Install hadolint from https://github.com/hadolint/hadolint/releases"
      defaults := .ofList [("failure_threshold", .string "info"), ("ignore", .null)]
      timeout := 30 }
  adapter := ⟨Findings.ofLeveledRecords, Table.placeColumns, hadolintCheck, none⟩

/-- A checker that compares docstrings with signatures. -/
def darglint : Entry where
  spec :=
    { name := "darglint"
      description := "Checks that docstrings match function signatures"
      canCheck := true
      roles := [.linter, .docs]
      filePatterns := ["*.py"]
      priority := 45
      versionCommand := ["darglint", "--version"]
      installHint := some "pip install darglint"
      defaults := .ofList
        [("ignore", .null), ("verbosity", .nat 2), ("strictness", .string "full")]
      timeout := 10 }
  adapter := ⟨lenient Findings.ofMessageBlocks, Table.lineColumns, darglintCheck, none⟩

/-- A linter for docstrings. -/
def pydoclint : Entry where
  spec :=
    { name := "pydoclint"
      description := "Docstring linter that validates against signatures"
      canCheck := true
      roles := [.linter, .docs]
      filePatterns := pythonFiles
      priority := 45
      conflicts := ["darglint"]
      nativeConfigs := ["pyproject.toml", ".pydoclint.toml"]
      versionCommand := ["pydoclint", "--version"]
      installHint := some "pip install pydoclint"
      defaults := .ofList
        [("style", .string "google"), ("check_return_types", .bool true),
          ("check_arg_order", .bool true), ("skip_checking_short_docstrings", .bool true)]
      timeout := 30 }
  adapter := ⟨lenient Findings.ofFileGroups, Table.lineColumns, pydoclintCheck, none⟩

/-- A linter for YAML files. -/
def yamllint : Entry where
  spec :=
    { name := "yamllint"
      description := "Linter for YAML files"
      canCheck := true
      roles := [.linter]
      filePatterns := ["*.yml", "*.yaml", ".yamllint"]
      priority := 40
      nativeConfigs := [".yamllint", ".yamllint.yaml", ".yamllint.yml"]
      versionCommand := ["yamllint", "--version"]
      installHint := some "pip install yamllint"
      defaults := .ofList [("config_file", .null), ("strict", .bool false)]
      timeout := 15 }
  adapter := ⟨lenient Findings.ofLevelOutput, Table.placeColumns, yamllintCheck, none⟩

/-- The entries in the order of registration. -/
def entries : List Entry :=
  [black, ruff, prettier, rustfmt, mypy, shellcheck, hadolint, darglint, pydoclint, yamllint]

/-- The toolbox of the catalog. A name that is taken already is passed over. -/
def toolbox : Toolbox :=
  entries.foldl (fun b e => (b.register e.spec e.adapter).toOption.getD b) .empty

end Catalog

end Multilint
