import Multilint.Tool.Options
/-!
# Commands of the catalog

How the commands of the tools in the catalog are built from their options.
-/

namespace Multilint

namespace Catalog

/-- A flag and its value, where there is a value. -/
def valued (flag : String) (value : Option String) : List String :=
  match value with
  | some v => [flag, v]
  | none => []

/-- A flag, where it is set. -/
def switch (flag : String) (set : Bool) : List String :=
  if set then [flag] else []

/-- A flag and a list behind it, where the list has items. -/
def joined (flag : String) (items : List String) : List String :=
  if items.isEmpty then [] else [flag, ",".intercalate items]

/-- A flag before each item of a list. -/
def repeated (flag : String) (items : List String) : List String :=
  items.flatMap fun i => [flag, i]

/-- A flag and a truth value. -/
def truth (flag : String) (b : Bool) : List String :=
  [flag, if b then "true" else "false"]

namespace Black

/-- The arguments of both commands. -/
def args (o : Options) : List String :=
  valued "--line-length" (o.scalar? "line_length") ++
    valued "--target-version" (o.scalar? "target_version") ++
    switch "--preview" (o.flag "preview")

/-- The command that checks. -/
def check (o : Options) : List String := ["black", "--check"] ++ args o

/-- The command that formats. -/
def fix (o : Options) : List String := ["black"] ++ args o

end Black

namespace Ruff

/-- The arguments of both commands. -/
def args (o : Options) : List String :=
  joined "--select" (o.list "select") ++ joined "--ignore" (o.list "ignore") ++
    valued "--line-length" (o.scalar? "line_length")

/-- The command that checks. -/
def check (o : Options) : List String :=
  ["ruff", "check", "--output-format", "json"] ++ args o

/-- The command that mends. -/
def fix (o : Options) : List String :=
  ["ruff", "check", "--fix", "--output-format", "json"] ++ args o

end Ruff

namespace Prettier

/-- The command that checks. -/
def check (o : Options) : List String :=
  ["prettier", "--check"] ++ valued "--config" (o.scalar? "config")

/-- The command that formats. -/
def fix (o : Options) : List String :=
  ["prettier", "--write"] ++ valued "--config" (o.scalar? "config")

end Prettier

namespace Rustfmt

/-- The command that checks. -/
def check (_ : Options) : List String := ["cargo", "fmt", "--all", "--", "--check"]

/-- The command that formats. -/
def fix (_ : Options) : List String := ["cargo", "fmt", "--all"]

end Rustfmt

/-- The command of the type checker. -/
def mypyCheck (o : Options) : List String :=
  ["mypy", "--show-error-codes", "--show-column-numbers", "--hide-error-context",
      "--no-error-summary", "--explicit-package-bases"] ++
    switch "--strict" (o.flag "strict") ++
    switch "--ignore-missing-imports" (o.flag "ignore_missing_imports") ++
    valued "--python-version" (o.scalar? "python_version") ++
    valued "--config-file" (o.scalar? "config_file")

/-- The command of the linter for shell scripts. -/
def shellcheckCheck (o : Options) : List String :=
  ["shellcheck", "--format", "json1", "--severity", (o.text? "severity").getD "style"] ++
    repeated "--exclude" (o.list "exclude") ++ valued "--shell" (o.scalar? "shell")

/-- The command of the linter for container files. -/
def hadolintCheck (o : Options) : List String :=
  ["hadolint", "--format", "json", "--no-color"] ++
    valued "--failure-threshold" (o.scalar? "failure_threshold") ++
    repeated "--ignore" (o.list "ignore")

/-- The command of the checker that compares docstrings with signatures. -/
def darglintCheck (o : Options) : List String :=
  ["darglint"] ++ joined "--ignore" (o.list "ignore") ++
    valued "--verbosity" (o.scalar? "verbosity") ++
    valued "--strictness" (o.scalar? "strictness")

/-- The command of the linter for docstrings. -/
def pydoclintCheck (o : Options) : List String :=
  ["pydoclint"] ++ valued "--style" (o.scalar? "style") ++
    truth "--check-return-types" (o.flag "check_return_types") ++
    truth "--check-arg-order" (o.flag "check_arg_order") ++
    truth "--skip-checking-short-docstrings" (o.flag "skip_checking_short_docstrings") ++
    ["--quiet"]

/-- The command of the linter for YAML files. -/
def yamllintCheck (o : Options) : List String :=
  ["yamllint", "--format", "parsable"] ++ valued "--config-file" (o.scalar? "config_file") ++
    switch "--strict" (o.flag "strict")

end Catalog

end Multilint
