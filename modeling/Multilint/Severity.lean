import Multilint.Text.Basic
/-!
# Severities

The scale that the findings of all tools share, and the labels of single tools on it.
-/

namespace Multilint

/-- How serious a finding is. -/
inductive Severity where
  /-- Something is wrong. -/
  | error
  /-- Something is doubtful. -/
  | warning
  /-- Something is worth knowing. -/
  | info
  deriving DecidableEq, Repr, Inhabited

namespace Severity

/-- The name of a severity. -/
def name : Severity → String
  | .error => "error"
  | .warning => "warning"
  | .info => "info"

/-- The labels of errors. -/
def errorLabels : List String :=
  ["error", "err", "e", "fatal", "critical", "high"]

/-- The labels of mere information. -/
def infoLabels : List String :=
  ["info", "information", "note", "notice", "style", "convention", "c", "refactor", "r", "hint",
    "low"]

/-- The severity a tool means by a label. The case of letters and blanks around the label do not
matter, and a label that no list holds means a warning: it was a finding to the tool. -/
def ofLabel (label : String) : Severity :=
  let l := Text.lower (Text.trimmed label)
  if errorLabels.contains l then .error
  else if infoLabels.contains l then .info
  else .warning

end Severity

end Multilint
