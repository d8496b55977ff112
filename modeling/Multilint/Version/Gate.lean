import Multilint.Command.Host
import Multilint.Result.Basic
import Multilint.Tool.Basic
import Multilint.Version.Basic
import Multilint.Version.Extraction
/-!
# The version gate

A tool that declares a least version is asked for its version before it runs. It passes the gate when its
version is at least that one; whatever else happens is a reason to skip the tool.
-/

namespace Multilint

namespace Version

variable {σ : Type}

/-- The reason to skip a tool whose version command printed a text. -/
def verdict (spec : ToolSpec) (minimum output : String) : Option SkipReason :=
  match extract? output spec.versionPattern with
  | none => some .noVersionParsed
  | some found =>
    match compareTexts? found minimum with
    | some .lt => some (.belowMinimum found minimum)
    | some _ => none
    | none => some .noVersionParsed

/-- The reason to skip a tool after its version command had an outcome. -/
def judge (spec : ToolSpec) (minimum : String) : Outcome → Option SkipReason
  | .completed true output => verdict spec minimum output
  | .completed false _ => some .commandFailed
  | .timedOut => some .timeout
  | .failed ⟨.notFound, _⟩ => some .notInPath
  | .failed _ => some .osError

/-- The reason to skip a tool, if there is one. A tool without a least version or without a version
command is not asked. -/
def gate (h : Host σ) (spec : ToolSpec) (seconds : Nat) : Calling σ (Option SkipReason) := do
  match spec.minVersion, spec.versionCommand with
  | some minimum, c :: cs =>
    let outcome ← h.ask ⟨c :: cs, none, seconds⟩
    return judge spec minimum outcome
  | _, _ => return none

/-- The result of a tool that is skipped at the gate. -/
def skippedResult (spec : ToolSpec) (reason : SkipReason) : ToolResult :=
  .skipped spec.name reason
    ("Skipping " ++ spec.name ++ ": " ++ reason.text ++ ". Minimum required: " ++
      spec.minVersion.getD "-" ++ ". " ++ spec.hint)

/-- The result of a tool that does not pass the gate. -/
def check (h : Host σ) (spec : ToolSpec) (seconds : Nat) : Calling σ (Option ToolResult) := do
  return (← gate h spec seconds).map (skippedResult spec)

end Version

end Multilint
