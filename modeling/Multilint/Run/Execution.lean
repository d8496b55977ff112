import Multilint.Run.Preparation
/-!
# Executing a tool

The work of a tool falls into units: one for each file, or a single one. Each unit is worked on alone, so
that a command that fails spoils only the findings of its unit, where a finding of its own stands for it.
What the units report adds up to the result of the tool.
-/

namespace Multilint

/-- A piece of work: the name its failures go under, and the arguments of its commands. -/
structure WorkUnit where
  /-- The name. -/
  label : String
  /-- The arguments behind those of the tool. -/
  args : List String
  deriving DecidableEq, Repr

/-- What working on a unit gives. -/
structure UnitReport where
  /-- The findings that stay. -/
  findings : List Finding := []
  /-- The counts of a fix. -/
  counts : FixCounts := {}
  /-- The finding for a command that gave nothing to go by. -/
  failure : Option Finding := none
  deriving DecidableEq, Repr

namespace Execution

variable {σ : Type}

/-- The units of a job. -/
def units (t : Tool) (job : Job) : List WorkUnit :=
  match t.spec.invocation with
  | .perFile => (job.files.zip job.names).map fun (file, name) => ⟨name, [file.toString]⟩
  | .batch => [⟨t.name, job.names⟩]
  | .project => [⟨t.name, []⟩]

/-- The call of a command for a unit. -/
def callFor (job : Job) (command : Options → List String) (u : WorkUnit) : Call :=
  ⟨command job.options ++ u.args, some job.dir, job.seconds⟩

/-- What a command that ended gave, or the finding for a command that did not. -/
def ended (job : Job) (c : Call) (u : WorkUnit) : Outcome → Except Finding (Bool × String)
  | .completed success output => .ok (success, output)
  | .timedOut => .error (.timedOut u.label job.seconds)
  | .failed f =>
    .error (.notRun u.label ("failed to run " ++ c.command.head?.getD "" ++ ": " ++ f.message))

/-- Runs a command for a unit. -/
def runCommand (h : Host σ) (job : Job) (command : Options → List String) (u : WorkUnit) :
    Calling σ (Except Finding (Bool × String)) := do
  let c := callFor job command u
  return ended job c u (← h.ask c)

/-- The first line of a text that says something, without outer blanks. -/
def firstLine (output : String) : String :=
  (((Text.stringLines output).map Text.trimmed).find? (· ≠ "")).getD ""

/-- The message for a check that failed without a finding. -/
def silentFailure (output : String) : String :=
  let detail := firstLine output
  if detail = "" then "exited with a failure status and reported no issues"
  else "exited with a failure status: " ++ detail

/-- The findings in what a check printed, or the finding for a check that gave nothing to go by. -/
def readCheck (t : Tool) (u : WorkUnit) (success : Bool) (output : String) :
    Except Finding (List Finding) :=
  match t.adapter.read output with
  | .ok found =>
    if !success && found.isEmpty then .error (.notRun u.label (silentFailure output))
    else .ok found
  | .error fault =>
    .error (.notRead u.label ("could not parse " ++ t.name ++ " output: " ++ fault.message))

/-- Checks a unit. -/
def checkUnit (h : Host σ) (t : Tool) (job : Job) (u : WorkUnit) :
    Calling σ (Except Finding (List Finding)) := do
  match ← runCommand h job t.adapter.checkCommand u with
  | .ok (success, output) => return readCheck t u success output
  | .error f => return .error f

/-- The report of a unit that is only checked. -/
def reportCheck : Except Finding (List Finding) → UnitReport
  | .ok found => { findings := found }
  | .error f => { failure := some f }

/-- Checks a unit, mends what was found and checks again. A unit without findings is left alone, and one
that could not be mended keeps its findings. -/
def fixUnit (h : Host σ) (t : Tool) (fix : Options → List String) (job : Job) (u : WorkUnit) :
    Calling σ UnitReport := do
  match ← checkUnit h t job u with
  | .error f => return { failure := some f }
  | .ok [] => return {}
  | .ok initial =>
    let unresolved (f : Finding) : UnitReport :=
      ⟨initial, .unresolved initial.length, some f⟩
    match ← runCommand h job fix u with
    | .error f => return unresolved f
    | .ok _ =>
      match ← checkUnit h t job u with
      | .error f => return unresolved f
      | .ok remaining => return ⟨remaining, .ofRecheck initial.length remaining.length, none⟩

/-- The command that mends, where the job asks for it and the tool has one. -/
def fixFor (t : Tool) (job : Job) : Option (Options → List String) :=
  if job.fix then t.adapter.fixCommand else none

/-- Works on a unit. -/
def workOn (h : Host σ) (t : Tool) (job : Job) (u : WorkUnit) : Calling σ UnitReport :=
  match fixFor t job with
  | some fix => fixUnit h t fix job u
  | none => do return reportCheck (← checkUnit h t job u)

/-- The lines about the units that failed. -/
def failureLines (failures : List Finding) (seconds : Nat) : List String :=
  if failures.isEmpty then []
  else
    ["Skipped/failed " ++ toString failures.length ++
        " file(s) due to execution failures (including timeouts) (timeout: " ++
        toString seconds ++ "s):"] ++
      failures.map fun f => "  - " ++ f.file ++ ": " ++ f.message

/-- The lines about what was mended. -/
def countLines (c : FixCounts) : List String :=
  (if c.fixed > 0 then ["Fixed " ++ toString c.fixed ++ " issue(s)"] else []) ++
    if c.remaining > 0 then
      ["Found " ++ toString c.remaining ++ " issue(s) that cannot be auto-fixed"]
    else []

/-- The result of a tool from the reports of its units. -/
def summarize (t : Tool) (job : Job) (reports : List UnitReport) : ToolResult :=
  let fixing := (fixFor t job).isSome
  let failures := reports.filterMap UnitReport.failure
  let counts := FixCounts.sum (reports.map UnitReport.counts)
  let findings := reports.flatMap UnitReport.findings ++ failures
  { name := t.name
    success := findings.isEmpty
    findings
    output := ToolResult.meaningful? ("\n".intercalate
      ((if fixing then countLines counts else []) ++ failureLines failures job.seconds))
    counts := if fixing then some counts else none }

end Execution

/-- Executes a tool that is ready. -/
def execute {σ : Type} (h : Host σ) (t : Tool) (job : Job) : Calling σ ToolResult := do
  return Execution.summarize t job (← (Execution.units t job).mapM (Execution.workOn h t job))

end Multilint
