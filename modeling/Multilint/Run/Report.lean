import Multilint.Run.Execution
import Multilint.Schedule
/-!
# Runs

A run schedules the tools of a request, prepares and executes them one after another, and collects their
results. A mistake in the request ends the run with a failure; what goes wrong in a tool is part of the
tool's result.
-/

namespace Multilint

/-- The results of a run. -/
structure Report where
  /-- What was done. -/
  action : Action
  /-- The results: tools that cannot do what was asked, tools that ran, tools that gave way. -/
  results : List ToolResult
  deriving DecidableEq, Repr

namespace Report

/-- The number of findings. -/
def totalFindings (r : Report) : Nat :=
  r.results.foldr (fun t n => t.count + n) 0

/-- The number of tools that did not run. -/
def skippedTools (r : Report) : Nat :=
  r.results.countP ToolResult.isSkipped

/-- The exit status: zero when every tool succeeded and passed the version gate. -/
def exitCode (r : Report) : Nat :=
  if r.results.all fun t => t.success && !t.isVersionSkip then 0 else 1

end Report

/-- The tools of a request: those that cannot do what is asked, and the schedule of the others. -/
structure Plan where
  /-- The tools that cannot do what is asked. -/
  unfit : List Tool
  /-- The others. -/
  schedule : Schedule

namespace Plan

/-- The identities of the tools that a request without names means. -/
def defaults (box : Toolbox) (req : Request) : List String :=
  (box.tools.filter fun t =>
    t.spec.supports req.action.isFix &&
      !(req.disabled.map toolId).contains (toolId t.name)).map Tool.name

/-- The names of a request with their tools. -/
def named (box : Toolbox) (ids : List String) : Except Failure (List (String × Tool)) :=
  ids.mapM fun id => do return (id, ← box.get id)

/-- The tools of a list, each once. -/
def distinct (ts : List Tool) : List Tool :=
  ts.foldl (fun seen t => if seen.any (·.name = t.name) then seen else seen ++ [t]) []

/-- The identities to schedule, and the tools that cannot do what is asked. -/
def select (box : Toolbox) (req : Request) : Except Failure (List String × List Tool) := do
  if req.tools.isEmpty then return (defaults box req, [])
  else
    let ts ← named box req.tools
    let fit (e : String × Tool) : Bool := e.2.spec.supports req.action.isFix
    return ((ts.filter fit).map (·.1), distinct ((ts.filter fun e => !fit e).map (·.2)))

/-- The plan of a request. -/
def ofRequest (box : Toolbox) (req : Request) : Except Failure Plan := do
  let (ids, unfit) ← select box req
  let schedule ← if ids.isEmpty then pure {} else Schedule.ofRequest box ids req.ignoreConflicts
  return ⟨unfit, schedule⟩

/-- Whether the options set for every scheduled tool are options of the tool. -/
def validate (p : Plan) (settings : RunSettings) : Except Failure Unit :=
  p.schedule.ordered.forM fun t => (settings.optionsFor t.spec).map fun _ => ()

/-- The result of a tool that cannot do what is asked. -/
def unfitResult (action : Action) (t : Tool) : ToolResult :=
  .message t.name (t.name ++ " does not support " ++ action.name ++ "; skipped.")

/-- The result of a tool that gives way to another one. -/
def droppedResult (d : Dropped) : ToolResult :=
  .skipped d.tool.name (.conflict d.winner.name)
    ("Skipped: conflicts with " ++ d.winner.name ++ " (use --ignore-conflicts to run both)")

end Plan

variable {σ : Type}

/-- Prepares and executes one tool. In a strict run a tool that does not pass the version gate is a
failure. -/
def serve (h : Host σ) (settings : RunSettings) (req : Request) (t : Tool) :
    ExceptT Failure (Calling σ) ToolResult := do
  match ← prepare h settings req.inputs t with
  | .ready job => execute h t job
  | .done result =>
    if req.strict && result.isVersionSkip then
      throw (.versionGate t.name (result.output.getD ""))
    else return result

/-- A run. The request and every option are looked through before the first call. -/
def run (h : Host σ) (box : Toolbox) (req : Request) (settings : RunSettings) :
    ExceptT Failure (Calling σ) Report := do
  let plan ← Plan.ofRequest box req
  plan.validate settings
  let ran ← plan.schedule.ordered.mapM (serve h settings req)
  return {
    action := req.action
    results := plan.unfit.map (Plan.unfitResult req.action) ++ ran ++
      plan.schedule.dropped.map Plan.droppedResult }

end Multilint
