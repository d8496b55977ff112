import Multilint.Proofs.Run.Plan
import Multilint.Proofs.Run.Serving
import Multilint.Proofs.Scope.Discovery
/-!
# One result for each tool

Whatever comes of serving a tool is a result under its name (`Served.name`), so the results of a run are
named as the tools of its plan are: those set aside, those that ran in the order of the schedule, and those
that gave way. Since the plan settles the request, these are the requested tools, each once.
-/

namespace Multilint

open Execution

variable {σ : Type} {h : Host σ} {box : Toolbox} {req : Request} {settings : RunSettings}
variable {s s' : Session σ} {report : Report} {plan : Plan}

/-- Tools that are served in turn have results under their names. -/
theorem map_name_of_served {inputs : List Path} {ts : List Tool} {w w' : σ} {steps : List Step}
    {rs : List ToolResult}
    (hrs : Sequence.Threaded (Served h settings inputs) ts w steps w' rs) :
    rs.map ToolResult.name = ts.map Tool.name := by
  induction hrs with
  | nil => rfl
  | cons hr _ ih => rw [List.map_cons, List.map_cons, hr.name, ih]

/-- A tool is served with a result that no format has been chosen for. -/
theorem not_rendered_of_served {inputs : List Path} {t : Tool} {w w' : σ} {steps : List Step}
    {r : ToolResult} (hr : Served h settings inputs t w steps w' r) : r.rendered = none := by
  cases hr with
  | gated _ => rfl
  | no_files _ _ => rfl
  | worked _ _ _ _ _ _ _ => rfl

/-- **A run writes none of its results.** -/
theorem not_rendered_of_run (hrun : run h box req settings s = (.ok report, s')) :
    ∀ r ∈ report.results, r.rendered = none := by
  obtain ⟨plan, steps, ran, -, -, hserved, rfl⟩ := run_served hrun
  intro r hr
  rcases List.mem_append.1 hr with hr | hr
  · rcases List.mem_append.1 hr with hr | hr
    · obtain ⟨t, -, rfl⟩ := List.mem_map.1 hr
      rfl
    · obtain ⟨t, -, w, part, w', hpart⟩ := Sequence.exists_of_mem_right hserved.forall₂ hr
      exact not_rendered_of_served hpart
  · obtain ⟨d, -, rfl⟩ := List.mem_map.1 hr
    rfl

namespace Plan

/-- All tools of a plan: those set aside, those that run and those that give way. -/
def tools (plan : Plan) : List Tool :=
  plan.unfit ++ (plan.schedule.ordered ++ plan.schedule.dropped.map Dropped.tool)

/-- **The tools of a plan are the requested ones.** -/
theorem Settles.mem_tools_iff (hp : Settles box req plan) {t : Tool} :
    t ∈ plan.tools ↔ Requested box req t := by
  rw [tools, List.mem_append, hp.mem_unfit_iff, hp.schedule.mem_iff, ← and_or_left]
  refine and_iff_left ?_
  cases t.spec.supports req.action.isFix with
  | false => exact Or.inl rfl
  | true => exact Or.inr rfl

/-- **Each tool of a plan is there once.** -/
theorem Settles.nodup_tools (hp : Settles box req plan) : plan.tools.Nodup := by
  refine List.Nodup.append hp.nodup_unfit hp.schedule.nodup fun t hunfit hfit => ?_
  have hfalse := ((hp.mem_unfit_iff t).1 hunfit).2
  have htrue := ((hp.schedule.mem_iff t).1 hfit).2
  rw [hfalse] at htrue
  cases htrue

/-- So is each of their names. -/
theorem Settles.nodup_names (hbox : box.Built) (hp : Settles box req plan) :
    (plan.tools.map Tool.name).Nodup := by
  refine hp.nodup_tools.map_on fun t ht u hu hname => ?_
  exact hbox.eq_of_name (hp.mem_tools_iff.1 ht).1 (hp.mem_tools_iff.1 hu).1 hname

end Plan

/-- **The results of a run are those of its plan**, tool by tool. -/
theorem map_name_of_run (hrun : run h box req settings s = (.ok report, s')) :
    ∃ plan, Plan.ofRequest box req = .ok plan ∧
      report.results.map ToolResult.name = plan.tools.map Tool.name := by
  obtain ⟨plan, steps, ran, hplan, -, hserved, rfl⟩ := run_served hrun
  refine ⟨plan, hplan, ?_⟩
  simp only [Plan.tools, List.map_append, List.map_map, map_name_of_served hserved, List.append_assoc]
  rfl

/-- A tool has a result exactly if it is requested. -/
theorem mem_map_name_iff_of_run {name : String} (hbox : box.Built)
    (hrun : run h box req settings s = (.ok report, s')) :
    name ∈ report.results.map ToolResult.name ↔ ∃ t, Plan.Requested box req t ∧ t.name = name := by
  obtain ⟨plan, hplan, hnames⟩ := map_name_of_run hrun
  have hsettles : Plan.Settles box req plan := Plan.settles_of_ofRequest hbox hplan
  rw [hnames, List.mem_map]
  exact exists_congr fun t => and_congr_left fun _ => hsettles.mem_tools_iff

/-- **A run has one result for each requested tool.** The names of the results are distinct, and they are
those of the requested tools: first the ones that cannot do what is asked, then the ones that ran, in the
order of the schedule, and then the ones that gave way. -/
theorem run_one_result_each (hbox : box.Built)
    (hrun : run h box req settings s = (.ok report, s')) :
    (report.results.map ToolResult.name).Nodup ∧
      (∀ name, name ∈ report.results.map ToolResult.name ↔
        ∃ t, Plan.Requested box req t ∧ t.name = name) ∧
      ∃ (unfit : List Tool) (schedule : Schedule),
        report.results.map ToolResult.name = unfit.map Tool.name ++
          (schedule.ordered.map Tool.name ++ schedule.dropped.map fun d => d.tool.name) ∧
        (∀ t, t ∈ unfit ↔ Plan.Requested box req t ∧ t.spec.supports req.action.isFix = false) ∧
        schedule.Arranges req.ignoreConflicts fun t =>
          Plan.Requested box req t ∧ t.spec.supports req.action.isFix = true := by
  obtain ⟨plan, steps, ran, hplan, -, hserved, rfl⟩ := run_served hrun
  have hsettles : Plan.Settles box req plan := Plan.settles_of_ofRequest hbox hplan
  have hnames : (plan.unfit.map (Plan.unfitResult req.action) ++ ran ++
      plan.schedule.dropped.map Plan.droppedResult).map ToolResult.name =
        plan.unfit.map Tool.name ++ (plan.schedule.ordered.map Tool.name ++
          plan.schedule.dropped.map fun d => d.tool.name) := by
    rw [List.map_append, List.map_append, map_name_of_served hserved, List.append_assoc,
      List.map_map, List.map_map]
    rfl
  have htools : plan.tools.map Tool.name = plan.unfit.map Tool.name ++
      (plan.schedule.ordered.map Tool.name ++ plan.schedule.dropped.map fun d => d.tool.name) := by
    rw [Plan.tools, List.map_append, List.map_append, List.map_map]
    rfl
  refine ⟨?_, fun name => ?_, plan.unfit, plan.schedule, hnames, hsettles.mem_unfit_iff,
    hsettles.schedule⟩
  · rw [hnames, ← htools]
    exact hsettles.nodup_names hbox
  · rw [hnames, ← htools, List.mem_map]
    exact exists_congr fun t => and_congr_left fun _ => hsettles.mem_tools_iff

/-- A tool that fixes files where it can, and has a service that finds nothing. -/
def fixer (name : String) (priority : Int) (canFix : Bool) (conflicts : List String) (rank : Nat) :
    Tool :=
  ⟨{ name, priority, canFix, conflicts }, Schedule.idleAdapter, rank⟩

/-- A tool that gives way to another one, a tool that only checks, and the tool that runs. -/
def fixers : Toolbox :=
  ⟨[fixer "low" 1 true ["High"] 0, fixer "check-only" 9 false ["high"] 1, fixer "high" 3 true [] 2]⟩

theorem built_fixers : fixers.Built := by
  have hlow := Toolbox.Built.empty.concat (fixer "low" 1 true ["High"] 0).spec Schedule.idleAdapter
    (by decide)
  have honly := hlow.concat (fixer "check-only" 9 false ["high"] 1).spec Schedule.idleAdapter
    (by decide)
  exact honly.concat (fixer "high" 3 true [] 2).spec Schedule.idleAdapter (by decide)

/-- A request that names every tool, some of them twice and in other spellings. -/
def fixersRequest : Request where
  tools := ["HIGH", "low", "check_only", "high", " Check-Only"]
  action := .fix

/-- A host without files. -/
def emptyHost : Host Unit where
  call := fun _ w => (.timedOut, w)
  tree := fun _ => .dir []
  dir := Path.root

/-- The tool that only checks keeps no other one from running, and each tool has one result. -/
theorem run_one_result_each_fixers : fixers.Built ∧
    ∃ report s', run emptyHost fixers fixersRequest { fix := true } ⟨(), []⟩ = (.ok report, s') ∧
      report.results.map ToolResult.name = ["check-only", "high", "low"] ∧
      (report.results.map ToolResult.name).Nodup ∧
      ∀ name, name ∈ report.results.map ToolResult.name ↔
        ∃ t, Plan.Requested fixers fixersRequest t ∧ t.name = name := by
  have hplan : Plan.ofRequest fixers fixersRequest = .ok ⟨[fixer "check-only" 9 false ["high"] 1],
      ⟨[fixer "high" 3 true [] 2], [⟨fixer "low" 1 true ["High"] 0, fixer "high" 3 true [] 2⟩]⟩⟩ :=
    Plan.ofRequest_of_select ["HIGH", "low", "high"]
      [fixer "high" 3 true [] 2, fixer "low" 1 true ["High"] 0] rfl (List.cons_ne_nil _ _) rfl (.refl _)
      (by decide)
  have hserve : serve emptyHost { fix := true } fixersRequest (fixer "high" 3 true [] 2) ⟨(), []⟩ =
      (.ok (.message "high" (Preparation.noFilesMessage [] true)), ⟨(), []⟩) := by
    have hfiles : discover (.dir []) Path.root {} [] [] = .ok [] := Discovery.discover_nil rfl
    rw [@serve_of_passes _ _ _ _ _ _ _ .empty _ rfl rfl hfiles]
    rfl
  have hran : [fixer "high" 3 true [] 2].mapM (serve emptyHost { fix := true } fixersRequest)
      ⟨(), []⟩ = (.ok [.message "high" (Preparation.noFilesMessage [] true)], ⟨(), []⟩) :=
    mapM_cons_eq_ok_iff.2 ⟨_, _, [], hserve, rfl, rfl⟩
  have hrun := run_eq_ok_iff.2 ⟨_, _, hplan, rfl, hran, rfl⟩
  obtain ⟨hnodup, hmem, -⟩ := run_one_result_each built_fixers hrun
  exact ⟨built_fixers, _, _, hrun, rfl, hnodup, hmem⟩

end Multilint
