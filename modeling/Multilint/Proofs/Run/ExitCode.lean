import Multilint.Proofs.Run.Plan
import Multilint.Proofs.Run.Serving
import Multilint.Proofs.Scope.Discovery
/-!
# The exit status tells the truth

Every result says that all is well exactly if it has no findings, and one that was skipped has none
(`ToolResult.Sound`), whichever way it came about. So the exit status of a run is zero exactly if nothing
was found and no tool was stopped at the version gate. What a command failed to tell is found too: for each
step that gave nothing to go by the result of its tool has a finding (`Served.blames`).
-/

namespace Multilint

namespace ToolResult

/-- **A result is sound**: all is well exactly if it has no findings, and then only was it skipped. -/
structure Sound (r : ToolResult) : Prop where
  /-- All is well exactly without findings. -/
  success_iff : r.success = true ↔ r.findings = []
  /-- A tool that did not run found nothing, and there is a reason. -/
  skipped : r.isSkipped = true → r.success = true ∧ r.findings = [] ∧ ∃ reason, r.skip = some reason

theorem sound_message (name text : String) : (message name text).Sound :=
  ⟨iff_of_true rfl rfl, fun h => by cases h⟩

theorem sound_skipped (name : String) (reason : SkipReason) (text : String) :
    (skipped name reason text).Sound :=
  ⟨iff_of_true rfl rfl, fun _ => ⟨rfl, rfl, reason, rfl⟩⟩

end ToolResult

namespace Execution

variable {σ : Type} {h : Host σ} {t : Tool} {job : Job} {settings : RunSettings}
variable {inputs : List Path} {w w' : σ} {steps : List Step} {r : ToolResult}

theorem sound_summarize (t : Tool) (job : Job) (rs : List UnitReport) :
    (summarize t job rs).Sound :=
  ⟨success_summarize_iff, fun h => by cases h⟩

/-- **Every way of serving a tool gives a sound result.** -/
theorem Served.sound (hr : Served h settings inputs t w steps w' r) : r.Sound := by
  cases hr with
  | gated _ => exact ToolResult.sound_skipped _ _ _
  | no_files _ _ => exact ToolResult.sound_message _ _
  | worked _ _ _ _ _ _ _ => exact sound_summarize t _ _

/-- The failure of a unit is a finding of its tool. -/
theorem mem_findings_summarize {rs : List UnitReport} {report : UnitReport} {f : Finding}
    (hreport : report ∈ rs) (hf : report.failure = some f) : f ∈ (summarize t job rs).findings :=
  List.mem_append_right _ (List.mem_filterMap.2 ⟨report, hreport, hf⟩)

/-- **A step that gave nothing to go by is a finding of its tool**, under the label of its unit. -/
theorem Served.blames {st : Step} {u : WorkUnit} (hr : Served h settings inputs t w steps w' r)
    (hst : st ∈ steps) (hw : st.Wasted u) :
    ∃ f ∈ r.findings, f.file = u.label ∧ f.isSynthetic = true := by
  rcases hr.step_cases hst with ⟨o, rfl⟩ | ⟨job, rs, v, part, report, rfl, -, hreport, hworked, hst⟩
  · -- the step of the gate is for no unit
    exact absurd rfl hw.purpose_ne
  · obtain ⟨f, hf, hlabel⟩ := hworked.blames st hst u hw
    exact ⟨f, mem_findings_summarize hreport hf, hlabel⟩

end Execution

namespace Report

variable {report : Report}

theorem totalFindings_eq_zero_iff :
    report.totalFindings = 0 ↔ ∀ r ∈ report.results, r.findings = [] := by
  rw [totalFindings]
  induction report.results with
  | nil => simp
  | cons r rs ih =>
    rw [List.foldr_cons, Nat.add_eq_zero_iff, ih, List.forall_mem_cons, ToolResult.count,
      List.length_eq_zero_iff]

theorem exitCode_eq_zero_iff : report.exitCode = 0 ↔
    ∀ r ∈ report.results, r.success = true ∧ r.isVersionSkip = false := by
  rw [exitCode]
  split
  · rename_i hall
    simpa using hall
  · rename_i hall
    simpa using hall

theorem exitCode_eq_one_iff : report.exitCode = 1 ↔ ¬ report.exitCode = 0 := by
  rw [exitCode]
  split <;> simp

end Report

open Execution

variable {σ : Type} {h : Host σ} {box : Toolbox} {req : Request} {settings : RunSettings}
variable {s s' : Session σ} {report : Report}

/-- Every result of a run is sound. -/
theorem sound_of_run (hrun : run h box req settings s = (.ok report, s')) :
    ∀ r ∈ report.results, r.Sound := by
  obtain ⟨plan, steps, ran, -, -, hserved, rfl⟩ := run_served hrun
  intro r hr
  rcases List.mem_append.1 hr with hr | hr
  · rcases List.mem_append.1 hr with hr | hr
    · obtain ⟨t, -, rfl⟩ := List.mem_map.1 hr
      exact ToolResult.sound_message _ _
    · obtain ⟨t, -, w, part, w', hpart⟩ := Sequence.exists_of_mem_right hserved.forall₂ hr
      exact hpart.sound
  · obtain ⟨d, -, rfl⟩ := List.mem_map.1 hr
    exact ToolResult.sound_skipped _ _ _

/-- **The exit status tells the truth.** Every result of a run counts its findings, says that all is well
exactly if there are none, and was skipped only with a reason and without findings; the exit status is
zero exactly if nothing was found and no tool was stopped at the version gate. Of every step of the run
that gave nothing to go by, the result of its tool has a finding under the label of its unit, and the exit
status is one. -/
theorem exitCode_truthful (hrun : run h box req settings s = (.ok report, s')) :
    (∀ r ∈ report.results, r.count = r.findings.length ∧
      (r.success = true ↔ r.findings = []) ∧
      (r.isSkipped = true →
        r.success = true ∧ r.findings = [] ∧ ∃ reason, r.skip = some reason)) ∧
    (report.exitCode = 0 ↔
      report.totalFindings = 0 ∧ ∀ r ∈ report.results, r.isVersionSkip = false) ∧
    ∃ plan steps ran, Plan.ofRequest box req = .ok plan ∧
      s'.log = s.log ++ steps.map Step.toExchange ∧
      Sequence.Threaded (Served h settings req.inputs) plan.schedule.ordered s.world steps s'.world
        ran ∧
      ∀ st ∈ steps, ∀ u, st.Wasted u →
        (∃ r ∈ report.results, r.name = st.tool.name ∧
          ∃ f ∈ r.findings, f.file = u.label ∧ f.isSynthetic = true) ∧
        report.exitCode = 1 := by
  have hsound := sound_of_run hrun
  have hexit : report.exitCode = 0 ↔
      report.totalFindings = 0 ∧ ∀ r ∈ report.results, r.isVersionSkip = false := by
    rw [Report.exitCode_eq_zero_iff, Report.totalFindings_eq_zero_iff, ← forall₂_and]
    exact forall₂_congr fun r hr => and_congr_left fun _ => (hsound r hr).success_iff
  obtain ⟨plan, steps, ran, hplan, hlog, hserved, hreport⟩ := run_served hrun
  refine ⟨fun r hr => ⟨rfl, (hsound r hr).success_iff, (hsound r hr).skipped⟩, hexit, plan, steps,
    ran, hplan, hlog, hserved, fun st hst u hw => ?_⟩
  obtain ⟨t, -, w, part, w', r, hr, hpart, hst⟩ := hserved.exists_of_mem hst
  obtain ⟨f, hf, hlabel⟩ := hpart.blames hst hw
  have hmem : r ∈ report.results := by
    rw [hreport]
    exact List.mem_append_left _ (List.mem_append_right _ hr)
  refine ⟨⟨r, hmem, ?_, f, hf, hlabel⟩, ?_⟩
  · rw [hpart.name, hpart.tool_eq hst]
  · -- the finding is counted, so something was found
    rw [Report.exitCode_eq_one_iff, hexit, Report.totalFindings_eq_zero_iff]
    rintro ⟨hnone, -⟩
    rw [hnone r hmem] at hf
    cases hf

/-- A tool that checks file by file, and finds what it prints. -/
def checker : Tool where
  spec := { name := "checker", canCheck := true, filePatterns := ["*.py"] }
  adapter :=
    { read := fun output => .ok (if output = "" then [] else [{ file := "a.py", message := output }])
      columns := []
      checkCommand := fun _ => ["checker"]
      fixCommand := none }
  rank := 0

/-- A host with two files, where every call but the first one takes too long. -/
def slowHost : Host ℕ where
  call := fun _ n => (if n = 0 then .completed true "" else .timedOut, n + 1)
  tree := fun _ => .dir [("a.py", .file ByteArray.empty false), ("b.py", .file ByteArray.empty false)]
  dir := Path.root

/-- The file whose check takes too long is in the report, and the exit status says so. -/
theorem exitCode_truthful_slow :
    ∃ report s', run slowHost ⟨[checker]⟩ { inputs := [Path.root] } {} ⟨0, []⟩ = (.ok report, s') ∧
      report.results.map ToolResult.findings = [[.timedOut "b.py" 30]] ∧
      report.exitCode = 1 := by
  have hplan : Plan.ofRequest ⟨[checker]⟩ { inputs := [Path.root] } = .ok ⟨[], ⟨[checker], []⟩⟩ :=
    Plan.ofRequest_of_select ["checker"] [checker] rfl (List.cons_ne_nil _ _) rfl (.refl _) (by decide)
  have hfiles : discover (slowHost.tree 0) slowHost.dir {} [Path.root] checker.spec.filePatterns =
      .ok [.ofNames ["a.py"], .ofNames ["b.py"]] :=
    Discovery.discover_of_perm (by decide) rfl (by decide) (by decide)
  have hserve := @serve_of_passes _ slowHost checker {} ⟨0, []⟩ ⟨0, []⟩ { inputs := [Path.root] }
    .empty _ rfl rfl hfiles
  have hrun := run_eq_ok_iff.2 ⟨_, _, hplan, rfl,
    mapM_cons_eq_ok_iff.2 ⟨_, _, [], hserve, rfl, rfl⟩, rfl⟩
  obtain ⟨-, hexit, -⟩ := exitCode_truthful hrun
  refine ⟨_, _, hrun, by decide, ?_⟩
  rw [Report.exitCode_eq_one_iff, hexit]
  decide

end Multilint
