import Multilint.Proofs.Run.Plan
import Multilint.Proofs.Run.Serving
import Multilint.Proofs.Scope.Discovery
import Multilint.Proofs.Version.Gate
import Mathlib.Data.List.Chain
/-!
# The protocol of a run

A run makes its calls tool by tool, in the order of its schedule. `Served` says which ones it makes for a
tool; what that comes to for the run as a whole is that a unit is mended only in a run that mends, and only
directly after a check that found something in it. `Guarded` states this of a list of steps. The steps of
a unit are guarded (`UnitSteps.guarded`), lists of guarded steps are guarded one behind the other
(`Guarded.append`), and so are those of a tool and of a run.
-/

namespace Multilint

namespace Execution

variable {σ : Type} {h : Host σ} {t : Tool} {job : Job} {u : WorkUnit} {settings : RunSettings}
variable {inputs : List Path} {steps steps' : List Step} {st : Step}

/-- **Mends are guarded**: directly before a step that mends a unit stands one that checks this unit for
this tool, and finds something. -/
structure Guarded (steps : List Step) : Prop where
  /-- The first step does not mend. -/
  start : ∀ st ∈ steps.head?, ∀ u, st.purpose ≠ .mend u
  /-- A later one that does has its check before it. -/
  next : steps.IsChain fun before st => ∀ u, st.purpose = .mend u →
    before.tool = st.tool ∧ before.purpose = .check u ∧ st.tool.Finds before.outcome

theorem guarded_nil : Guarded [] :=
  ⟨by simp, .nil⟩

/-- One step that does not mend is guarded. -/
theorem guarded_singleton (hst : ∀ u, st.purpose ≠ .mend u) : Guarded [st] := by
  refine ⟨fun st' hst' => ?_, .singleton st⟩
  obtain rfl : st = st' := by simpa using hst'
  exact hst

theorem Guarded.append (hs : Guarded steps) (hs' : Guarded steps') : Guarded (steps ++ steps') := by
  refine ⟨fun st hst => ?_, List.isChain_append.2 ⟨hs.next, hs'.next, fun _ _ st hst u hmend => ?_⟩⟩
  · cases steps with
    | nil => exact hs'.start st hst
    | cons st' steps => exact hs.start st hst
  · -- where the two meet, the next step is a first one, and does not mend
    exact absurd hmend (hs'.start st hst u)

/-- The steps of a unit are guarded. -/
theorem UnitSteps.guarded (hs : UnitSteps t job u steps) : Guarded steps := by
  have hcheck : ∀ o v, (Step.check t job u o).purpose ≠ .mend v := fun o v hmend => by cases hmend
  cases hs with
  | checked _ => exact guarded_singleton (hcheck _)
  | unmended _ hfinds _ =>
    refine ⟨fun st hst => ?_, .cons_cons (fun v hmend => ?_) (.singleton _)⟩
    · obtain rfl : _ = st := by simpa using hst
      exact hcheck _
    · cases hmend
      exact ⟨rfl, rfl, hfinds⟩
  | mended _ hfinds =>
    refine ⟨fun st hst => ?_, .cons_cons (fun v hmend => ?_)
      (.cons_cons (fun v hmend => ?_) (.singleton _))⟩
    · obtain rfl : _ = st := by simpa using hst
      exact hcheck _
    · cases hmend
      exact ⟨rfl, rfl, hfinds⟩
    · exact absurd hmend (hcheck _ v)

/-- So are those of the units of a job. -/
theorem guarded_of_inOrder {us : List WorkUnit} {rs : List UnitReport}
    (hs : Sequence.InOrder (Worked t job) us steps rs) : Guarded steps := by
  induction hs with
  | nil => exact guarded_nil
  | cons hstep _ ih => exact hstep.order.guarded.append ih

/-- The steps of the gate do not mend. -/
theorem GateSteps.guarded {seconds : Nat} {w w' : σ} {verdict : Option SkipReason}
    (hs : GateSteps h t seconds w steps w' verdict) : Guarded steps := by
  cases hs with
  | unasked _ => exact guarded_nil
  | asked _ _ => exact guarded_singleton fun u hmend => by cases hmend

theorem Served.guarded {w w' : σ} {r : ToolResult} (hs : Served h settings inputs t w steps w' r) :
    Guarded steps := by
  cases hs with
  | gated hgate => exact hgate.guarded
  | no_files hgate _ => exact hgate.guarded
  | worked hgate _ _ _ _ hruns _ => exact hgate.guarded.append (guarded_of_inOrder hruns)

/-- **The steps of a run are guarded.** -/
theorem guarded_of_threaded {ts : List Tool} {w w' : σ} {rs : List ToolResult}
    (hs : Sequence.Threaded (Served h settings inputs) ts w steps w' rs) : Guarded steps := by
  induction hs with
  | nil => exact guarded_nil
  | cons hserved _ ih => exact hserved.guarded.append ih

/-! ## Mends in a run that does not mend -/

/-- A unit is mended only for a job that asks for it. -/
theorem UnitSteps.fix_of_mend {v : WorkUnit} (hs : UnitSteps t job u steps) (hst : st ∈ steps)
    (hmend : st.purpose = .mend v) : job.fix = true := by
  have hfor : ∀ fix, fixFor t job = some fix → job.fix = true := by
    intro fix hfix
    rw [fixFor] at hfix
    split at hfix
    · assumption
    · cases hfix
  cases hs with
  | checked _ =>
    obtain rfl := List.mem_singleton.1 hst
    cases hmend
  | unmended hfix _ _ => exact hfor _ hfix
  | mended hfix _ => exact hfor _ hfix

/-- **A tool is served with mends** only where the settings ask for them. -/
theorem Served.fix_of_mend {w w' : σ} {r : ToolResult}
    (hs : Served h settings inputs t w steps w' r) (hst : st ∈ steps)
    (hmend : st.purpose = .mend u) : settings.fix = true := by
  rcases hs.step_cases hst with ⟨o, rfl⟩ | ⟨job, rs, v, part, report, -, hjob, -, hworked, hst⟩
  · cases hmend
  · rw [← hjob]
    exact hworked.order.fix_of_mend hst hmend

end Execution

open Execution

variable {σ : Type} {h : Host σ} {box : Toolbox} {req : Request} {settings : RunSettings}
variable {s s' : Session σ} {report : Report}

/-- **A run keeps its protocol.** What it adds to the log are the steps of the tools of its schedule, tool by
tool in the order of the schedule, and for each of them in the order that `Served` gives. It mends only
when it is asked to, and a unit only directly after a check that found something in it. A tool that
gives way takes no step. -/
theorem run_keeps_protocol (hfix : settings.fix = req.action.isFix)
    (hrun : run h box req settings s = (.ok report, s')) :
    ∃ plan steps ran, Plan.ofRequest box req = .ok plan ∧
      s'.log = s.log ++ steps.map Step.toExchange ∧
      Sequence.Threaded (Served h settings req.inputs) plan.schedule.ordered s.world steps s'.world
        ran ∧
      Guarded steps ∧
      (∀ st ∈ steps, ∀ u, st.purpose = .mend u → req.action = .fix) ∧
      (∀ st ∈ steps, st.tool ∈ plan.schedule.ordered) ∧
      (box.Built → ∀ d ∈ plan.schedule.dropped, ∀ st ∈ steps, st.tool ≠ d.tool) := by
  obtain ⟨plan, steps, ran, hplan, hlog, hserved, -⟩ := run_served hrun
  have hordered : ∀ st ∈ steps, st.tool ∈ plan.schedule.ordered := by
    intro st hst
    obtain ⟨t, ht, w, part, w', r, -, hpart, hst⟩ := hserved.exists_of_mem hst
    exact hpart.tool_eq hst ▸ ht
  refine ⟨plan, steps, ran, hplan, hlog, hserved, guarded_of_threaded hserved, ?_, hordered, ?_⟩
  · intro st hst u hmend
    obtain ⟨t, -, w, part, w', r, -, hpart, hst⟩ := hserved.exists_of_mem hst
    have hisFix : req.action.isFix = true := hfix ▸ hpart.fix_of_mend hst hmend
    cases haction : req.action with
    | check =>
      rw [haction] at hisFix
      cases hisFix
    | fix => rfl
  · -- a schedule has each tool once, so one that gives way does not run as well
    intro hbox d hd st hst heq
    have hnodup := (Plan.settles_of_ofRequest hbox hplan).schedule.nodup
    have hrun : d.tool ∈ plan.schedule.ordered := heq ▸ hordered st hst
    exact List.disjoint_of_nodup_append hnodup hrun (List.mem_map_of_mem hd)

/-- A tool that tells its version, finds what it prints, and mends it. -/
def mender : Tool where
  spec :=
    { name := "mender", canFix := true, priority := 2, filePatterns := ["*.py"]
      versionCommand := ["mender", "--version"], minVersion := some "1.2" }
  adapter :=
    { read := fun output => .ok (if output = "" then [] else [{ file := "a.py", message := output }])
      columns := []
      checkCommand := fun _ => ["mender", "check"]
      fixCommand := some fun _ => ["mender", "mend"] }
  rank := 0

/-- A tool that gives way to it. -/
def meekMender : Tool :=
  ⟨{ name := "meek", canFix := true, conflicts := ["Mender"] }, mender.adapter, 1⟩

/-- A host with one file. The tool says its version, finds something, mends it and finds nothing. -/
def mendedHost : Host ℕ where
  call := fun _ n =>
    (.completed true (if n = 0 then "mender 1.10" else if n = 1 then "blank" else ""), n + 1)
  tree := fun _ => .dir [("a.py", .file ByteArray.empty false)]
  dir := Path.root

/-- A request to fix everything below the root. -/
def mendRequest : Request where
  inputs := [Path.root]
  action := .fix

/-- The tool that stays is asked for its version, bound to no directory, and mends the file between two checks
of it in the directory of the file. -/
theorem run_keeps_protocol_mended :
    ({ fix := true } : RunSettings).fix = mendRequest.action.isFix ∧
      ∃ report s', run mendedHost ⟨[mender, meekMender]⟩ mendRequest { fix := true } ⟨0, []⟩ =
          (.ok report, s') ∧
        s'.calls = [⟨["mender", "--version"], none, 30⟩,
          ⟨["mender", "check", "/a.py"], some Path.root, 30⟩,
          ⟨["mender", "mend", "/a.py"], some Path.root, 30⟩,
          ⟨["mender", "check", "/a.py"], some Path.root, 30⟩] ∧
        ∃ steps, s'.log = steps.map Step.toExchange ∧ Guarded steps ∧
          ∀ st ∈ steps, ∀ u, st.purpose = .mend u → mendRequest.action = .fix := by
  have hplan : Plan.ofRequest ⟨[mender, meekMender]⟩ mendRequest =
      .ok ⟨[], ⟨[mender], [⟨meekMender, mender⟩]⟩⟩ :=
    Plan.ofRequest_of_select ["mender", "meek"] [mender, meekMender] rfl (List.cons_ne_nil _ _) rfl
      (.refl _) (by decide)
  have hfiles : discover (mendedHost.tree 1) mendedHost.dir {} [Path.root] mender.spec.filePatterns =
      .ok [.ofNames ["a.py"]] :=
    Discovery.discover_of_perm (by decide) rfl (by decide) (by decide)
  have hverdict : Version.verdict mender.spec "1.2" "mender 1.10" = none := by
    have hfound : Version.extract? "mender 1.10" none = some "1.10" := by decide +kernel
    have hcompare : Version.compareTexts? "1.10" "1.2" = some .gt := Version.compareTexts?_eq_some_iff.2
      ⟨⟨[1, 10]⟩, ⟨[1, 2]⟩, by rfl, by rfl, by simp [Version.compare, Version.compareNumbers]⟩
    rw [Version.verdict_of_found rfl hfound hcompare]
    rfl
  have hcheck : Version.check mendedHost mender.spec Version.defaultSeconds ⟨0, []⟩ =
      (none, ⟨1, [⟨versionCall mender Version.defaultSeconds, .completed true "mender 1.10"⟩]⟩) := by
    have hanswer : (mendedHost.call (versionCall mender Version.defaultSeconds) 0).1 =
        .completed true "mender 1.10" := rfl
    rw [check_eq_gate, gate_of_declared rfl (List.cons_ne_nil _ _), hanswer, Version.judge, hverdict]
    rfl
  have hserve := @serve_of_passes _ mendedHost mender { fix := true } ⟨0, []⟩ _ mendRequest
    .empty _ rfl hcheck hfiles
  have hrun := run_eq_ok_iff.2 ⟨_, _, hplan, rfl,
    mapM_cons_eq_ok_iff.2 ⟨_, _, [], hserve, rfl, rfl⟩, rfl⟩
  obtain ⟨-, steps, -, -, hlog, -, hguarded, hmend, -⟩ := run_keeps_protocol rfl hrun
  exact ⟨rfl, _, _, hrun, by decide, steps, hlog, hguarded, hmend⟩

end Multilint
