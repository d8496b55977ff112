import Multilint.Proofs.Run.Answers
import Multilint.Proofs.Run.Steps
/-!
# How a tool is served

Serving a tool takes the step of the version gate, where the tool declares what the gate needs, and then
the steps of its units, where it passes and there are files for it. `Served` states this together with the
states the host is in, because the files are looked for in the state after the gate. A run serves the tools
of its schedule one after another (`run_served`): its report and its log follow from that.
-/

namespace Multilint

/-- A message is no tool stopped at the version gate. -/
theorem ToolResult.isVersionSkip_message (name text : String) :
    (message name text).isVersionSkip = false :=
  rfl

namespace Execution

variable {σ : Type} {h : Host σ} {t : Tool} {settings : RunSettings} {inputs : List Path}
variable {s s' : Session σ} {req : Request} {box : Toolbox}

/-- The call that asks a tool for its version. -/
def versionCall (t : Tool) (seconds : Nat) : Call :=
  ⟨t.spec.versionCommand, none, seconds⟩

/-- **The steps of the version gate**, and its verdict: a tool that declares a least version and a version
command is asked once, and no other one is. -/
inductive GateSteps (h : Host σ) (t : Tool) (seconds : Nat) (w : σ) :
    List Step → σ → Option SkipReason → Prop
  /-- The tool does not declare both, and passes. -/
  | unasked : (t.spec.minVersion = none ∨ t.spec.versionCommand = []) →
      GateSteps h t seconds w [] w none
  /-- The outcome decides. -/
  | asked {minimum : String} : t.spec.minVersion = some minimum → t.spec.versionCommand ≠ [] →
      GateSteps h t seconds w [.version t seconds (h.call (versionCall t seconds) w).1]
        (h.call (versionCall t seconds) w).2
        (Version.judge t.spec minimum (h.call (versionCall t seconds) w).1)

/-- **How a tool is served**: the steps it takes, the states of the host before and after them, and the
result. -/
inductive Served (h : Host σ) (settings : RunSettings) (inputs : List Path) (t : Tool) (w : σ) :
    List Step → σ → ToolResult → Prop
  /-- The tool does not pass the gate. -/
  | gated {gate : List Step} {w' : σ} {reason : SkipReason} :
      GateSteps h t settings.versionSeconds w gate w' (some reason) →
      Served h settings inputs t w gate w' (Version.skippedResult t.spec reason)
  /-- There are no files for it. -/
  | no_files {gate : List Step} {w' : σ} :
      GateSteps h t settings.versionSeconds w gate w' none →
      discover (h.tree w') h.dir settings.scope inputs t.spec.filePatterns = .ok [] →
      Served h settings inputs t w gate w'
        (.message t.spec.name (Preparation.noFilesMessage t.spec.filePatterns settings.fix))
  /-- Its units are worked on in order, in the directory and the time of its job. -/
  | worked {gate : List Step} {w' w'' : σ} {files : List Path} {options : Options} {job : Job}
      {steps : List Step} {rs : List UnitReport} :
      GateSteps h t settings.versionSeconds w gate w' none →
      discover (h.tree w') h.dir settings.scope inputs t.spec.filePatterns = .ok files →
      files ≠ [] → settings.optionsFor t.spec = .ok options →
      job = Preparation.jobFor t.spec settings h.dir options files →
      Sequence.InOrder (Worked t job) (units t job) steps rs →
      h.Answers w' (steps.map Step.toExchange) w'' →
      Served h settings inputs t w (gate ++ steps) w'' (summarize t job rs)

/-- The gate takes no steps but the one that asks for the version. -/
theorem GateSteps.eq_version {seconds : Nat} {w w' : σ} {steps : List Step}
    {verdict : Option SkipReason} {st : Step} (hs : GateSteps h t seconds w steps w' verdict)
    (hst : st ∈ steps) : ∃ o, st = .version t seconds o := by
  cases hs with
  | unasked _ => cases hst
  | asked _ _ => exact ⟨_, List.mem_singleton.1 hst⟩

/-- **A step that serves a tool** is the one of the gate, or one of a unit of its job, whose report is part
of the result. -/
theorem Served.step_cases {w w' : σ} {steps : List Step} {r : ToolResult} {st : Step}
    (hs : Served h settings inputs t w steps w' r) (hst : st ∈ steps) :
    (∃ o, st = .version t settings.versionSeconds o) ∨
      ∃ job rs u part report, r = summarize t job rs ∧ job.fix = settings.fix ∧ report ∈ rs ∧
        Worked t job u part report ∧ st ∈ part := by
  cases hs with
  | gated hgate => exact Or.inl (hgate.eq_version hst)
  | no_files hgate _ => exact Or.inl (hgate.eq_version hst)
  | worked hgate _ _ _ hjob hruns _ =>
    rcases List.mem_append.1 hst with hst | hst
    · exact Or.inl (hgate.eq_version hst)
    · obtain ⟨u, -, part, report, hreport, hworked, hst⟩ := hruns.exists_of_mem hst
      exact Or.inr ⟨_, _, u, part, report, rfl, by rw [hjob]; rfl, hreport, hworked, hst⟩

/-- The steps that serve a tool are its own. -/
theorem Served.tool_eq {w w' : σ} {steps : List Step} {r : ToolResult} {st : Step}
    (hs : Served h settings inputs t w steps w' r) (hst : st ∈ steps) : st.tool = t := by
  rcases hs.step_cases hst with ⟨o, rfl⟩ | ⟨job, rs, u, part, report, -, -, -, hworked, hst⟩
  · rfl
  · exact hworked.order.tool_eq hst

/-- A tool is served with a result under its name. -/
theorem Served.name {w w' : σ} {steps : List Step} {r : ToolResult}
    (hs : Served h settings inputs t w steps w' r) : r.name = t.name := by
  cases hs with
  | gated _ => rfl
  | no_files _ _ => rfl
  | worked _ _ _ _ _ _ _ => rfl

/-! ## One tool -/

/-- A tool that declares what the gate needs is asked. -/
theorem gate_of_declared {seconds : Nat} {minimum : String} (hmin : t.spec.minVersion = some minimum)
    (hcommand : t.spec.versionCommand ≠ []) :
    Version.gate h t.spec seconds s =
      (Version.judge t.spec minimum (h.call (versionCall t seconds) s.world).1,
        (h.ask (versionCall t seconds) s).2) := by
  rw [Version.gate, hmin, versionCall]
  cases hcs : t.spec.versionCommand with
  | nil => exact absurd hcs hcommand
  | cons c cs => rfl

/-- One that does not is not. -/
theorem gate_of_undeclared {seconds : Nat}
    (hundeclared : t.spec.minVersion = none ∨ t.spec.versionCommand = []) :
    Version.gate h t.spec seconds s = (none, s) := by
  rw [Version.gate]
  rcases hundeclared with hmin | hcommand
  · rw [hmin]
    rfl
  · rw [hcommand]
    cases t.spec.minVersion <;> rfl

/-- The gate takes its steps and gives its verdict. -/
theorem gate_steps {seconds : Nat} {verdict : Option SkipReason}
    (hgate : Version.gate h t.spec seconds s = (verdict, s')) :
    ∃ gate, s'.log = s.log ++ gate.map Step.toExchange ∧
      GateSteps h t seconds s.world gate s'.world verdict := by
  by_cases hundeclared : t.spec.minVersion = none ∨ t.spec.versionCommand = []
  · rw [gate_of_undeclared hundeclared] at hgate
    obtain ⟨rfl, rfl⟩ := Prod.mk.inj hgate
    exact ⟨[], (List.append_nil s.log).symm, .unasked hundeclared⟩
  · obtain ⟨hsome, hcommand⟩ := not_or.1 hundeclared
    obtain ⟨minimum, hmin⟩ := Option.ne_none_iff_exists'.1 hsome
    rw [gate_of_declared hmin hcommand] at hgate
    obtain ⟨rfl, rfl⟩ := Prod.mk.inj hgate
    exact ⟨_, rfl, .asked hmin hcommand⟩

/-- The result of a tool that does not pass the gate says why. -/
theorem check_eq_gate (h : Host σ) (spec : ToolSpec) (seconds : Nat) (s : Session σ) :
    Version.check h spec seconds s =
      ((Version.gate h spec seconds s).1.map (Version.skippedResult spec),
        (Version.gate h spec seconds s).2) :=
  rfl

/-- A tool is skipped for the reason the gate gives, if it gives one. -/
theorem check_steps {seconds : Nat} {skipped : Option ToolResult}
    (hcheck : Version.check h t.spec seconds s = (skipped, s')) :
    ∃ gate verdict, skipped = verdict.map (Version.skippedResult t.spec) ∧
      s'.log = s.log ++ gate.map Step.toExchange ∧
      GateSteps h t seconds s.world gate s'.world verdict := by
  rw [check_eq_gate] at hcheck
  obtain ⟨rfl, rfl⟩ := Prod.mk.inj hcheck
  obtain ⟨gate, hlog, hsteps⟩ := gate_steps (Prod.eta (Version.gate h t.spec seconds s)).symm
  exact ⟨gate, _, rfl, hlog, hsteps⟩

/-- A tool is ready where there are files for it. -/
theorem ofFiles_cases (options : Options) (files : List Path) :
    files = [] ∧ Preparation.ofFiles t.spec settings h.dir options files =
        .done (.message t.spec.name
          (Preparation.noFilesMessage t.spec.filePatterns settings.fix)) ∨
      files ≠ [] ∧ Preparation.ofFiles t.spec settings h.dir options files =
        .ready (Preparation.jobFor t.spec settings h.dir options files) := by
  cases files with
  | nil => exact Or.inl ⟨rfl, rfl⟩
  | cons f fs => exact Or.inr ⟨List.cons_ne_nil f fs, rfl⟩

/-- **What comes of preparing a tool**, after the steps of the gate. -/
theorem prepare_cases {p : Preparation} (hp : prepare h settings inputs t s = (.ok p, s')) :
    ∃ gate verdict options, s'.log = s.log ++ gate.map Step.toExchange ∧
      GateSteps h t settings.versionSeconds s.world gate s'.world verdict ∧
      settings.optionsFor t.spec = .ok options ∧
      ((∃ reason, verdict = some reason ∧ p = .done (Version.skippedResult t.spec reason)) ∨
        ∃ files, verdict = none ∧
          discover (h.tree s'.world) h.dir settings.scope inputs t.spec.filePatterns = .ok files ∧
          p = .ofFiles t.spec settings h.dir options files) := by
  rw [prepare, bind_eq_ok_iff] at hp
  obtain ⟨options, s₁, hlift, hp⟩ := hp
  obtain ⟨hoptions, rfl⟩ := liftM_except_eq_ok_iff.1 hlift
  rw [bind_eq_ok_iff] at hp
  obtain ⟨skipped, s₂, hcheck, hp⟩ := hp
  obtain ⟨gate, verdict, rfl, hlog, hgate⟩ := check_steps (liftM_calling_eq_ok_iff.1 hcheck)
  refine ⟨gate, verdict, options, ?_⟩
  cases verdict with
  | some reason =>
    obtain ⟨rfl, rfl⟩ := pure_eq_ok_iff.1 hp
    exact ⟨hlog, hgate, hoptions, Or.inl ⟨reason, rfl, rfl⟩⟩
  | none =>
    obtain ⟨tree, s₃, htree, hp⟩ := bind_eq_ok_iff.1 hp
    obtain ⟨rfl, rfl⟩ := Prod.mk.inj (liftM_calling_eq_ok_iff.1 htree)
    obtain ⟨files, s₄, hlift, hp⟩ := bind_eq_ok_iff.1 hp
    obtain ⟨hfiles, rfl⟩ := liftM_except_eq_ok_iff.1 hlift
    obtain ⟨rfl, rfl⟩ := pure_eq_ok_iff.1 hp
    exact ⟨hlog, hgate, hoptions, Or.inr ⟨files, rfl, hfiles, rfl⟩⟩

/-- **Executing a job takes the steps of its units.** -/
theorem execute_steps (h : Host σ) (t : Tool) (job : Job) (s : Session σ) :
    ∃ steps rs, (execute h t job s).2.log = s.log ++ steps.map Step.toExchange ∧
      (execute h t job s).1 = summarize t job rs ∧
      Sequence.InOrder (Worked t job) (units t job) steps rs ∧
      h.Answers s.world (steps.map Step.toExchange) (execute h t job s).2.world := by
  obtain ⟨x, rs, hlog, hresult, hruns⟩ := execute_inOrder (emits_workOn h t job) s
  obtain ⟨steps, rfl, hsteps⟩ := hruns.exists_map
  obtain ⟨y, hlog', hy⟩ := (dialogue_execute h t job).answers s
  have heq : steps.map Step.toExchange = y := List.append_cancel_left (hlog.symm.trans hlog')
  exact ⟨steps, rs, hlog, hresult, hsteps, heq ▸ hy⟩

/-- **A tool is served**, where that gives a result. -/
theorem serve_served {r : ToolResult} (hr : serve h settings req t s = (.ok r, s')) :
    ∃ steps, s'.log = s.log ++ steps.map Step.toExchange ∧
      Served h settings req.inputs t s.world steps s'.world r := by
  rw [serve, bind_eq_ok_iff] at hr
  obtain ⟨p, s₁, hp, hr⟩ := hr
  obtain ⟨gate, verdict, options, hlog, hgate, hoptions, hcases⟩ := prepare_cases hp
  rcases hcases with ⟨reason, rfl, rfl⟩ | ⟨files, rfl, hfiles, rfl⟩
  · -- a strict run does not go on from here
    dsimp only at hr
    split at hr
    · cases hr
    · obtain ⟨rfl, rfl⟩ := pure_eq_ok_iff.1 hr
      exact ⟨gate, hlog, .gated hgate⟩
  · rcases ofFiles_cases options files with ⟨rfl, heq⟩ | ⟨hne, heq⟩
    · rw [heq] at hr
      dsimp only at hr
      rw [ToolResult.isVersionSkip_message, Bool.and_false] at hr
      obtain ⟨rfl, rfl⟩ := pure_eq_ok_iff.1 hr
      exact ⟨gate, hlog, .no_files hgate hfiles⟩
    · rw [heq] at hr
      have hexecute : execute h t _ s₁ = (r, s') := liftM_calling_eq_ok_iff.1 hr
      obtain ⟨steps, rs, hlog', hresult, hruns, hanswers⟩ := execute_steps h t _ s₁
      rw [hexecute] at hlog' hresult hanswers
      obtain rfl := hresult
      refine ⟨gate ++ steps, ?_, .worked hgate hfiles hne hoptions rfl hruns hanswers⟩
      rw [List.map_append, ← List.append_assoc, ← hlog, hlog']

/-- A tool that passes the gate is prepared for the files there are then. -/
theorem prepare_of_passes {options : Options} {files : List Path}
    (hoptions : settings.optionsFor t.spec = .ok options)
    (hcheck : Version.check h t.spec settings.versionSeconds s = (none, s'))
    (hfiles : discover (h.tree s'.world) h.dir settings.scope inputs t.spec.filePatterns = .ok files) :
    prepare h settings inputs t s = (.ok (.ofFiles t.spec settings h.dir options files), s') := by
  refine bind_eq_ok_iff.2 ⟨options, s, liftM_except_eq_ok_iff.2 ⟨hoptions, rfl⟩, ?_⟩
  refine bind_eq_ok_iff.2 ⟨none, s', liftM_calling_eq_ok_iff.2 hcheck, ?_⟩
  refine bind_eq_ok_iff.2 ⟨h.tree s'.world, s', liftM_calling_eq_ok_iff.2 rfl, ?_⟩
  exact bind_eq_ok_iff.2 ⟨files, s', liftM_except_eq_ok_iff.2 ⟨hfiles, rfl⟩, pure_eq_ok_iff.2 ⟨rfl, rfl⟩⟩

/-- A tool that passes the gate is executed if there are files for it, and always has a result then. -/
theorem serve_of_passes {options : Options} {files : List Path}
    (hoptions : settings.optionsFor t.spec = .ok options)
    (hcheck : Version.check h t.spec settings.versionSeconds s = (none, s'))
    (hfiles : discover (h.tree s'.world) h.dir settings.scope req.inputs t.spec.filePatterns =
      .ok files) :
    serve h settings req t s =
      if files = [] then (.ok (.message t.spec.name
        (Preparation.noFilesMessage t.spec.filePatterns settings.fix)), s')
      else
        let job := Preparation.jobFor t.spec settings h.dir options files
        (.ok (execute h t job s').1, (execute h t job s').2) := by
  have hp := prepare_of_passes hoptions hcheck hfiles
  rcases ofFiles_cases options files with ⟨rfl, heq⟩ | ⟨hne, heq⟩
  · rw [heq] at hp
    rw [if_pos rfl]
    refine bind_eq_ok_iff.2 ⟨_, s', hp, ?_⟩
    dsimp only
    rw [ToolResult.isVersionSkip_message, Bool.and_false]
    exact pure_eq_ok_iff.2 ⟨rfl, rfl⟩
  · rw [heq] at hp
    rw [if_neg hne]
    exact bind_eq_ok_iff.2 ⟨_, s', hp, liftM_calling_eq_ok_iff.2 rfl⟩

/-! ## The tools of a run -/

/-- **Tools are served one after another.** -/
theorem mapM_served {ts : List Tool} {rs : List ToolResult}
    (hrs : ts.mapM (serve h settings req) s = (.ok rs, s')) :
    ∃ steps, s'.log = s.log ++ steps.map Step.toExchange ∧
      Sequence.Threaded (Served h settings req.inputs) ts s.world steps s'.world rs := by
  -- from any session, since each tool starts in the one that the tool before it left
  induction ts generalizing s s' rs with
  | nil =>
    obtain ⟨rfl, rfl⟩ := pure_eq_ok_iff.1 hrs
    exact ⟨[], (List.append_nil s.log).symm, .nil⟩
  | cons t ts ih =>
    obtain ⟨r, s₁, rs', hr, hrs', rfl⟩ := mapM_cons_eq_ok_iff.1 hrs
    obtain ⟨steps, hlog, hserved⟩ := serve_served hr
    obtain ⟨steps', hlog', hserved'⟩ := ih hrs'
    refine ⟨steps ++ steps', ?_, .cons hserved hserved'⟩
    rw [List.map_append, ← List.append_assoc, ← hlog, hlog']

/-- A run has a report exactly if its request has a plan, the options fit and every tool of the schedule
is served. -/
theorem run_eq_ok_iff {report : Report} : run h box req settings s = (.ok report, s') ↔
    ∃ plan ran, Plan.ofRequest box req = .ok plan ∧ plan.validate settings = .ok () ∧
      plan.schedule.ordered.mapM (serve h settings req) s = (.ok ran, s') ∧
      report = ⟨req.action, plan.unfit.map (Plan.unfitResult req.action) ++ ran ++
        plan.schedule.dropped.map Plan.droppedResult⟩ := by
  rw [run, bind_eq_ok_iff]
  constructor
  · rintro ⟨plan, s₁, hlift, hrun⟩
    obtain ⟨hplan, rfl⟩ := liftM_except_eq_ok_iff.1 hlift
    obtain ⟨_, s₂, hlift', hrun⟩ := bind_eq_ok_iff.1 hrun
    obtain ⟨hvalid, rfl⟩ := liftM_except_eq_ok_iff.1 hlift'
    obtain ⟨ran, s₃, hran, hrun⟩ := bind_eq_ok_iff.1 hrun
    obtain ⟨rfl, rfl⟩ := pure_eq_ok_iff.1 hrun
    exact ⟨plan, ran, hplan, hvalid, hran, rfl⟩
  · rintro ⟨plan, ran, hplan, hvalid, hran, rfl⟩
    refine ⟨plan, s, liftM_except_eq_ok_iff.2 ⟨hplan, rfl⟩, ?_⟩
    refine bind_eq_ok_iff.2 ⟨(), s, liftM_except_eq_ok_iff.2 ⟨hvalid, rfl⟩, ?_⟩
    exact bind_eq_ok_iff.2 ⟨ran, s', hran, pure_eq_ok_iff.2 ⟨rfl, rfl⟩⟩

/-- **A run serves the tools of its schedule**, one after another, and does nothing else with the host.
Its report has their results, between those of the tools that do not run. -/
theorem run_served {report : Report} (hrun : run h box req settings s = (.ok report, s')) :
    ∃ plan steps ran, Plan.ofRequest box req = .ok plan ∧
      s'.log = s.log ++ steps.map Step.toExchange ∧
      Sequence.Threaded (Served h settings req.inputs) plan.schedule.ordered s.world steps s'.world
        ran ∧
      report = ⟨req.action, plan.unfit.map (Plan.unfitResult req.action) ++ ran ++
        plan.schedule.dropped.map Plan.droppedResult⟩ := by
  obtain ⟨plan, ran, hplan, -, hran, hreport⟩ := run_eq_ok_iff.1 hrun
  obtain ⟨steps, hlog, hserved⟩ := mapM_served hran
  exact ⟨plan, steps, ran, hplan, hlog, hserved, hreport⟩

end Execution

end Multilint
