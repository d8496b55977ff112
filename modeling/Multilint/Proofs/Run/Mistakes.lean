import Multilint.Proofs.Run.Idle
import Multilint.Proofs.Run.Plan
import Multilint.Proofs.Version.Gate
/-!
# Mistakes in a request

A run looks through its request before the first call. A name that no tool has and an option that no tool
takes end it while the session is as it was (`run_eq_unknownTool_iff`, `run_eq_invalidOption_iff`). The
include patterns of a tool are read only when its files are looked for, after the tools before it have been
served and it has passed the version gate itself: `run_of_invalidPattern` says what has been called by then.
-/

namespace Multilint

variable {σ : Type} {h : Host σ} {box : Toolbox} {req : Request} {settings : RunSettings}
variable {s s' : Session σ} {f : Failure} {t : Tool}

namespace Execution

/-! ## Runs that fail -/

/-- **A run fails** where its request has no plan, where an option does not fit, or where a tool of its
schedule fails. -/
theorem run_eq_error_iff : run h box req settings s = (.error f, s') ↔
    Plan.ofRequest box req = .error f ∧ s = s' ∨
      ∃ plan, Plan.ofRequest box req = .ok plan ∧
        (plan.validate settings = .error f ∧ s = s' ∨
          plan.validate settings = .ok () ∧
            plan.schedule.ordered.mapM (serve h settings req) s = (.error f, s')) := by
  rw [run, bind_eq_error_iff]
  constructor
  · rintro (hplan | ⟨plan, s₁, hplan, hrun⟩)
    · exact Or.inl (liftM_except_eq_error_iff.1 hplan)
    · obtain ⟨hplan', rfl⟩ := liftM_except_eq_ok_iff.1 hplan
      refine Or.inr ⟨plan, hplan', ?_⟩
      rcases bind_eq_error_iff.1 hrun with hvalid | ⟨_, s₂, hvalid, hrun⟩
      · exact Or.inl (liftM_except_eq_error_iff.1 hvalid)
      · obtain ⟨hvalid', rfl⟩ := liftM_except_eq_ok_iff.1 hvalid
        refine Or.inr ⟨hvalid', ?_⟩
        rcases bind_eq_error_iff.1 hrun with hserve | ⟨ran, s₃, -, hpure⟩
        · exact hserve
        · exact absurd hpure pure_ne_error
  · rintro (⟨hplan, rfl⟩ | ⟨plan, hplan, hrun⟩)
    · exact Or.inl (liftM_except_eq_error_iff.2 ⟨hplan, rfl⟩)
    · refine Or.inr ⟨plan, s, liftM_except_eq_ok_iff.2 ⟨hplan, rfl⟩, ?_⟩
      rcases hrun with ⟨hvalid, rfl⟩ | ⟨hvalid, hserve⟩
      · exact bind_eq_error_iff.2 (Or.inl (liftM_except_eq_error_iff.2 ⟨hvalid, rfl⟩))
      · exact bind_eq_error_iff.2 (Or.inr ⟨(), s, liftM_except_eq_ok_iff.2 ⟨hvalid, rfl⟩,
          bind_eq_error_iff.2 (Or.inl hserve)⟩)

/-- A plan is valid exactly if the options of every tool of its schedule fit. -/
theorem validate_eq_ok_iff {plan : Plan} : plan.validate settings = .ok () ↔
    ∀ t ∈ plan.schedule.ordered, ∃ options, settings.optionsFor t.spec = .ok options :=
  Sequence.forM_eq_ok_iff

/-- **Tools whose options fit fail** because the include patterns of one of them are no patterns, after
those before it have been served, or because a strict run stops at a gate. -/
theorem mapM_serve_error_cases {ts : List Tool}
    (hoptions : ∀ t ∈ ts, ∃ options, settings.optionsFor t.spec = .ok options)
    (herror : ts.mapM (serve h settings req) s = (.error f, s')) :
    (∃ before t after steps gate, ∃ w rs, ts = before ++ t :: after ∧
      s'.log = s.log ++ (steps ++ gate).map Step.toExchange ∧
      Sequence.Threaded (Served h settings req.inputs) before s.world steps w rs ∧
      GateSteps h t settings.versionSeconds w gate s'.world none ∧
      Discovery.includesOf t.spec.filePatterns = .error f) ∨
      ∃ name message, f = .versionGate name message := by
  obtain ⟨before, t, after, s₁, rs, rfl, hbefore, ht⟩ := mapM_eq_error_iff.1 herror
  obtain ⟨steps, hlog, hserved⟩ := mapM_served hbefore
  rcases serve_error_cases ht with hfault | ⟨gate, hlog', hgate, hincludes⟩ | ⟨message, rfl⟩
  · obtain ⟨options, hfit⟩ := hoptions t (by simp)
    rw [hfit] at hfault
    cases hfault
  · refine Or.inl ⟨before, t, after, steps, gate, _, rs, rfl, ?_, hserved, hgate, hincludes⟩
    rw [hlog', hlog, List.map_append, List.append_assoc]
  · exact Or.inr ⟨_, _, rfl⟩

/-- A plan that is not valid has options that do not fit. -/
theorem exists_fault_of_validate {plan : Plan} (hvalid : plan.validate settings = .error f) :
    ∃ tool fault, f = .invalidOption tool fault := by
  obtain ⟨before, t, after, -, -, ht⟩ := Sequence.forM_eq_error_iff.1 hvalid
  obtain ⟨fault, rfl⟩ := settings.exists_fault ht
  exact ⟨_, fault, rfl⟩

/-- Tools whose options fit make no other mistake than in their include patterns. -/
theorem exists_pattern_of_mapM_serve {plan : Plan} (hvalid : plan.validate settings = .ok ())
    (herror : plan.schedule.ordered.mapM (serve h settings req) s = (.error f, s')) :
    (∃ pattern fault, f = .invalidPattern pattern fault) ∨
      ∃ name message, f = .versionGate name message := by
  refine (mapM_serve_error_cases (validate_eq_ok_iff.1 hvalid) herror).imp_left ?_
  rintro ⟨before, t, after, steps, gate, w, rs, -, -, -, -, hincludes⟩
  obtain ⟨pattern, -, fault, -, hf⟩ := Discovery.exists_invalid hincludes
  exact ⟨pattern, fault, hf⟩

/-- **A name that no tool has** ends a run in the session it starts in, and the first such name is the one
that is reported. -/
theorem run_eq_unknownTool_iff {id : String} :
    run h box req settings s = (.error (.unknownTool id), s') ↔
      s = s' ∧ Sequence.FirstFails box.get req.tools (.unknownTool id) := by
  rw [run_eq_error_iff, Plan.ofRequest_eq_error_iff, and_comm]
  refine or_iff_left ?_
  rintro ⟨plan, -, ⟨hvalid, -⟩ | ⟨hvalid, hserve⟩⟩
  · obtain ⟨tool, fault, hf⟩ := exists_fault_of_validate hvalid
    cases hf
  · rcases exists_pattern_of_mapM_serve hvalid hserve with ⟨_, _, hf⟩ | ⟨_, _, hf⟩ <;> cases hf

/-- **An option that does not fit** ends a run in the session it starts in, and the first tool of the
schedule that has one is the one that is reported. -/
theorem run_eq_invalidOption_iff {tool : String} {fault : OptionFault} :
    run h box req settings s = (.error (.invalidOption tool fault), s') ↔
      s = s' ∧ ∃ plan, Plan.ofRequest box req = .ok plan ∧
        Sequence.FirstFails (fun t => settings.optionsFor t.spec) plan.schedule.ordered
          (.invalidOption tool fault) := by
  rw [run_eq_error_iff]
  constructor
  · rintro (⟨hplan, -⟩ | ⟨plan, hplan, ⟨hvalid, rfl⟩ | ⟨hvalid, hserve⟩⟩)
    · obtain ⟨_, id, _, -, -, hid⟩ := Plan.ofRequest_eq_error_iff.1 hplan
      cases (Toolbox.get_eq_error_iff.1 hid).2
    · exact ⟨rfl, plan, hplan, Sequence.forM_eq_error_iff.1 hvalid⟩
    · rcases exists_pattern_of_mapM_serve hvalid hserve with ⟨_, _, hf⟩ | ⟨_, _, hf⟩ <;> cases hf
  · rintro ⟨rfl, plan, hplan, hfails⟩
    exact Or.inr ⟨plan, hplan, Or.inl ⟨Sequence.forM_eq_error_iff.2 hfails, rfl⟩⟩

/-- **An include pattern that is none** ends a run when its tool looks for files. By then the tools before it
have been served and the tool has passed the gate. -/
theorem run_of_invalidPattern {pattern : String} {fault : GlobFailure}
    (hrun : run h box req settings s = (.error (.invalidPattern pattern fault), s')) :
    ∃ plan, Plan.ofRequest box req = .ok plan ∧ plan.validate settings = .ok () ∧
      ∃ before t after steps gate, ∃ w rs, plan.schedule.ordered = before ++ t :: after ∧
        s'.log = s.log ++ (steps ++ gate).map Step.toExchange ∧
        Sequence.Threaded (Served h settings req.inputs) before s.world steps w rs ∧
        GateSteps h t settings.versionSeconds w gate s'.world none ∧
        Discovery.includesOf t.spec.filePatterns = .error (.invalidPattern pattern fault) := by
  rcases run_eq_error_iff.1 hrun with ⟨hplan, -⟩ | ⟨plan, hplan, ⟨hvalid, -⟩ | ⟨hvalid, hserve⟩⟩
  · obtain ⟨_, id, _, -, -, hid⟩ := Plan.ofRequest_eq_error_iff.1 hplan
    cases (Toolbox.get_eq_error_iff.1 hid).2
  · obtain ⟨tool, fault, hf⟩ := exists_fault_of_validate hvalid
    cases hf
  · rcases mapM_serve_error_cases (validate_eq_ok_iff.1 hvalid) hserve with hcases | ⟨_, _, hf⟩
    · exact ⟨plan, hplan, hvalid, hcases⟩
    · cases hf

/-- A run whose first tools have nothing to do ends without a call where the next one is not asked for its
version and its include patterns are no patterns. -/
theorem run_of_unreadable {plan : Plan} {before after : List Tool}
    (hplan : Plan.ofRequest box req = .ok plan) (hvalid : plan.validate settings = .ok ())
    (hordered : plan.schedule.ordered = before ++ t :: after)
    (hidle : ∀ u ∈ before, Idle h settings req.inputs s.world u) (hunasked : Unasked t)
    (hincludes : Discovery.includesOf t.spec.filePatterns = .error f) :
    run h box req settings s = (.error f, s) := by
  have hoptions := validate_eq_ok_iff.1 hvalid
  rw [hordered] at hoptions
  obtain ⟨rs, hrs⟩ := mapM_serve_of_idle (fun u hu => hoptions u (by simp [hu])) hidle
  obtain ⟨options, ht⟩ := hoptions t (by simp)
  have hcheck : Version.check h t.spec settings.versionSeconds s = (none, s) := by
    rw [check_eq_gate, gate_of_undeclared hunasked]
    rfl
  have hserve : plan.schedule.ordered.mapM (serve h settings req) s = (.error f, s) :=
    mapM_eq_error_iff.2 ⟨before, t, after, s, rs, hordered, hrs,
      serve_of_unreadable ht hcheck hincludes⟩
  exact run_eq_error_iff.2 (Or.inr ⟨plan, hplan, Or.inr ⟨hvalid, hserve⟩⟩)

end Execution

/-- **A failure is a mistake**: in the request, in the options of a tool, or in the pattern of one. -/
inductive Failure.IsMistake : Failure → Prop
  /-- A tool that is not there. -/
  | tool (id : String) : IsMistake (.unknownTool id)
  /-- An option that does not fit. -/
  | option (tool : String) (fault : OptionFault) : IsMistake (.invalidOption tool fault)
  /-- A pattern that is none. -/
  | pattern (pattern : String) (fault : GlobFailure) : IsMistake (.invalidPattern pattern fault)

open Execution

/-- **When a mistake is reported before the first call.** A run that ends with a mistake has called nothing
if the mistake is in a name or an option. If it is in an include pattern, that holds exactly if the tools
scheduled before the one with the pattern have nothing to do and this one is not asked for its version. -/
theorem run_reports_before_calls_iff (hmistake : f.IsMistake)
    (hrun : run h box req settings s = (.error f, s')) :
    s'.log = s.log ↔ ∀ pattern fault, f = .invalidPattern pattern fault →
      ∃ plan before t after, Plan.ofRequest box req = .ok plan ∧
        plan.schedule.ordered = before ++ t :: after ∧
        (∀ u ∈ before, Idle h settings req.inputs s.world u) ∧ Unasked t ∧
        Discovery.includesOf t.spec.filePatterns = .error f := by
  cases hmistake with
  | tool id =>
    obtain ⟨rfl, -⟩ := run_eq_unknownTool_iff.1 hrun
    exact iff_of_true rfl fun _ _ h => by cases h
  | option tool fault =>
    obtain ⟨rfl, -⟩ := run_eq_invalidOption_iff.1 hrun
    exact iff_of_true rfl fun _ _ h => by cases h
  | pattern pattern fault =>
    obtain ⟨plan, hplan, hvalid, before, t, after, steps, gate, w, rs, hordered, hlog, hserved, hgate,
      hincludes⟩ := run_of_invalidPattern hrun
    constructor
    · intro hsilent _ _ _
      rw [hlog, List.append_right_eq_self, List.map_eq_nil_iff, List.append_eq_nil_iff] at hsilent
      exact ⟨plan, before, t, after, hplan, hordered, idle_of_threaded_nil hserved hsilent.1,
        hgate.nil_iff.1 hsilent.2, hincludes⟩
    · intro hcondition
      -- the run is determined, so it is the one that makes no call
      obtain ⟨plan', before', t', after', hplan', hordered', hidle, hunasked, hincludes'⟩ :=
        hcondition pattern fault rfl
      obtain rfl := Except.ok.inj (hplan.symm.trans hplan')
      have hrun' := run_of_unreadable hplan hvalid hordered' hidle hunasked hincludes'
      rw [hrun] at hrun'
      rw [(Prod.mk.inj hrun').2]

/-- A tool whose include pattern is none. It says from which version on it can be used, or does not. -/
def mistaken (minVersion : Option String) : Tool where
  spec :=
    { name := "mistaken", canCheck := true, filePatterns := ["["]
      versionCommand := ["mistaken", "--version"], minVersion }
  adapter :=
    { read := fun _ => .ok []
      columns := []
      checkCommand := fun _ => ["mistaken", "check"]
      fixCommand := none }
  rank := 0

/-- A host without files on which the tool says its version. -/
def versionHost : Host Unit where
  call := fun _ w => (.completed true "mistaken 1.10", w)
  tree := fun _ => .dir []
  dir := Path.root

/-- What is wrong with the pattern. -/
def openBracket : Failure :=
  .invalidPattern "[" ⟨.badClass, 0⟩

theorem plan_mistaken (v : Option String) :
    Plan.ofRequest ⟨[mistaken v]⟩ {} = .ok ⟨[], ⟨[mistaken v], []⟩⟩ := by
  have hget : Toolbox.get ⟨[mistaken v]⟩ "mistaken" = .ok (mistaken v) := by
    simp [Toolbox.get, Toolbox.find?, mistaken, Tool.name]
  have hts : Schedule.requested ⟨[mistaken v]⟩ ["mistaken"] = .ok [mistaken v] := by
    simp [Schedule.requested, Schedule.resolve, hget, bind, Except.bind, pure, Except.pure]
  exact Plan.ofRequest_of_select ["mistaken"] [mistaken v] rfl (List.cons_ne_nil _ _) hts (.refl _)
    (List.pairwise_singleton _ _)

theorem includes_mistaken (v : Option String) :
    Discovery.includesOf (mistaken v).spec.filePatterns = .error openBracket := by
  rfl

/-- A tool that does not say from which version on it can be used is reported before the first call. -/
theorem run_reports_before_calls_iff_unasked :
    openBracket.IsMistake ∧
      ∃ s', run versionHost ⟨[mistaken none]⟩ {} {} ⟨(), []⟩ = (.error openBracket, s') ∧
        s'.log = [] := by
  have hordered : [mistaken none] = [] ++ mistaken none :: [] := rfl
  have hrun : run versionHost ⟨[mistaken none]⟩ {} {} ⟨(), []⟩ = (.error openBracket, ⟨(), []⟩) :=
    run_of_unreadable (plan_mistaken none) rfl hordered (by simp) (Or.inl rfl) (includes_mistaken none)
  refine ⟨.pattern _ _, _, hrun, (run_reports_before_calls_iff (.pattern _ _) hrun).2 fun _ _ _ => ?_⟩
  exact ⟨_, [], _, [], plan_mistaken none, hordered, by simp, Or.inl rfl, includes_mistaken none⟩

/-- One that does is asked for its version before its pattern is read. -/
theorem run_calls_before_mistake :
    ¬ ∀ (h : Host Unit) (box : Toolbox) (req : Request) (settings : RunSettings) (s s' : Session Unit)
        (f : Failure), f.IsMistake → run h box req settings s = (.error f, s') → s'.log = s.log := by
  intro hsilent
  have hverdict : Version.verdict (mistaken (some "1.2")).spec "1.2" "mistaken 1.10" = none := by
    have hfound : Version.extract? "mistaken 1.10" none = some "1.10" := by decide +kernel
    have hcompare : Version.compareTexts? "1.10" "1.2" = some .gt := Version.compareTexts?_eq_some_iff.2
      ⟨⟨[1, 10]⟩, ⟨[1, 2]⟩, by rfl, by rfl, by simp [Version.compare, Version.compareNumbers]⟩
    rw [Version.verdict_of_found rfl hfound hcompare]
    rfl
  have hcheck : Version.check versionHost (mistaken (some "1.2")).spec Version.defaultSeconds ⟨(), []⟩ =
      (none, ⟨(), [⟨versionCall (mistaken (some "1.2")) Version.defaultSeconds,
        .completed true "mistaken 1.10"⟩]⟩) := by
    have hanswer : (versionHost.call
        (versionCall (mistaken (some "1.2")) Version.defaultSeconds) ()).1 =
        .completed true "mistaken 1.10" := rfl
    rw [check_eq_gate, gate_of_declared rfl (List.cons_ne_nil _ _), hanswer, Version.judge, hverdict]
    rfl
  have hserve := @serve_of_unreadable _ versionHost {} {} ⟨(), []⟩ _ openBracket
    (mistaken (some "1.2")) .empty rfl hcheck (includes_mistaken _)
  have hrun := run_eq_error_iff.2 (Or.inr ⟨_, plan_mistaken _, Or.inr ⟨rfl,
    mapM_eq_error_iff.2 ⟨[], _, [], ⟨(), []⟩, [], rfl, rfl, hserve⟩⟩⟩)
  cases hsilent _ _ _ _ _ _ _ (.pattern _ _) hrun

end Multilint
