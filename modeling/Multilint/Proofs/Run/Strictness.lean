import Multilint.Proofs.Run.Mistakes
import Multilint.Proofs.Run.Results
import Multilint.Proofs.Text.Trim
/-!
# Strict runs

A strict run does what a lenient one does until a tool is stopped at the version gate, and there it fails.
`serve_strict` compares the two for one tool, and `run_strict_truncates` for a whole run: the strict run is
the lenient one where no tool is stopped, and otherwise ends with the version command of the first tool that
is. Which results count as stopped is decided by the gate alone (`Served.stopped`), so neither a conflict
nor a lack of files ends a strict run.
-/

namespace Multilint

theorem ToolResult.output_skipped (name : String) (reason : SkipReason) (text : String) :
    (skipped name reason text).output = meaningful? text := by
  simp only [skipped, message]

namespace Execution

variable {σ : Type} {h : Host σ} {t : Tool} {settings : RunSettings} {inputs : List Path}
variable {s s' : Session σ} {req : Request} {box : Toolbox} {r : ToolResult} {e : Exchange}
variable {seconds : ℕ}

/-! ## Tools stopped at the gate -/

/-- **A tool is stopped at the version gate**: its version command was called, the outcome is a reason to
skip it, and its result says so. -/
structure Stopped (t : Tool) (seconds : ℕ) (e : Exchange) (r : ToolResult) : Prop where
  /-- The version command was called. -/
  call : e.call = versionCall t seconds
  /-- The outcome is a reason, and the result gives it. -/
  judged : ∃ minimum reason, t.spec.minVersion = some minimum ∧
    Version.judge t.spec minimum e.outcome = some reason ∧ r = Version.skippedResult t.spec reason

/-- The gate never gives a conflict for a reason. -/
theorem isVersionGate_of_judge {spec : ToolSpec} {minimum : String} {o : Outcome} {reason : SkipReason}
    (hjudge : Version.judge spec minimum o = some reason) : reason.isVersionGate = true := by
  have hverdict : ∀ output, Version.verdict spec minimum output = some reason →
      reason.isVersionGate = true := by
    intro output hverdict
    rw [Version.verdict] at hverdict
    split at hverdict
    · cases hverdict
      rfl
    · split at hverdict <;> cases hverdict <;> rfl
  cases o with
  | completed success output =>
    cases success with
    | true => exact hverdict output hjudge
    | false =>
      cases hjudge
      rfl
  | timedOut =>
    cases hjudge
    rfl
  | failed f =>
    obtain ⟨fault, message⟩ := f
    cases fault <;> cases hjudge <;> rfl

/-- The result of a tool stopped at the gate counts as such. -/
theorem Stopped.isVersionSkip (hr : Stopped t seconds e r) : r.isVersionSkip = true := by
  obtain ⟨minimum, reason, -, hjudge, rfl⟩ := hr.judged
  exact isVersionGate_of_judge hjudge

/-- It has a text, which starts with a word. -/
theorem Stopped.exists_output (hr : Stopped t seconds e r) : ∃ message, r.output = some message := by
  obtain ⟨minimum, reason, -, -, rfl⟩ := hr.judged
  have hword : 'S' ∈ ("Skipping " ++ t.spec.name ++ ": " ++ reason.text ++ ". Minimum required: " ++
      t.spec.minVersion.getD "-" ++ ". " ++ t.spec.hint).toList := by
    simp only [String.toList_append, List.append_assoc]
    exact List.mem_append_left _ (by decide)
  rw [Version.skippedResult, ToolResult.output_skipped, ToolResult.meaningful?,
    if_neg (Text.trimmed_ne_empty hword (by decide))]
  exact ⟨_, rfl⟩

/-- **Only the gate stops tools.** A result that counts as stopped came from the version command of its tool,
and no other call was made for it. -/
theorem Served.stopped {w w' : σ} {steps : List Step}
    (hr : Served h settings inputs t w steps w' r) (hskip : r.isVersionSkip = true) :
    ∃ st, steps = [st] ∧ Stopped t settings.versionSeconds st.toExchange r := by
  cases hr with
  | gated hgate =>
    generalize hverdict : some _ = verdict at hgate
    cases hgate with
    | unasked _ => cases hverdict
    | asked hmin _ => exact ⟨_, rfl, rfl, _, _, hmin, hverdict.symm, rfl⟩
  | no_files _ _ => cases hskip
  | worked _ _ _ _ _ _ _ => cases hskip

/-- **No tool that is served gives way to another one.** -/
theorem Served.no_conflict {w w' : σ} {steps : List Step} {winner : String}
    (hr : Served h settings inputs t w steps w' r) : r.skip ≠ some (.conflict winner) := by
  intro hskip
  cases hr with
  | gated hgate =>
    generalize hverdict : some _ = verdict at hgate
    cases hgate with
    | unasked _ => cases hverdict
    | asked _ _ =>
      obtain rfl := Option.some.inj hskip
      cases isVersionGate_of_judge hverdict.symm
  | no_files _ _ => cases hskip
  | worked _ _ _ _ _ _ _ => cases hskip

/-! ## One tool, strictly -/

/-- An executed tool does not count as stopped. -/
theorem isVersionSkip_execute (h : Host σ) (t : Tool) (job : Job) (s : Session σ) :
    (execute h t job s).1.isVersionSkip = false :=
  rfl

/-- **A strict run serves a tool as a lenient one does**, except that a tool stopped at the gate fails. -/
theorem serve_strict (hr : serve h settings { req with strict := false } t s = (.ok r, s')) :
    serve h settings { req with strict := true } t s =
      (if r.isVersionSkip then .error (.versionGate t.name (r.output.getD "")) else .ok r, s') := by
  rw [serve, bind_eq_ok_iff] at hr
  obtain ⟨p, s₁, hp, hr⟩ := hr
  cases p with
  | ready job =>
    have hexecute : execute h t job s₁ = (r, s') := liftM_calling_eq_ok_iff.1 hr
    have hskip : r.isVersionSkip = false := by
      have hr' := isVersionSkip_execute h t job s₁
      rwa [hexecute] at hr'
    rw [hskip, if_neg Bool.false_ne_true]
    exact bind_eq_ok_iff.2 ⟨_, s₁, hp, hr⟩
  | done result =>
    obtain ⟨rfl, rfl⟩ := pure_eq_ok_iff.1 hr
    by_cases hskip : result.isVersionSkip = true
    · rw [if_pos hskip]
      refine bind_eq_error_iff.2 (Or.inr ⟨_, s₁, hp, ?_⟩)
      dsimp only
      rw [hskip]
      rfl
    · rw [if_neg hskip]
      refine bind_eq_ok_iff.2 ⟨_, s₁, hp, ?_⟩
      dsimp only
      rw [Bool.true_and, if_neg hskip]
      rfl

/-! ## The tools of a schedule, strictly -/

/-- Tools none of which is stopped are served strictly as leniently. -/
theorem mapM_serve_strict {ts : List Tool} {rs : List ToolResult}
    (hrs : ts.mapM (serve h settings { req with strict := false }) s = (.ok rs, s'))
    (hpass : ∀ r ∈ rs, r.isVersionSkip = false) :
    ts.mapM (serve h settings { req with strict := true }) s = (.ok rs, s') := by
  induction ts generalizing s rs with
  | nil => exact hrs
  | cons t ts ih =>
    obtain ⟨r, s₁, rs', hr, hrs', rfl⟩ := mapM_cons_eq_ok_iff.1 hrs
    rw [List.forall_mem_cons] at hpass
    have hr' := serve_strict hr
    rw [hpass.1, if_neg Bool.false_ne_true] at hr'
    exact mapM_cons_eq_ok_iff.2 ⟨r, s₁, rs', hr', ih hrs' hpass.2, rfl⟩

/-- **The first stopped tool ends strict serving**, in the session in which lenient serving goes on. -/
theorem mapM_serve_strict_stopped {before after : List Tool} {earlier : List ToolResult}
    {s₁ s₂ : Session σ}
    (hbefore : before.mapM (serve h settings { req with strict := false }) s = (.ok earlier, s₁))
    (hpass : ∀ q ∈ earlier, q.isVersionSkip = false)
    (hr : serve h settings { req with strict := false } t s₁ = (.ok r, s₂))
    (hskip : r.isVersionSkip = true) :
    (before ++ t :: after).mapM (serve h settings { req with strict := true }) s =
      (.error (.versionGate t.name (r.output.getD "")), s₂) := by
  have hr' := serve_strict hr
  rw [if_pos hskip] at hr'
  exact mapM_eq_error_iff.2 ⟨before, t, after, s₁, earlier, rfl, mapM_serve_strict hbefore hpass, hr'⟩

/-- What is served one after another is served up to any result, and on from there. -/
theorem exists_of_mapM_append {f : Tool → ExceptT Failure (Calling σ) ToolResult} {ts : List Tool}
    {earlier later : List ToolResult} (hrs : ts.mapM f s = (.ok (earlier ++ r :: later), s')) :
    ∃ (before after : List Tool) (t : Tool) (s₁ s₂ : Session σ),
      ts = before ++ t :: after ∧ before.mapM f s = (.ok earlier, s₁) ∧
      f t s₁ = (.ok r, s₂) ∧ after.mapM f s₂ = (.ok later, s') := by
  induction earlier generalizing ts s with
  | nil =>
    cases ts with
    | nil => cases (pure_eq_ok_iff.1 hrs).1
    | cons t ts =>
      obtain ⟨q, s₁, rs, hq, hts, heq⟩ := mapM_cons_eq_ok_iff.1 hrs
      obtain ⟨rfl, rfl⟩ := List.cons.inj heq
      exact ⟨[], ts, t, s, s₁, rfl, rfl, hq, hts⟩
  | cons q earlier ih =>
    cases ts with
    | nil => cases (pure_eq_ok_iff.1 hrs).1
    | cons u ts =>
      obtain ⟨q', s₁, rs, hq, hts, heq⟩ := mapM_cons_eq_ok_iff.1 hrs
      obtain ⟨rfl, rfl⟩ := List.cons.inj heq
      obtain ⟨before, after, t, s₂, s₃, rfl, hbefore, ht, hafter⟩ := ih hts
      exact ⟨u :: before, after, t, s₂, s₃, rfl,
        mapM_cons_eq_ok_iff.2 ⟨q, s₁, earlier, hq, hbefore, rfl⟩, ht, hafter⟩

/-- A tool that is served and stopped adds one exchange to the log. -/
theorem serve_stopped (hr : serve h settings req t s = (.ok r, s')) (hskip : r.isVersionSkip = true) :
    ∃ e, s'.log = s.log ++ [e] ∧ Stopped t settings.versionSeconds e r := by
  obtain ⟨steps, hlog, hserved⟩ := serve_served hr
  obtain ⟨st, rfl, hstopped⟩ := hserved.stopped hskip
  exact ⟨_, hlog, hstopped⟩

/-- Serving tools only adds to the log. -/
theorem exists_log_of_mapM {ts : List Tool} {rs : List ToolResult}
    (hrs : ts.mapM (serve h settings req) s = (.ok rs, s')) : ∃ x, s'.log = s.log ++ x := by
  obtain ⟨steps, hlog, -⟩ := mapM_served hrs
  exact ⟨_, hlog⟩

/-- **Each result that counts as stopped** has its exchange in the log. -/
theorem exists_stopped_of_mapM {ts : List Tool} {rs : List ToolResult}
    (hrs : ts.mapM (serve h settings req) s = (.ok rs, s')) (hr : r ∈ rs)
    (hskip : r.isVersionSkip = true) :
    ∃ t ∈ ts, ∃ x e y, s'.log = s.log ++ x ++ e :: y ∧ Stopped t settings.versionSeconds e r := by
  obtain ⟨earlier, later, rfl⟩ := List.append_of_mem hr
  obtain ⟨before, after, t, s₁, s₂, rfl, hbefore, ht, hafter⟩ := exists_of_mapM_append hrs
  obtain ⟨x, hx⟩ := exists_log_of_mapM hbefore
  obtain ⟨e, he, hstopped⟩ := serve_stopped ht hskip
  obtain ⟨y, hy⟩ := exists_log_of_mapM hafter
  refine ⟨t, by simp, x, e, y, ?_, hstopped⟩
  rw [hy, he, hx, List.append_assoc _ [e], List.singleton_append]

/-- **Strict serving truncates.** Where no result counts as stopped, tools are served strictly as leniently.
Otherwise strict serving ends at the first tool that is stopped, and its log with the exchange of that tool. -/
theorem mapM_serve_truncates {ts : List Tool} {rs : List ToolResult}
    (hrs : ts.mapM (serve h settings { req with strict := false }) s = (.ok rs, s')) :
    (∀ r ∈ rs, r.isVersionSkip = false) ∧
        ts.mapM (serve h settings { req with strict := true }) s = (.ok rs, s') ∨
      ∃ (before after : List Tool) (t : Tool) (earlier later : List ToolResult) (r : ToolResult)
        (x y : List Exchange) (e : Exchange) (message : String) (s'' : Session σ),
        ts = before ++ t :: after ∧ rs = earlier ++ r :: later ∧
        earlier.map ToolResult.name = before.map Tool.name ∧
        (∀ q ∈ earlier, q.isVersionSkip = false) ∧
        Stopped t settings.versionSeconds e r ∧ r.output = some message ∧
        s'.log = s.log ++ x ++ e :: y ∧
        ts.mapM (serve h settings { req with strict := true }) s =
          (.error (.versionGate t.name message), s'') ∧
        s''.log = s.log ++ x ++ [e] := by
  cases hfind : rs.find? ToolResult.isVersionSkip with
  | none =>
    have hpass : ∀ r ∈ rs, r.isVersionSkip = false := by
      intro r hr
      exact Bool.eq_false_iff.2 (List.find?_eq_none.1 hfind r hr)
    exact Or.inl ⟨hpass, mapM_serve_strict hrs hpass⟩
  | some r =>
    -- the results before the first one that counts as stopped do not count as such
    obtain ⟨hskip, earlier, later, rfl, hearlier⟩ := List.find?_eq_some_iff_append.1 hfind
    have hpass : ∀ q ∈ earlier, q.isVersionSkip = false := by
      intro q hq
      simpa using hearlier q hq
    obtain ⟨before, after, t, s₁, s₂, rfl, hbefore, ht, hafter⟩ := exists_of_mapM_append hrs
    obtain ⟨x, hx⟩ := exists_log_of_mapM hbefore
    obtain ⟨e, he, hstopped⟩ := serve_stopped ht hskip
    obtain ⟨y, hy⟩ := exists_log_of_mapM hafter
    obtain ⟨message, hmessage⟩ := hstopped.exists_output
    have hnames : earlier.map ToolResult.name = before.map Tool.name := by
      obtain ⟨steps, -, hserved⟩ := mapM_served hbefore
      exact map_name_of_served hserved
    have hstrict : (before ++ t :: after).mapM (serve h settings { req with strict := true }) s =
        (.error (.versionGate t.name (r.output.getD "")), s₂) :=
      mapM_serve_strict_stopped hbefore hpass ht hskip
    rw [hmessage, Option.getD_some] at hstrict
    refine Or.inr ⟨before, after, t, earlier, later, r, x, y, e, message, s₂, rfl, rfl, hnames, hpass,
      hstopped, hmessage, ?_, hstrict, ?_⟩
    · rw [hy, he, hx, List.append_assoc _ [e], List.singleton_append]
    · rw [he, hx]

end Execution

open Execution

variable {σ : Type} {h : Host σ} {box : Toolbox} {req : Request} {settings : RunSettings}
variable {s s' : Session σ} {report : Report} {r : ToolResult}

/-- A result of a run that counts as stopped is one of a tool of the schedule. -/
theorem mem_ran_of_isVersionSkip {plan : Plan} {action : Action} {ran : List ToolResult}
    (hr : r ∈ plan.unfit.map (Plan.unfitResult action) ++ ran ++
      plan.schedule.dropped.map Plan.droppedResult) (hskip : r.isVersionSkip = true) : r ∈ ran := by
  rcases List.mem_append.1 hr with hr | hr
  · rcases List.mem_append.1 hr with hr | hr
    · obtain ⟨t, -, rfl⟩ := List.mem_map.1 hr
      cases hskip
    · exact hr
  · -- a tool that gives way is skipped for a conflict
    obtain ⟨d, -, rfl⟩ := List.mem_map.1 hr
    cases hskip

/-- **A strict run only truncates.** Of the results of a lenient run those count as stopped whose tool was
asked for its version and judged by the answer. Where there is none, the strict run is the lenient one.
Otherwise the strict run fails with the first tool of the schedule that is stopped and with the text of
its result, and its log ends with the version command of that tool, where the log of the lenient run
goes on. -/
theorem run_strict_truncates
    (hrun : run h box { req with strict := false } settings s = (.ok report, s')) :
    ∃ plan, Plan.ofRequest box req = .ok plan ∧
      (∀ r ∈ report.results, r.isVersionSkip = true ↔ ∃ t ∈ plan.schedule.ordered, ∃ x e y,
        s'.log = s.log ++ x ++ e :: y ∧ Stopped t settings.versionSeconds e r) ∧
      ((∀ r ∈ report.results, r.isVersionSkip = false) ∧
          run h box { req with strict := true } settings s = (.ok report, s') ∨
        ∃ (before : List Tool) (t : Tool) (after : List Tool) (earlier : List ToolResult) (r : ToolResult)
          (later : List ToolResult) (x : List Exchange) (e : Exchange) (y : List Exchange)
          (message : String) (s'' : Session σ),
          plan.schedule.ordered = before ++ t :: after ∧
          report.results = plan.unfit.map (Plan.unfitResult req.action) ++
            (earlier ++ r :: later) ++ plan.schedule.dropped.map Plan.droppedResult ∧
          earlier.map ToolResult.name = before.map Tool.name ∧
          (∀ q ∈ earlier, q.isVersionSkip = false) ∧
          Stopped t settings.versionSeconds e r ∧ r.output = some message ∧
          s'.log = s.log ++ x ++ e :: y ∧
          run h box { req with strict := true } settings s =
            (.error (.versionGate t.name message), s'') ∧
          s''.log = s.log ++ x ++ [e]) := by
  obtain ⟨plan, ran, hplan, hvalid, hran, rfl⟩ := run_eq_ok_iff.1 hrun
  refine ⟨plan, hplan, fun r hr => ⟨fun hskip => ?_, ?_⟩, ?_⟩
  · exact exists_stopped_of_mapM hran (mem_ran_of_isVersionSkip hr hskip) hskip
  · rintro ⟨t, -, x, e, y, -, hstopped⟩
    exact hstopped.isVersionSkip
  · rcases mapM_serve_truncates hran with ⟨hpass, hstrict⟩ | ⟨before, after, t, earlier, later, r, x, y,
      e, message, s'', hordered, rfl, hnames, hpass, hstopped, hmessage, hlog, hstrict, hlog'⟩
    · refine Or.inl ⟨fun r hr => ?_, run_eq_ok_iff.2 ⟨plan, ran, hplan, hvalid, hstrict, rfl⟩⟩
      by_contra hskip
      have hskip' : r.isVersionSkip = true := by simpa using hskip
      exact hskip (hpass r (mem_ran_of_isVersionSkip hr hskip'))
    · exact Or.inr ⟨before, t, after, earlier, r, later, x, e, y, message, s'', hordered, rfl, hnames,
        hpass, hstopped, hmessage, hlog,
        run_eq_error_iff.2 (Or.inr ⟨plan, hplan, Or.inr ⟨hvalid, hstrict⟩⟩), hlog'⟩

/-- A tool that fixes files and must not be older than a version. -/
def demanding (name : String) (priority : Int) (conflicts : List String) (rank : ℕ) : Tool :=
  ⟨{ name, canFix := true, priority, conflicts, versionCommand := [name, "--version"]
     minVersion := some "2.0" }, Schedule.idleAdapter, rank⟩

/-- A tool that is not asked, two that are, and one that gives way to the first of these. -/
def demandingBox : Toolbox :=
  ⟨[fixer "quick" 3 true [] 0, demanding "slow" 2 [] 1, demanding "slower" 1 [] 2,
    demanding "meek" 0 ["slow"] 3]⟩

theorem plan_demanding : Plan.ofRequest demandingBox { action := .fix, strict := false } =
    .ok ⟨[], ⟨[fixer "quick" 3 true [] 0, demanding "slow" 2 [] 1, demanding "slower" 1 [] 2],
      [⟨demanding "meek" 0 ["slow"] 3, demanding "slow" 2 [] 1⟩]⟩⟩ :=
  Plan.ofRequest_of_select ["quick", "slow", "slower", "meek"] demandingBox.tools rfl (List.cons_ne_nil _ _)
    rfl (.refl _) (by decide)

/-- The lenient run on a host where every command takes too long. -/
theorem run_demanding :
    run emptyHost demandingBox { action := .fix, strict := false } { fix := true } ⟨(), []⟩ =
      (.ok ⟨.fix, [.message "quick" (Preparation.noFilesMessage [] true),
          Version.skippedResult (demanding "slow" 2 [] 1).spec .timeout,
          Version.skippedResult (demanding "slower" 1 [] 2).spec .timeout,
          Plan.droppedResult ⟨demanding "meek" 0 ["slow"] 3, demanding "slow" 2 [] 1⟩]⟩,
        ⟨(), [⟨⟨["slow", "--version"], none, Version.defaultSeconds⟩, .timedOut⟩,
          ⟨⟨["slower", "--version"], none, Version.defaultSeconds⟩, .timedOut⟩]⟩) := by
  have hfiles : discover (.dir []) Path.root {} [] [] = .ok [] := Discovery.discover_nil rfl
  have hquick : serve emptyHost { fix := true } { action := .fix, strict := false }
      (fixer "quick" 3 true [] 0) ⟨(), []⟩ =
      (.ok (.message "quick" (Preparation.noFilesMessage [] true)), ⟨(), []⟩) := by
    rw [@serve_of_passes _ _ _ _ _ _ _ .empty _ rfl rfl hfiles]
    rfl
  have hasked : [demanding "slow" 2 [] 1, demanding "slower" 1 [] 2].mapM
      (serve emptyHost { fix := true } { action := .fix, strict := false }) ⟨(), []⟩ =
      (.ok [Version.skippedResult (demanding "slow" 2 [] 1).spec .timeout,
        Version.skippedResult (demanding "slower" 1 [] 2).spec .timeout],
        ⟨(), [⟨⟨["slow", "--version"], none, Version.defaultSeconds⟩, .timedOut⟩,
          ⟨⟨["slower", "--version"], none, Version.defaultSeconds⟩, .timedOut⟩]⟩) :=
    rfl
  exact run_eq_ok_iff.2 ⟨_, _, plan_demanding, rfl,
    mapM_cons_eq_ok_iff.2 ⟨_, _, _, hquick, hasked, rfl⟩, rfl⟩

/-- On a host where every command takes too long, the lenient run asks the two tools it can ask, and the
strict run ends with the first of them. Neither the tool without files nor the one that gives way ends
it. -/
theorem run_strict_truncates_slow :
    ∃ report s', run emptyHost demandingBox { action := .fix, strict := false } { fix := true } ⟨(), []⟩ =
        (.ok report, s') ∧
      report.results.map ToolResult.isVersionSkip = [false, true, true, false] ∧
      s'.calls.map Call.command = [["slow", "--version"], ["slower", "--version"]] ∧
      ∃ message s'', run emptyHost demandingBox { action := .fix, strict := true } { fix := true }
          ⟨(), []⟩ = (.error (.versionGate "slow" message), s'') ∧
        s''.log <+: s'.log ∧ s''.log.getLast?.map Exchange.call =
          some ⟨["slow", "--version"], none, Version.defaultSeconds⟩ := by
  refine ⟨_, _, run_demanding, rfl, rfl, ?_⟩
  obtain ⟨plan, hplan, -, hends⟩ :=
    @run_strict_truncates _ _ _ { action := .fix } _ _ _ _ run_demanding
  obtain rfl := Except.ok.inj (plan_demanding.symm.trans hplan)
  rcases hends with ⟨hnone, -⟩ | ⟨before, t, after, earlier, r, later, x, e, y, message, s'', hordered,
    hresults, hnames, hpass, hstopped, -, hlog, hstrict, hlog'⟩
  · -- the result of the second tool counts as stopped
    cases hnone _ (List.mem_cons_of_mem _ List.mem_cons_self)
  · -- the first result does not, so that one tool is served before the one that ends the run
    have hslow : t = demanding "slow" 2 [] 1 := by
      match earlier, hnames, hresults with
      | [], _, hresults =>
        obtain rfl := (List.cons.inj hresults).1
        cases hstopped.isVersionSkip
      | [_], hnames, _ =>
        have hlength : before.length = 1 := by simpa using (congrArg List.length hnames).symm
        obtain ⟨u, rfl⟩ := List.length_eq_one_iff.1 hlength
        exact (List.cons.inj (List.cons.inj hordered).2).1.symm
      | _ :: q :: _, _, hresults =>
        obtain rfl := (List.cons.inj (List.cons.inj hresults).2).1
        cases hpass _ (List.mem_cons_of_mem _ List.mem_cons_self)
    subst hslow
    refine ⟨message, s'', hstrict, ?_, ?_⟩
    · rw [hlog, hlog']
      exact ⟨y, by simp⟩
    · rw [hlog', List.getLast?_concat, Option.map_some, hstopped.call]
      rfl

end Multilint
