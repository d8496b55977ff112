import Multilint.Proofs.Run.Answers
import Multilint.Proofs.Run.FixAccounting
import Multilint.Proofs.Run.Isolation
/-!
# A fix without effect

Where the outcome of a call depends on the call alone, the second check of a unit finds what the first one
found. Of the six ways in which a unit may be mended only three are left then, and in each of them the unit
keeps the findings of its check and counts all of them as remaining (`FixEnds.ineffective`). So a fixing run
reports what a checking run reports, and that it fixed nothing (`fix_agrees_with_check`).
-/

namespace Multilint

variable {σ α : Type}

/-- **A host answers by a function of the call**, whatever happened before. -/
def Host.AnswersBy (h : Host σ) (answer : Call → Outcome) : Prop :=
  ∀ c w, (h.call c w).1 = answer c

/-- The outcomes along a path are those of the function. -/
theorem Host.Answers.outcome_eq {h : Host σ} {answer : Call → Outcome} {w w' : σ} {x : List Exchange}
    (hx : h.Answers w x w') (hanswer : h.AnswersBy answer) :
    ∀ c o, ⟨c, o⟩ ∈ x → o = answer c := by
  induction hx with
  | nil => simp
  | cons _ ih =>
    intro c o hmem
    rcases List.mem_cons.1 hmem with heq | hmem
    · obtain ⟨rfl, rfl⟩ := Exchange.mk.inj heq
      exact hanswer c _
    · exact ih c o hmem

/-- **What a dialogue adds to the log** has the outcomes of the function. -/
theorem Emits.answered {h : Host σ} {answer : Call → Outcome} {P : Call → Prop} {m : Calling σ α}
    {Q : List Exchange → α → Prop} (hm : Emits m Q) (hdialogue : Dialogue h P m)
    (hanswer : h.AnswersBy answer) :
    Emits m fun x a => Q x a ∧ ∀ c o, ⟨c, o⟩ ∈ x → o = answer c := by
  intro s
  obtain ⟨x, hlog, hx⟩ := hm s
  obtain ⟨y, hlog', hy⟩ := hdialogue.answers s
  obtain rfl : x = y := List.append_cancel_left (hlog.symm.trans hlog')
  exact ⟨x, hlog, hx, hy.outcome_eq hanswer⟩

namespace Execution

variable {h : Host σ} {t : Tool} {job : Job} {u : WorkUnit} {us : List WorkUnit}
  {fix : Options → List String} {answer : Call → Outcome} {r : UnitReport} {x : List Exchange}
  {o : Outcome} {e : Except Finding (List Finding)} {es : List (Except Finding (List Finding))}

/-! ## One unit -/

/-- The report of a unit that is mended without effect. -/
def reportIdle (e : Except Finding (List Finding)) : UnitReport :=
  ⟨foundBy e, .unresolved (foundBy e).length, failureOf e⟩

/-- How the check of a unit ends where the host answers by a function. -/
def EndsBy (answer : Call → Outcome) (t : Tool) (job : Job) (u : WorkUnit)
    (e : Except Finding (List Finding)) : Prop :=
  CheckEnds t job u
    (answer ⟨t.adapter.checkCommand job.options ++ u.args, some job.dir, job.seconds⟩) e

/-- How a check ends does not depend on whether the job is to be mended. -/
theorem CheckEnds.of_fix {mend : Bool} (h : CheckEnds t { job with fix := mend } u o e) :
    CheckEnds t job u o e := by
  cases h with
  | parsed hread hok => exact .parsed hread hok
  | silent hread => exact .silent hread
  | unreadable hread => exact .unreadable hread
  | timedOut => exact .timedOut
  | failed => exact .failed

/-- **A unit that is mended without effect** keeps the findings of its check, all of them as remaining: the
command that mends has ended, and the second check ends like the first one. -/
theorem FixEnds.ineffective (h : FixEnds t fix job u x r)
    (hx : ∀ c o, ⟨c, o⟩ ∈ x → o = answer c)
    (hcompletes : ∃ success output,
      answer ⟨fix job.options ++ u.args, some job.dir, job.seconds⟩ = .completed success output) :
    ∃ e, EndsBy answer t job u e ∧ r = reportIdle e := by
  cases h with
  | clean hcheck =>
    obtain rfl := hx _ _ List.mem_cons_self
    exact ⟨.ok [], hcheck, rfl⟩
  | unchecked hcheck =>
    obtain rfl := hx _ _ List.mem_cons_self
    exact ⟨_, hcheck, rfl⟩
  | unmended _ _ hfails =>
    obtain ⟨success, output, hended⟩ := hcompletes
    obtain rfl := (hx _ _ (List.mem_cons_of_mem _ List.mem_cons_self)).trans hended
    cases hfails
  | unconfirmed hcheck _ hrecheck =>
    obtain rfl := hx _ _ List.mem_cons_self
    obtain rfl := hx _ _ (List.mem_cons_of_mem _ (List.mem_cons_of_mem _ List.mem_cons_self))
    cases hcheck.unique hrecheck
  | fewer hcheck _ hrecheck _ =>
    obtain rfl := hx _ _ List.mem_cons_self
    obtain rfl := hx _ _ (List.mem_cons_of_mem _ (List.mem_cons_of_mem _ List.mem_cons_self))
    obtain rfl := Except.ok.inj (hcheck.unique hrecheck)
    exact ⟨_, hcheck, by rw [Nat.sub_self]; rfl⟩
  | more hcheck _ hrecheck hlt =>
    obtain rfl := hx _ _ List.mem_cons_self
    obtain rfl := hx _ _ (List.mem_cons_of_mem _ (List.mem_cons_of_mem _ List.mem_cons_self))
    obtain rfl := Except.ok.inj (hcheck.unique hrecheck)
    exact absurd hlt (Nat.lt_irrefl _)

/-! ## The whole job -/

/-- **Every unit is mended without effect**: the units end as in their checks. -/
theorem exists_idle (hanswer : h.AnswersBy answer) (hfix : t.adapter.fixCommand = some fix)
    (hcompletes : ∀ u ∈ units t job, ∃ success output,
      answer ⟨fix job.options ++ u.args, some job.dir, job.seconds⟩ = .completed success output)
    (s : Session σ) :
    ∃ es, List.Forall₂ (EndsBy answer t job) (units t job) es ∧
      (execute h t { job with fix := true } s).1 =
        summarize t { job with fix := true } (es.map reportIdle) := by
  have hfor : fixFor t { job with fix := true } = some fix := fixFor_eq_some hfix rfl
  obtain ⟨x, rs, -, hresult, hruns⟩ := execute_inOrder (fun u =>
    (emits_workOn_fix h hfor u).answered (dialogue_workOn h t _ u) hanswer) s
  have hunits : List.Forall₂ (fun u r => ∃ e, EndsBy answer t job u e ∧ r = reportIdle e)
      (units t job) rs := by
    refine ((List.forall₂_and_left _ _).2 ⟨hcompletes, hruns.forall₂⟩).imp ?_
    rintro u r ⟨hended, y, hends, hy⟩
    obtain ⟨e, he, hr⟩ := hends.ineffective hy hended
    exact ⟨e, he.of_fix, hr⟩
  obtain ⟨es, hes, rfl⟩ := Sequence.exists_map_of_forall₂ hunits
  exact ⟨es, hes, hresult⟩

/-- Every unit is checked, and ends as the host answers. -/
theorem exists_checkedBy (t : Tool) (job : Job) (hanswer : h.AnswersBy answer) (s : Session σ) :
    ∃ es, List.Forall₂ (EndsBy answer t job) (units t job) es ∧
      (execute h t { job with fix := false } s).1 =
        summarize t { job with fix := false } (es.map reportCheck) := by
  have hnone : fixFor t { job with fix := false } = none := rfl
  obtain ⟨x, rs, -, hresult, hruns⟩ := execute_inOrder (fun u =>
    (emits_workOn_check h hnone u).answered (dialogue_workOn h t _ u) hanswer) s
  have hunits : List.Forall₂ (fun u r => ∃ e, EndsBy answer t job u e ∧ r = reportCheck e)
      (units t job) rs := by
    refine hruns.forall₂.imp ?_
    rintro u r ⟨y, ⟨o, e, rfl, he, hr⟩, hy⟩
    obtain rfl := hy _ _ List.mem_cons_self
    exact ⟨e, he.of_fix, hr⟩
  obtain ⟨es, hes, rfl⟩ := Sequence.exists_map_of_forall₂ hunits
  exact ⟨es, hes, hresult⟩

theorem endsBy_rightUnique : Relator.RightUnique (EndsBy answer t job) :=
  fun _ _ _ he he' => he.unique he'

/-- A fix without effect counts what was found as remaining, and nothing as fixed. -/
theorem counts_summarize_idle (hfor : fixFor t job = some fix)
    (es : List (Except Finding (List Finding))) :
    (summarize t job (es.map reportIdle)).counts =
      some ⟨(es.flatMap foundBy).length, 0, (es.flatMap foundBy).length⟩ := by
  rw [counts_summarize hfor, List.length_flatMap]
  simp [reportIdle, FixCounts.unresolved, Function.comp_def]

/-- **A fix without effect agrees with a check.** Where the host answers by a function of the call and every
command that mends ends, whatever its status, a fixing run and a checking run of a job, in whatever
sessions, have the same findings, as many of them and the same verdict. The fixing run counts nothing as
fixed, and as found and as remaining the findings of the checks that were read, that is all findings of the
checking run but those that stand for a unit that failed. -/
theorem fix_agrees_with_check (h : Host σ) (t : Tool) (job : Job) (s s' : Session σ)
    (hanswer : h.AnswersBy answer) (hfix : t.adapter.fixCommand = some fix)
    (hcompletes : ∀ u ∈ units t job, ∃ success output,
      answer ⟨fix job.options ++ u.args, some job.dir, job.seconds⟩ = .completed success output) :
    ∃ es, List.Forall₂ (EndsBy answer t job) (units t job) es ∧
      (execute h t { job with fix := false } s).1.findings =
        es.flatMap foundBy ++ es.filterMap failureOf ∧
      (execute h t { job with fix := true } s').1.findings =
        (execute h t { job with fix := false } s).1.findings ∧
      (execute h t { job with fix := true } s').1.count =
        (execute h t { job with fix := false } s).1.count ∧
      (execute h t { job with fix := true } s').1.success =
        (execute h t { job with fix := false } s).1.success ∧
      (execute h t { job with fix := true } s').1.counts =
        some ⟨(es.flatMap foundBy).length, 0, (es.flatMap foundBy).length⟩ := by
  obtain ⟨es, hes, hchecked⟩ := exists_checkedBy t job hanswer s
  obtain ⟨es', hes', hmended⟩ := exists_idle hanswer hfix hcompletes s'
  obtain rfl : es' = es := List.right_unique_forall₂' endsBy_rightUnique hes' hes
  have hfindings : (execute h t { job with fix := true } s').1.findings =
      (execute h t { job with fix := false } s).1.findings := by
    rw [hchecked, hmended, findings_summarize_check,
      findings_summarize_map (fun _ => rfl) fun _ => rfl]
  refine ⟨es', hes, ?_, hfindings, congrArg List.length hfindings, ?_, ?_⟩
  · rw [hchecked, findings_summarize_check]
    rfl
  · -- all is well exactly if there is no finding, so the verdicts agree with the findings
    rw [hchecked, hmended] at hfindings ⊢
    exact congrArg List.isEmpty hfindings
  · rw [hmended, counts_summarize_idle (fixFor_eq_some hfix rfl)]

/-- One file always has a finding, the check of the other one takes too long, and mending fails. -/
def idleAnswer (c : Call) : Outcome :=
  if c.command = ["mend", "--check", "/a"] then .completed false "blank"
  else if c.command = ["mend", "--check", "/b"] then .timedOut
  else .completed false ""

/-- A host that answers so. -/
def idleHost : Host Unit where
  call := fun c w => (idleAnswer c, w)
  tree := fun _ => .dir []
  dir := Path.root

/-- Of two files one keeps its finding and the other one is not checked, with and without mending. -/
theorem fix_agrees_with_check_pair :
    idleHost.AnswersBy idleAnswer ∧ mendingTool.adapter.fixCommand = some (fun _ => ["mend"]) ∧
      (∀ u ∈ units mendingTool mendingJob, ∃ success output,
        idleAnswer ⟨["mend"] ++ u.args, some mendingJob.dir, mendingJob.seconds⟩ =
          .completed success output) ∧
      (execute idleHost mendingTool { mendingJob with fix := true } ⟨(), []⟩).1.findings =
        (execute idleHost mendingTool { mendingJob with fix := false } ⟨(), []⟩).1.findings ∧
      (execute idleHost mendingTool { mendingJob with fix := true } ⟨(), []⟩).1.findings =
        [{ file := "a", message := "blank" }, .timedOut "b" 5] ∧
      (execute idleHost mendingTool { mendingJob with fix := true } ⟨(), []⟩).1.counts =
        some ⟨1, 0, 1⟩ := by
  have hanswer : idleHost.AnswersBy idleAnswer := fun _ _ => rfl
  have hcompletes : ∀ u ∈ units mendingTool mendingJob, ∃ success output,
      idleAnswer ⟨["mend"] ++ u.args, some mendingJob.dir, mendingJob.seconds⟩ =
        .completed success output := by
    have hunits : units mendingTool mendingJob = [⟨"a", ["/a"]⟩, ⟨"b", ["/b"]⟩] := by decide
    rw [hunits, List.forall_mem_cons, List.forall_mem_singleton]
    exact ⟨⟨false, "", by decide⟩, ⟨false, "", by decide⟩⟩
  obtain ⟨es, -, -, hsame, -⟩ := fix_agrees_with_check idleHost mendingTool mendingJob ⟨(), []⟩
    ⟨(), []⟩ hanswer rfl hcompletes
  exact ⟨hanswer, rfl, hcompletes, hsame, by decide, by decide⟩

end Execution

end Multilint
