import Multilint.Proofs.Run.Units
import Multilint.Proofs.Text.Trim
/-!
# A check isolates its failures

Without mending, a tool is one call for each unit, whatever became of the units before it. The units whose
output was read contribute their findings, and each of the others one finding that stands for it. What a
unit contributes depends on the outcome of its own call and on nothing else.
-/

namespace Multilint

namespace Execution

variable {σ : Type} {t : Tool} {job : Job} {s : Session σ}

/-- The findings of a check that was read. -/
def foundBy : Except Finding (List Finding) → List Finding
  | .ok found => found
  | .error _ => []

/-- The finding that stands for a check that was not read. -/
def failureOf : Except Finding (List Finding) → Option Finding
  | .ok _ => none
  | .error f => some f

/-- **The findings of checks**: what they found, in order, and then what stands for those that failed. -/
def gathered (es : List (Except Finding (List Finding))) : List Finding :=
  es.flatMap foundBy ++ es.filterMap failureOf

/-- **A job is checked**: the session makes one call for each unit, in order, with the command that
checks, the directory and the time of the job, and these are their outcomes. -/
structure Checked (h : Host σ) (t : Tool) (job : Job) (s : Session σ) (os : List Outcome) : Prop where
  /-- Each unit has its outcome. -/
  length : os.length = (units t job).length
  /-- The calls are those of the units. -/
  log : (execute h t job s).2.log = s.log ++ List.zipWith (fun u o =>
    ⟨⟨t.adapter.checkCommand job.options ++ u.args, some job.dir, job.seconds⟩, o⟩) (units t job) os

/-! ## One unit -/

theorem fixFor_eq_none (h : job.fix = false ∨ t.adapter.fixCommand = none) : fixFor t job = none := by
  rw [fixFor]
  split
  · rename_i hfix
    exact h.resolve_left (by simp [hfix])
  · rfl

theorem emits_workOn_check (h : Host σ) (hcheck : fixFor t job = none) (u : WorkUnit) :
    Emits (workOn h t job u) fun x r =>
      ∃ o e, x = [exchangeOf job t.adapter.checkCommand u o] ∧ CheckEnds t job u o e ∧
        r = reportCheck e := by
  rw [workOn, hcheck]
  refine (emits_checkUnit h t job u).bind ?_
  rintro x e ⟨o, rfl, he⟩
  exact .pure ⟨o, e, List.append_nil _, he, rfl⟩

/-! ## All units -/

/-- A run of checks, unit by unit, is known by the outcomes and the endings. -/
theorem exists_of_inOrder {us : List WorkUnit} {x : List Exchange} {rs : List UnitReport}
    (h : Sequence.InOrder (fun u x r => ∃ o e, x = [exchangeOf job t.adapter.checkCommand u o] ∧
      CheckEnds t job u o e ∧ r = reportCheck e) us x rs) :
    ∃ os es, os.length = us.length ∧
      x = List.zipWith (exchangeOf job t.adapter.checkCommand) us os ∧
      List.Forall₂ (fun p e => CheckEnds t job p.1 p.2 e) (us.zip os) es ∧
      rs = es.map reportCheck := by
  induction h with
  | nil => exact ⟨[], [], rfl, rfl, .nil, rfl⟩
  | cons hstep _ ih =>
    obtain ⟨o, e, rfl, he, rfl⟩ := hstep
    obtain ⟨os, es, hlen, rfl, hes, rfl⟩ := ih
    exact ⟨o :: os, e :: es, by simp [hlen], rfl, .cons he hes, rfl⟩

/-- **The findings of reports** that say of each check what it found, or what stands for it. -/
theorem findings_summarize_map {report : Except Finding (List Finding) → UnitReport}
    (hfound : ∀ e, (report e).findings = foundBy e) (hfailure : ∀ e, (report e).failure = failureOf e)
    (es : List (Except Finding (List Finding))) :
    (summarize t job (es.map report)).findings = gathered es := by
  simp only [summarize, gathered, List.flatMap_map, List.filterMap_map, Function.comp_def, hfound,
    hfailure]

theorem findings_summarize_check (es : List (Except Finding (List Finding))) :
    (summarize t job (es.map reportCheck)).findings = gathered es := by
  refine findings_summarize_map (fun e => ?_) (fun e => ?_) es
  · cases e <;> rfl
  · cases e <;> rfl

theorem isSome_meaningful?_iff {text : String} :
    (ToolResult.meaningful? text).isSome = true ↔ Text.trimmed text ≠ "" := by
  rw [ToolResult.meaningful?]
  split <;> simp_all

/-- The lines about failures say something exactly if there are failures. -/
theorem isSome_failureLines_iff {failures : List Finding} {seconds : Nat} :
    (ToolResult.meaningful? ("\n".intercalate (failureLines failures seconds))).isSome = true ↔
      failures ≠ [] := by
  rw [isSome_meaningful?_iff]
  cases failures with
  | nil =>
    have hblank : Text.trimmed ("\n".intercalate []) = "" := by decide
    exact iff_of_false (not_not.2 hblank) (not_not.2 rfl)
  | cons f fs =>
    refine iff_of_true ?_ (List.cons_ne_nil f fs)
    have hskipped : 'S' ∈ ("Skipped/failed " ++ toString (f :: fs).length ++
        " file(s) due to execution failures (including timeouts) (timeout: " ++
        toString seconds ++ "s):").toList := by
      simp only [String.toList_append, List.append_assoc]
      exact List.mem_append_left _ (by decide)
    exact Text.trimmed_ne_empty (Text.mem_intercalate_cons hskipped) (by decide)

/-- There is something to say besides the findings exactly if some check failed. -/
theorem output_summarize_iff (hcheck : fixFor t job = none)
    (es : List (Except Finding (List Finding))) :
    (summarize t job (es.map reportCheck)).output.isSome = true ↔ ∃ f, .error f ∈ es := by
  simp only [summarize, hcheck, Option.isSome_none, Bool.false_eq_true, if_false, List.nil_append,
    isSome_failureLines_iff, List.filterMap_map]
  simp only [ne_eq, List.eq_nil_iff_forall_not_mem, not_forall, not_not, List.mem_filterMap,
    Function.comp_apply]
  constructor
  · rintro ⟨f, e, he, hf⟩
    cases e with
    | ok found => cases hf
    | error g => exact ⟨g, he⟩
  · rintro ⟨f, hf⟩
    exact ⟨f, .error f, hf, rfl⟩

/-- A job of which nothing is mended is checked, and each check ends in one of the five ways. -/
theorem exists_checked (h : Host σ) (t : Tool) (job : Job) (s : Session σ)
    (hcheck : fixFor t job = none) :
    ∃ os es, Checked h t job s os ∧
      List.Forall₂ (fun p e => CheckEnds t job p.1 p.2 e) ((units t job).zip os) es ∧
      (execute h t job s).1 = summarize t job (es.map reportCheck) := by
  obtain ⟨x, rs, hlog, hresult, hruns⟩ := execute_inOrder (emits_workOn_check h hcheck) s
  obtain ⟨os, es, hlen, rfl, hes, rfl⟩ := exists_of_inOrder hruns
  exact ⟨os, es, ⟨hlen, hlog⟩, hes, hresult⟩

theorem map_outcome_zipWith {c : WorkUnit → Call} {us : List WorkUnit} {os : List Outcome}
    (hlen : os.length = us.length) :
    (List.zipWith (fun u o => (⟨c u, o⟩ : Exchange)) us os).map Exchange.outcome = os := by
  induction us generalizing os with
  | nil => exact (List.length_eq_zero_iff.1 hlen).symm
  | cons u us ih =>
    match os, hlen with
    | o :: os, hlen => rw [List.zipWith_cons_cons, List.map_cons, ih (by simpa using hlen)]

/-- The outcomes of a checked job are those in the log. -/
theorem Checked.unique {h : Host σ} {os os' : List Outcome} (hos : Checked h t job s os)
    (hos' : Checked h t job s os') : os = os' := by
  have hlog := hos.log.symm.trans hos'.log
  rw [List.append_cancel_left_eq] at hlog
  rw [← map_outcome_zipWith hos.length, hlog, map_outcome_zipWith hos'.length]

/-! ## The whole check -/

/-- **A check isolates its failures.** Where nothing is to be mended, the session makes one call for each
unit, in order, whatever the host answers; each call ends in one of five ways, a failure carrying the
label of its unit; the result has the findings of the units that were read and one for each of the
others; all is well exactly if there are none, and there is output exactly if a unit failed. Another
session, with any host, that has another outcome for one unit has the same findings but for what that
unit contributes. -/
theorem execute_isolates (h : Host σ) (t : Tool) (job : Job) (s : Session σ)
    (hcheck : job.fix = false ∨ t.adapter.fixCommand = none) :
    ∃ os es, Checked h t job s os ∧
      List.Forall₂ (fun p e => CheckEnds t job p.1 p.2 e ∧ ∀ f, e = .error f → f.file = p.1.label ∧
        (f.code = Finding.timeoutCode ∨ f.code = Finding.runCode ∨ f.code = Finding.outputCode))
        ((units t job).zip os) es ∧
      (execute h t job s).1.findings = gathered es ∧
      ((execute h t job s).1.success = true ↔ (execute h t job s).1.findings = []) ∧
      ((execute h t job s).1.output.isSome = true ↔ ∃ f, .error f ∈ es) ∧
      ∀ {σ' : Type} (h' : Host σ') (s' : Session σ') (i : ℕ) (u : WorkUnit) (o' : Outcome),
        (units t job)[i]? = some u → Checked h' t job s' (os.set i o') →
        ∃ e', CheckEnds t job u o' e' ∧ (execute h' t job s').1.findings = gathered (es.set i e') := by
  have hnone := fixFor_eq_none hcheck
  obtain ⟨os, es, hos, hes, hresult⟩ := exists_checked h t job s hnone
  refine ⟨os, es, hos, ?_, ?_, ?_, ?_, ?_⟩
  · refine hes.imp fun p e he => ⟨he, ?_⟩
    rintro f rfl
    exact he.label
  · rw [hresult, findings_summarize_check]
  · rw [hresult, success_summarize_iff]
  · rw [hresult, output_summarize_iff hnone]
  · intro σ' h' s' i u o' hu hos'
    obtain ⟨os'', es', hos'', hes', hresult'⟩ := exists_checked h' t job s' hnone
    obtain rfl := hos''.unique hos'
    obtain ⟨e', he', rfl⟩ := Sequence.eq_set_of_forall₂_zip (R := CheckEnds t job)
      (fun _ _ _ _ he he' => CheckEnds.unique he he') hos.length hu hes hes'
    exact ⟨e', he', by rw [hresult', findings_summarize_check]⟩

/-- A tool that finds nothing in what it reads. -/
def quietTool : Tool where
  spec := { name := "quiet" }
  adapter :=
    { read := fun _ => .ok []
      columns := []
      checkCommand := fun _ => ["quiet"]
      fixCommand := none }
  rank := 0

/-- A job on two files. -/
def pairJob : Job where
  dir := Path.root
  files := [.ofNames ["a"], .ofNames ["b"]]
  names := ["a", "b"]
  seconds := 5
  options := .empty
  fix := false

/-- A host whose first call takes too long, and no later one. -/
def slowStart : Host ℕ where
  call := fun _ n => (if n = 0 then .timedOut else .completed true "", n + 1)
  tree := fun _ => .dir []
  dir := Path.root

/-- The first of two files takes too long and the second one is checked all the same. -/
theorem execute_isolates_pair :
    (pairJob.fix = false ∨ quietTool.adapter.fixCommand = none) ∧
      ∃ os es, Checked slowStart quietTool pairJob ⟨0, []⟩ os ∧
        (execute slowStart quietTool pairJob ⟨0, []⟩).1.findings = gathered es ∧
        gathered es = [.timedOut "a" 5] ∧ os = [.timedOut, .completed true ""] := by
  obtain ⟨os, es, hos, -, hfindings, -⟩ :=
    execute_isolates slowStart quietTool pairJob ⟨0, []⟩ (Or.inl rfl)
  refine ⟨Or.inl rfl, os, es, hos, hfindings, ?_, ?_⟩
  · rw [← hfindings]
    decide
  · have hlog := hos.log
    rw [← map_outcome_zipWith hos.length, ← List.nil_append (List.zipWith _ _ os)]
    exact congrArg (List.map Exchange.outcome) hlog.symm

end Execution

end Multilint
