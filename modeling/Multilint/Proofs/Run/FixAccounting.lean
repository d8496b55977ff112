import Multilint.Proofs.Run.Units
import Mathlib.Algebra.Ring.Nat
/-!
# The accounts of a fix are closed

However a unit is mended, its report counts what it keeps: what there was is what went away and what
stayed, and what stayed is its findings (`FixEnds.closed`). Sums keep both equations, so they hold of the
result of a tool, where one more finding stands for each unit that failed.
-/

namespace Multilint

namespace FixCounts

/-- **Counts are summed field by field.** -/
theorem foldl_add (c : FixCounts) (cs : List FixCounts) :
    cs.foldl add c = ⟨c.initial + (cs.map initial).sum, c.fixed + (cs.map fixed).sum,
      c.remaining + (cs.map remaining).sum⟩ := by
  induction cs generalizing c with
  | nil => rfl
  | cons d cs ih =>
    rw [List.foldl_cons, ih]
    simp only [add, List.map_cons, List.sum_cons, Nat.add_assoc]

theorem sum_eq (cs : List FixCounts) :
    sum cs = ⟨(cs.map initial).sum, (cs.map fixed).sum, (cs.map remaining).sum⟩ := by
  rw [sum, foldl_add]
  simp

end FixCounts

namespace Execution

variable {σ : Type} {t : Tool} {job : Job} {u : WorkUnit} {fix : Options → List String}
variable {r : UnitReport} {rs : List UnitReport} {x : List Exchange}

/-- **A report is closed**: its counts add up, and those left are the findings it keeps. -/
structure Closed (r : UnitReport) : Prop where
  /-- What there was went away or stayed. -/
  initial : r.counts.initial = r.counts.fixed + r.counts.remaining
  /-- What stayed is kept. -/
  remaining : r.counts.remaining = r.findings.length

/-- **Mending a unit leaves a closed report**, whichever way it ends. -/
theorem FixEnds.closed (h : FixEnds t fix job u x r) : Closed r := by
  cases h with
  | clean _ => exact ⟨rfl, rfl⟩
  | unchecked _ => exact ⟨rfl, rfl⟩
  | unmended _ _ _ => exact ⟨(Nat.zero_add _).symm, rfl⟩
  | unconfirmed _ _ _ => exact ⟨(Nat.zero_add _).symm, rfl⟩
  | fewer _ _ _ hle => exact ⟨(Nat.sub_add_cancel hle).symm, rfl⟩
  | more _ _ _ _ => exact ⟨(Nat.zero_add _).symm, rfl⟩

/-- **Every unit of a run is closed.** -/
theorem closed_of_inOrder {us : List WorkUnit}
    (h : Sequence.InOrder (FixEnds t fix job) us x rs) : ∀ r ∈ rs, Closed r := by
  induction h with
  | nil => exact fun r hr => absurd hr (by simp)
  | cons hstep _ ih =>
    intro r hr
    rcases List.mem_cons.1 hr with rfl | hr
    · exact hstep.closed
    · exact ih r hr

/-! ## Sums over the units -/

theorem sum_initial (h : ∀ r ∈ rs, Closed r) :
    (rs.map fun r => r.counts.initial).sum =
      (rs.map fun r => r.counts.fixed).sum + (rs.map fun r => r.counts.remaining).sum := by
  induction rs with
  | nil => rfl
  | cons r rs ih =>
    have hr := (h r (by simp)).initial
    have hrs := ih fun q hq => h q (by simp [hq])
    simp only [List.map_cons, List.sum_cons]
    omega

theorem sum_remaining (h : ∀ r ∈ rs, Closed r) :
    (rs.map fun r => r.counts.remaining).sum = (rs.flatMap UnitReport.findings).length := by
  rw [List.length_flatMap]
  exact congrArg List.sum (List.map_congr_left fun r hr => (h r hr).remaining)

/-- The counts of a fix are the sums over its units. -/
theorem counts_summarize (hfix : fixFor t job = some fix) :
    (summarize t job rs).counts = some ⟨(rs.map fun r => r.counts.initial).sum,
      (rs.map fun r => r.counts.fixed).sum, (rs.map fun r => r.counts.remaining).sum⟩ := by
  simp [summarize, hfix, FixCounts.sum_eq, Function.comp_def]

/-- Each unit that failed adds one finding to those left. -/
theorem count_summarize (h : ∀ r ∈ rs, Closed r) :
    (summarize t job rs).findings.length =
      (rs.map fun r => r.counts.remaining).sum + rs.countP fun r => r.failure.isSome := by
  rw [sum_remaining h, ← List.length_filterMap_eq_countP, ← List.length_append]
  rfl

theorem fixFor_eq_some (hfix : t.adapter.fixCommand = some fix) (hjob : job.fix = true) :
    fixFor t job = some fix := by
  rw [fixFor, if_pos hjob, hfix]

theorem emits_workOn_fix (h : Host σ) (hfix : fixFor t job = some fix) (u : WorkUnit) :
    Emits (workOn h t job u) (FixEnds t fix job u) := by
  rw [workOn, hfix]
  exact emits_fixUnit h t fix job u

/-- **The accounts of a fix are closed.** Whatever the host answers, each unit ends in one of the six
ways and its exchanges stand in the log in order; the result has all three counts, the sums over the
units; what there was is what went away and what stayed; the findings are those left, unit by unit, and
then one for each unit that failed, and they are counted so; all is well exactly if nothing is left and
no unit failed. -/
theorem fix_accounts_closed (h : Host σ) (t : Tool) (job : Job) (s : Session σ)
    {fix : Options → List String} (hfix : t.adapter.fixCommand = some fix)
    (hjob : job.fix = true) :
    ∃ x rs c, (execute h t job s).2.log = s.log ++ x ∧
      Sequence.InOrder (FixEnds t fix job) (units t job) x rs ∧
      (execute h t job s).1.counts = some c ∧
      c = ⟨(rs.map fun r => r.counts.initial).sum, (rs.map fun r => r.counts.fixed).sum,
        (rs.map fun r => r.counts.remaining).sum⟩ ∧
      c.initial = c.fixed + c.remaining ∧
      (execute h t job s).1.count = (execute h t job s).1.findings.length ∧
      (execute h t job s).1.count = c.remaining + (rs.countP fun r => r.failure.isSome) ∧
      (execute h t job s).1.findings =
        rs.flatMap UnitReport.findings ++ rs.filterMap UnitReport.failure ∧
      ((execute h t job s).1.success = true ↔ c.remaining = 0 ∧ ∀ r ∈ rs, r.failure = none) := by
  have hfor := fixFor_eq_some hfix hjob
  obtain ⟨x, rs, hlog, hresult, hruns⟩ := execute_inOrder (emits_workOn_fix h hfor) s
  have hclosed := closed_of_inOrder hruns
  have hcount : (summarize t job rs).findings.length = (rs.map fun r => r.counts.remaining).sum +
      rs.countP fun r => r.failure.isSome := count_summarize hclosed
  refine ⟨x, rs, _, hlog, hruns, by rw [hresult, counts_summarize hfor], rfl, sum_initial hclosed,
    rfl, by rw [ToolResult.count, hresult, hcount], by rw [hresult]; rfl, ?_⟩
  rw [hresult, success_summarize_iff, ← List.length_eq_zero_iff, hcount, Nat.add_eq_zero_iff,
    List.countP_eq_zero]
  simp

/-- A tool whose output says whether there is a finding, and which can mend it. -/
def mendingTool : Tool where
  spec := { name := "mend" }
  adapter :=
    { read := fun output => .ok (if output = "" then [] else [{ file := "a", message := output }])
      columns := []
      checkCommand := fun _ => ["mend", "--check"]
      fixCommand := some fun _ => ["mend"] }
  rank := 0

/-- A job that mends two files. -/
def mendingJob : Job where
  dir := Path.root
  files := [.ofNames ["a"], .ofNames ["b"]]
  names := ["a", "b"]
  seconds := 5
  options := .empty
  fix := true

/-- A host where the first check finds something and the fourth call takes too long. -/
def mendingHost : Host ℕ where
  call := fun _ n =>
    (if n = 0 then .completed false "blank" else if n = 3 then .timedOut else .completed true "", n + 1)
  tree := fun _ => .dir []
  dir := Path.root

/-- The finding of the first file goes away and the check of the second one fails. -/
theorem fix_accounts_closed_pair :
    mendingTool.adapter.fixCommand = some (fun _ => ["mend"]) ∧ mendingJob.fix = true ∧
      ∃ c, (execute mendingHost mendingTool mendingJob ⟨0, []⟩).1.counts = some c ∧
        c.initial = c.fixed + c.remaining ∧ c = ⟨1, 1, 0⟩ ∧
        (execute mendingHost mendingTool mendingJob ⟨0, []⟩).1.findings = [.timedOut "b" 5] := by
  obtain ⟨x, rs, c, -, -, hcounts, -, hinitial, -⟩ :=
    fix_accounts_closed mendingHost mendingTool mendingJob ⟨0, []⟩ rfl rfl
  refine ⟨rfl, rfl, c, hcounts, hinitial, ?_, by decide⟩
  have hsome : (execute mendingHost mendingTool mendingJob ⟨0, []⟩).1.counts = some ⟨1, 1, 0⟩ := by
    decide
  exact Option.some.inj (hcounts.symm.trans hsome)

end Execution

end Multilint
