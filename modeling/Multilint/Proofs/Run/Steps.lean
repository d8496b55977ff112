import Multilint.Proofs.Run.Units
/-!
# The steps of a run

A step is a call with its outcome, the tool it is made for and what it is for. The log of a session shows
the exchanges only; the steps behind them are read off the way the tool is served. `UnitSteps` lists the
sequences of steps that working on a unit takes: a check; a check and a mend; or a check, a mend and a
second check. Of a step that gives nothing to go by (`Step.Wasted`), the report of its unit has a finding
(`emits_workOn`).
-/

namespace Multilint

/-- A check finds something: it ended, and its output was read as one finding or more. -/
def Tool.Finds (t : Tool) (o : Outcome) : Prop :=
  ∃ success output found, o = .completed success output ∧ t.adapter.read output = .ok found ∧
    found ≠ []

namespace Execution

/-- What a call is made for. -/
inductive Purpose where
  /-- Asking the tool for its version. -/
  | version
  /-- Checking a unit. -/
  | check (u : WorkUnit)
  /-- Mending a unit. -/
  | mend (u : WorkUnit)

/-- A call with its outcome, and what it was made for. -/
structure Step extends Exchange where
  /-- The tool. -/
  tool : Tool
  /-- What the call is for. -/
  purpose : Purpose

namespace Step

/-- The step that asks a tool for its version, which is not bound to a directory. -/
def version (t : Tool) (seconds : Nat) (o : Outcome) : Step :=
  ⟨⟨⟨t.spec.versionCommand, none, seconds⟩, o⟩, t, .version⟩

/-- The step that checks a unit, in the directory of the job and within its seconds. -/
def check (t : Tool) (job : Job) (u : WorkUnit) (o : Outcome) : Step :=
  ⟨⟨⟨t.adapter.checkCommand job.options ++ u.args, some job.dir, job.seconds⟩, o⟩, t, .check u⟩

/-- The step that mends a unit, there and within them too. -/
def mend (t : Tool) (fix : Options → List String) (job : Job) (u : WorkUnit) (o : Outcome) : Step :=
  ⟨⟨⟨fix job.options ++ u.args, some job.dir, job.seconds⟩, o⟩, t, .mend u⟩

/-- **A step for a unit gives nothing to go by**: its command did not end, or it is a check whose output
is refused, or one that failed without a finding. -/
inductive Wasted : Step → WorkUnit → Prop
  /-- A check took too long. -/
  | check_timedOut {t : Tool} {u : WorkUnit} {c : Call} : Wasted ⟨⟨c, .timedOut⟩, t, .check u⟩ u
  /-- A check was not started. -/
  | check_failed {t : Tool} {u : WorkUnit} {c : Call} {f : StartFailure} :
      Wasted ⟨⟨c, .failed f⟩, t, .check u⟩ u
  /-- A check printed something that is refused. -/
  | unreadable {t : Tool} {u : WorkUnit} {c : Call} {success : Bool} {output : String}
      {fault : OutputFault} : t.adapter.read output = .error fault →
      Wasted ⟨⟨c, .completed success output⟩, t, .check u⟩ u
  /-- A check failed and found nothing. -/
  | silent {t : Tool} {u : WorkUnit} {c : Call} {output : String} : t.adapter.read output = .ok [] →
      Wasted ⟨⟨c, .completed false output⟩, t, .check u⟩ u
  /-- A mend took too long. -/
  | mend_timedOut {t : Tool} {u : WorkUnit} {c : Call} : Wasted ⟨⟨c, .timedOut⟩, t, .mend u⟩ u
  /-- A mend was not started. -/
  | mend_failed {t : Tool} {u : WorkUnit} {c : Call} {f : StartFailure} :
      Wasted ⟨⟨c, .failed f⟩, t, .mend u⟩ u

/-- Asking for a version is for no unit. -/
theorem Wasted.purpose_ne {st : Step} {u : WorkUnit} (h : st.Wasted u) : st.purpose ≠ .version := by
  cases h <;> exact Purpose.noConfusion

end Step

variable {σ : Type} {t : Tool} {job : Job} {u v : WorkUnit} {o o' : Outcome} {f : Finding}
variable {fix : Options → List String}

/-- **The steps of a unit.** It is mended only where the job asks for it and the tool can, and only after
a check that found something; it is checked again only after a mend that ended. -/
inductive UnitSteps (t : Tool) (job : Job) (u : WorkUnit) : List Step → Prop
  /-- There is nothing to mend it with, or nothing to mend. -/
  | checked {o : Outcome} : (fixFor t job = none ∨ ¬ t.Finds o) →
      UnitSteps t job u [.check t job u o]
  /-- The mend did not end. -/
  | unmended {fix : Options → List String} {o o' : Outcome} : fixFor t job = some fix → t.Finds o →
      (∀ success output, o' ≠ .completed success output) →
      UnitSteps t job u [.check t job u o, .mend t fix job u o']
  /-- The mend ended, and the unit was checked again. -/
  | mended {fix : Options → List String} {o o' : Outcome} {success : Bool} {output : String} :
      fixFor t job = some fix → t.Finds o →
      UnitSteps t job u [.check t job u o, .mend t fix job u (.completed success output),
        .check t job u o']

/-- A report has a finding for a unit that failed, with the label of the unit and one of the codes for
such findings. -/
def Blames (r : UnitReport) (v : WorkUnit) : Prop :=
  ∃ f, r.failure = some f ∧ f.file = v.label ∧ f.isSynthetic = true

/-- **How a unit is worked on**: the steps it takes, and a report that has a finding where one of them
gave nothing to go by. -/
structure Worked (t : Tool) (job : Job) (u : WorkUnit) (steps : List Step) (r : UnitReport) :
    Prop where
  /-- The steps. -/
  order : UnitSteps t job u steps
  /-- What is wasted is reported. -/
  blames : ∀ st ∈ steps, ∀ v, st.Wasted v → Blames r v

/-- The steps of a unit are made for its tool. -/
theorem UnitSteps.tool_eq {steps : List Step} {st : Step} (hs : UnitSteps t job u steps)
    (hst : st ∈ steps) : st.tool = t := by
  cases hs with
  | checked _ =>
    obtain rfl := List.mem_singleton.1 hst
    rfl
  | unmended _ _ _ =>
    simp only [List.mem_cons, List.not_mem_nil, or_false] at hst
    rcases hst with rfl | rfl <;> rfl
  | mended _ _ =>
    simp only [List.mem_cons, List.not_mem_nil, or_false] at hst
    rcases hst with rfl | rfl | rfl <;> rfl

/-! ## Checks and mends as steps -/

/-- What a check found is what it ended with. -/
theorem CheckEnds.finds_iff {e : Except Finding (List Finding)} (h : CheckEnds t job u o e) :
    t.Finds o ↔ ∃ found, e = .ok found ∧ found ≠ [] := by
  constructor
  · rintro ⟨success, output, found, rfl, hread, hne⟩
    exact ⟨found, h.unique (.parsed hread (Or.inr hne)), hne⟩
  · rintro ⟨found, rfl, hne⟩
    cases h with
    | parsed hread _ => exact ⟨_, _, found, rfl, hread, hne⟩

/-- A check that gives nothing to go by ends with a finding. -/
theorem CheckEnds.of_wasted {e : Except Finding (List Finding)} (h : CheckEnds t job u o e)
    (hw : (Step.check t job u o).Wasted v) :
    ∃ f, e = .error f ∧ f.file = v.label ∧ f.isSynthetic = true := by
  have hend : ∃ f, u = v ∧ CheckEnds t job u o (.error f) := by
    cases hw with
    | check_timedOut => exact ⟨_, rfl, .timedOut⟩
    | check_failed => exact ⟨_, rfl, .failed⟩
    | unreadable hread => exact ⟨_, rfl, .unreadable hread⟩
    | silent hread => exact ⟨_, rfl, .silent hread⟩
  obtain ⟨f, rfl, hf⟩ := hend
  obtain ⟨hfile, hcode⟩ := hf.label
  refine ⟨f, h.unique hf, hfile, ?_⟩
  simpa [Finding.isSynthetic, or_assoc] using hcode

/-- A check with findings is not wasted. -/
theorem not_wasted_of_ok {found : List Finding} (h : CheckEnds t job u o (.ok found)) :
    ¬ (Step.check t job u o).Wasted v := by
  intro hw
  obtain ⟨f, he, -⟩ := h.of_wasted hw
  cases he

/-- A mend that gives nothing to go by fails with a finding. -/
theorem CommandFails.of_wasted {command : List String} (h : CommandFails job command u o f)
    (hw : (Step.mend t fix job u o).Wasted v) : f.file = v.label ∧ f.isSynthetic = true := by
  cases h with
  | timedOut =>
    cases hw
    exact ⟨rfl, rfl⟩
  | failed =>
    cases hw
    exact ⟨rfl, rfl⟩

/-! ## The steps of a unit -/

/-- A unit that is only checked takes one step. -/
theorem CheckEnds.worked {e : Except Finding (List Finding)} (h : CheckEnds t job u o e)
    (hfor : fixFor t job = none) : Worked t job u [.check t job u o] (reportCheck e) := by
  refine ⟨.checked (Or.inl hfor), fun st hst v hw => ?_⟩
  obtain rfl := List.mem_singleton.1 hst
  obtain ⟨f, rfl, hf⟩ := h.of_wasted hw
  exact ⟨f, rfl, hf⟩

/-- A unit in which a check found nothing to mend takes one step. -/
theorem worked_unmended {e : Except Finding (List Finding)} {r : UnitReport}
    (h : CheckEnds t job u o e) (hnone : ∀ found, e = .ok found → found = [])
    (hr : ∀ f, e = .error f → r.failure = some f) : Worked t job u [.check t job u o] r := by
  refine ⟨.checked (Or.inr ?_), fun st hst v hw => ?_⟩
  · rw [h.finds_iff]
    rintro ⟨found, hfound, hne⟩
    exact hne (hnone found hfound)
  · obtain rfl := List.mem_singleton.1 hst
    obtain ⟨f, he, hf⟩ := h.of_wasted hw
    exact ⟨f, hr f he, hf⟩

/-- A unit with findings whose mend ended takes three steps, and the last one may be wasted. -/
theorem worked_mended {e : Except Finding (List Finding)} {r : UnitReport} {initial : List Finding}
    {success : Bool} {output : String} (hfor : fixFor t job = some fix)
    (h : CheckEnds t job u o (.ok initial)) (hne : initial ≠ []) (h' : CheckEnds t job u o' e)
    (hr : ∀ f, e = .error f → r.failure = some f) :
    Worked t job u [.check t job u o, .mend t fix job u (.completed success output),
      .check t job u o'] r := by
  refine ⟨.mended hfor (h.finds_iff.2 ⟨initial, rfl, hne⟩), fun st hst v hw => ?_⟩
  simp only [List.mem_cons, List.not_mem_nil, or_false] at hst
  rcases hst with rfl | rfl | rfl
  · exact absurd hw (not_wasted_of_ok h)
  · cases hw
  · obtain ⟨f, he, hf⟩ := h'.of_wasted hw
    exact ⟨f, hr f he, hf⟩

/-- **A unit that is to be mended** takes one of the sequences of steps, whichever way it ends. -/
theorem FixEnds.worked {x : List Exchange} {r : UnitReport} (h : FixEnds t fix job u x r)
    (hfor : fixFor t job = some fix) :
    ∃ steps, x = steps.map Step.toExchange ∧ Worked t job u steps r := by
  -- the exchanges are those of the steps; what differs is which of them the report has to blame
  cases h with
  | clean hcheck =>
    refine ⟨[.check t job u _], rfl, worked_unmended hcheck (fun found h => ?_) fun f h => ?_⟩
    · exact (Except.ok.inj h).symm
    · cases h
  | unchecked hcheck =>
    refine ⟨[.check t job u _], rfl, worked_unmended hcheck (fun found h => ?_) fun f h => ?_⟩
    · cases h
    · exact congrArg some (Except.error.inj h)
  | @unmended o o' initial f hcheck hne hfails =>
    refine ⟨[.check t job u o, .mend t fix job u o'], rfl,
      .unmended hfor (hcheck.finds_iff.2 ⟨initial, rfl, hne⟩) ?_, fun st hst v hw => ?_⟩
    · rintro success output rfl
      cases hfails
    · simp only [List.mem_cons, List.not_mem_nil, or_false] at hst
      rcases hst with rfl | rfl
      · exact absurd hw (not_wasted_of_ok hcheck)
      · exact ⟨f, rfl, hfails.of_wasted hw⟩
  | unconfirmed hcheck hne hrecheck =>
    refine ⟨[.check t job u _, .mend t fix job u _, .check t job u _], rfl,
      worked_mended hfor hcheck hne hrecheck fun f h => ?_⟩
    exact congrArg some (Except.error.inj h)
  | fewer hcheck hne hrecheck _ =>
    refine ⟨[.check t job u _, .mend t fix job u _, .check t job u _], rfl,
      worked_mended hfor hcheck hne hrecheck fun f h => ?_⟩
    cases h
  | more hcheck hne hrecheck _ =>
    refine ⟨[.check t job u _, .mend t fix job u _, .check t job u _], rfl,
      worked_mended hfor hcheck hne hrecheck fun f h => ?_⟩
    cases h

/-- **Working on a unit takes its steps**, and nothing else is added to the log. -/
theorem emits_workOn (h : Host σ) (t : Tool) (job : Job) (u : WorkUnit) :
    Emits (workOn h t job u) fun x r =>
      ∃ steps, x = steps.map Step.toExchange ∧ Worked t job u steps r := by
  rw [workOn]
  cases hfor : fixFor t job with
  | some fix =>
    intro s
    obtain ⟨x, hlog, hx⟩ := emits_fixUnit h t fix job u s
    exact ⟨x, hlog, hx.worked hfor⟩
  | none =>
    refine (emits_checkUnit h t job u).bind ?_
    rintro x e ⟨o, rfl, he⟩
    exact .pure ⟨[.check t job u o], List.append_nil _, he.worked hfor⟩

end Execution

end Multilint
