import Multilint.Proofs.Sequence
import Multilint.Run.Execution
/-!
# How work on a unit ends

`Emits m Q` says that whatever the host answers and whatever happened before, `m` only adds to the log
of the session, and that `Q` relates what it adds to what it returns. A call adds itself and its outcome
(`emits_ask`); the rest is put together with `Emits.bind` and `Emits.mapM`.

`CheckEnds` lists the five ways in which a check of a unit ends, and `FixEnds` the six ways in which a
unit is mended, each with the exchanges it takes and the report it leaves. They say nothing about the
rest of the session: that work on a unit ends in one of these ways is `emits_checkUnit` and
`emits_fixUnit`, for every host and at every time.
-/

namespace Multilint

/-! ## What a computation adds to the log -/

section Log

variable {σ α β γ : Type}

/-- **What a computation adds to the log**, and what it then returns. -/
def Emits (m : Calling σ α) (Q : List Exchange → α → Prop) : Prop :=
  ∀ s, ∃ x, (m s).2.log = s.log ++ x ∧ Q x (m s).1

/-- A call and its outcome. -/
theorem emits_ask (h : Host σ) (c : Call) : Emits (h.ask c) fun x o => x = [⟨c, o⟩] :=
  fun _ => ⟨_, rfl, rfl⟩

namespace Emits

variable {m : Calling σ α} {k : α → Calling σ β} {Q : List Exchange → α → Prop}

theorem pure {a : α} (h : Q [] a) : Emits (Pure.pure a : Calling σ α) Q :=
  fun s => ⟨[], (List.append_nil s.log).symm, h⟩

/-- **One computation after another** adds to the log what they add, in order. -/
theorem bind {R : List Exchange → β → Prop} (h : Emits m Q)
    (hk : ∀ x a, Q x a → Emits (k a) fun y b => R (x ++ y) b) : Emits (m >>= k) R := by
  intro s
  obtain ⟨x, hlog, hx⟩ := h s
  obtain ⟨y, hlog', hy⟩ := hk x (m s).1 hx (m s).2
  exact ⟨x ++ y, by rw [← List.append_assoc, ← hlog, ← hlog']; rfl, hy⟩

/-- **A computation for each of a list** adds to the log what they add, in order. -/
theorem mapM {f : γ → Calling σ β} {R : γ → List Exchange → β → Prop}
    (h : ∀ c, Emits (f c) (R c)) (cs : List γ) :
    Emits (cs.mapM f) fun x bs => Sequence.InOrder R cs x bs := by
  induction cs with
  | nil => exact pure .nil
  | cons c cs ih =>
    rw [List.mapM_cons]
    refine (h c).bind fun x b hb => ih.bind fun y bs hbs => pure ?_
    rw [List.append_nil]
    exact .cons hb hbs

end Emits

end Log

namespace Execution

variable {σ : Type} {t : Tool} {job : Job} {u : WorkUnit} {fix : Options → List String}

/-- **A command and its outcome for a unit**: the command with the options of the job and the arguments of
the unit, in the directory of the job and within its seconds. -/
def exchangeOf (job : Job) (command : Options → List String) (u : WorkUnit) (o : Outcome) : Exchange :=
  ⟨⟨command job.options ++ u.args, some job.dir, job.seconds⟩, o⟩

/-- **How a check ends**, by the outcome of its call: with the findings that were read, or with one
finding that stands for the unit. -/
inductive CheckEnds (t : Tool) (job : Job) (u : WorkUnit) :
    Outcome → Except Finding (List Finding) → Prop
  /-- The output was read, and a failure status went along with findings. -/
  | parsed {success : Bool} {output : String} {found : List Finding} :
      t.adapter.read output = .ok found → (success = true ∨ found ≠ []) →
      CheckEnds t job u (.completed success output) (.ok found)
  /-- The command failed without a finding. -/
  | silent {output : String} : t.adapter.read output = .ok [] →
      CheckEnds t job u (.completed false output)
        (.error (.notRun u.label (silentFailure output)))
  /-- The output was refused. -/
  | unreadable {success : Bool} {output : String} {fault : OutputFault} :
      t.adapter.read output = .error fault →
      CheckEnds t job u (.completed success output)
        (.error (.notRead u.label ("could not parse " ++ t.name ++ " output: " ++ fault.message)))
  /-- The command took too long. -/
  | timedOut : CheckEnds t job u .timedOut (.error (.timedOut u.label job.seconds))
  /-- The command was not started. -/
  | failed {f : StartFailure} :
      CheckEnds t job u (.failed f) (.error (.notRun u.label ("failed to run " ++
        (t.adapter.checkCommand job.options ++ u.args).head?.getD "" ++ ": " ++ f.message)))

theorem CheckEnds.eq_readCheck {success : Bool} {output : String}
    {e : Except Finding (List Finding)} (h : CheckEnds t job u (.completed success output) e) :
    e = readCheck t u success output := by
  cases h with
  | parsed hread hok =>
    rcases hok with rfl | hne
    · simp [readCheck, hread]
    · simp [readCheck, hread, hne]
  | silent hread => simp [readCheck, hread]
  | unreadable hread => simp [readCheck, hread]

/-- **Every outcome has one ending.** -/
theorem CheckEnds.unique {o : Outcome} {e e' : Except Finding (List Finding)}
    (h : CheckEnds t job u o e) (h' : CheckEnds t job u o e') : e = e' := by
  cases o with
  | completed success output => rw [h.eq_readCheck, h'.eq_readCheck]
  | timedOut =>
    cases h
    cases h'
    rfl
  | failed f =>
    cases h
    cases h'
    rfl

/-- **What stands for a unit** carries its label and the code of one of three failures. -/
theorem CheckEnds.label {o : Outcome} {f : Finding} (h : CheckEnds t job u o (.error f)) :
    f.file = u.label ∧
      (f.code = Finding.timeoutCode ∨ f.code = Finding.runCode ∨ f.code = Finding.outputCode) := by
  cases h with
  | silent _ => exact ⟨rfl, Or.inr (Or.inl rfl)⟩
  | unreadable _ => exact ⟨rfl, Or.inr (Or.inr rfl)⟩
  | timedOut => exact ⟨rfl, Or.inl rfl⟩
  | failed => exact ⟨rfl, Or.inr (Or.inl rfl)⟩

theorem checkEnds_readCheck (success : Bool) (output : String) :
    CheckEnds t job u (.completed success output) (readCheck t u success output) := by
  rw [readCheck]
  cases hread : t.adapter.read output with
  | error fault => exact .unreadable hread
  | ok found =>
    dsimp only
    split
    · rename_i hsilent
      simp only [Bool.and_eq_true, Bool.not_eq_true', List.isEmpty_iff] at hsilent
      obtain ⟨rfl, rfl⟩ := hsilent
      exact .silent hread
    · rename_i hloud
      refine .parsed hread ?_
      by_contra hnot
      simp only [not_or, Bool.not_eq_true, not_not] at hnot
      simp [hnot.1, hnot.2] at hloud

/-- A command is one call for its unit, and the outcome decides what it gives. -/
theorem emits_runCommand (h : Host σ) (job : Job) (command : Options → List String)
    (u : WorkUnit) :
    Emits (runCommand h job command u) fun x e =>
      ∃ o, x = [exchangeOf job command u o] ∧ e = ended job (callFor job command u) u o :=
  (emits_ask h _).bind fun x o hx => .pure ⟨o, by rw [hx, List.append_nil]; rfl, rfl⟩

/-- **A check is one call**, and ends in one of the five ways. -/
theorem emits_checkUnit (h : Host σ) (t : Tool) (job : Job) (u : WorkUnit) :
    Emits (checkUnit h t job u) fun x e =>
      ∃ o, x = [exchangeOf job t.adapter.checkCommand u o] ∧ CheckEnds t job u o e := by
  refine (emits_runCommand h job t.adapter.checkCommand u).bind ?_
  rintro x e ⟨o, rfl, rfl⟩
  cases o with
  | completed success output =>
    exact .pure ⟨_, List.append_nil _, checkEnds_readCheck success output⟩
  | timedOut => exact .pure ⟨_, List.append_nil _, .timedOut⟩
  | failed f => exact .pure ⟨_, List.append_nil _, .failed⟩

/-! ## Mending a unit -/

/-- The failure of a command that did not end. -/
inductive CommandFails (job : Job) (command : List String) (u : WorkUnit) : Outcome → Finding → Prop
  /-- The command took too long. -/
  | timedOut : CommandFails job command u .timedOut (.timedOut u.label job.seconds)
  /-- The command was not started. -/
  | failed {f : StartFailure} : CommandFails job command u (.failed f)
      (.notRun u.label ("failed to run " ++ command.head?.getD "" ++ ": " ++ f.message))

/-- **How a unit is mended**: the exchanges, and the report. A unit that could not be mended, or not
checked again, keeps the findings of its first check. -/
inductive FixEnds (t : Tool) (fix : Options → List String) (job : Job) (u : WorkUnit) :
    List Exchange → UnitReport → Prop
  /-- The unit is clean. -/
  | clean {o : Outcome} : CheckEnds t job u o (.ok []) →
      FixEnds t fix job u [exchangeOf job t.adapter.checkCommand u o] {}
  /-- The first check failed. -/
  | unchecked {o : Outcome} {f : Finding} : CheckEnds t job u o (.error f) →
      FixEnds t fix job u [exchangeOf job t.adapter.checkCommand u o] { failure := some f }
  /-- The command that mends did not end. -/
  | unmended {o o' : Outcome} {initial : List Finding} {f : Finding} :
      CheckEnds t job u o (.ok initial) → initial ≠ [] →
      CommandFails job (fix job.options ++ u.args) u o' f →
      FixEnds t fix job u
        [exchangeOf job t.adapter.checkCommand u o, exchangeOf job fix u o']
        ⟨initial, ⟨initial.length, 0, initial.length⟩, some f⟩
  /-- The second check failed. -/
  | unconfirmed {o o' : Outcome} {success : Bool} {output : String} {initial : List Finding}
      {f : Finding} : CheckEnds t job u o (.ok initial) → initial ≠ [] →
      CheckEnds t job u o' (.error f) →
      FixEnds t fix job u
        [exchangeOf job t.adapter.checkCommand u o,
          exchangeOf job fix u (.completed success output),
          exchangeOf job t.adapter.checkCommand u o']
        ⟨initial, ⟨initial.length, 0, initial.length⟩, some f⟩
  /-- As many findings are left, or fewer. -/
  | fewer {o o' : Outcome} {success : Bool} {output : String} {initial remaining : List Finding} :
      CheckEnds t job u o (.ok initial) → initial ≠ [] →
      CheckEnds t job u o' (.ok remaining) → remaining.length ≤ initial.length →
      FixEnds t fix job u
        [exchangeOf job t.adapter.checkCommand u o,
          exchangeOf job fix u (.completed success output),
          exchangeOf job t.adapter.checkCommand u o']
        ⟨remaining, ⟨initial.length, initial.length - remaining.length, remaining.length⟩, none⟩
  /-- More findings are there than before; all of them count as found. -/
  | more {o o' : Outcome} {success : Bool} {output : String} {initial remaining : List Finding} :
      CheckEnds t job u o (.ok initial) → initial ≠ [] →
      CheckEnds t job u o' (.ok remaining) → initial.length < remaining.length →
      FixEnds t fix job u
        [exchangeOf job t.adapter.checkCommand u o,
          exchangeOf job fix u (.completed success output),
          exchangeOf job t.adapter.checkCommand u o']
        ⟨remaining, ⟨remaining.length, 0, remaining.length⟩, none⟩

/-- A second check counts by what it leaves. -/
theorem fixEnds_recheck {o o' : Outcome} {success : Bool} {output : String}
    {initial remaining : List Finding} (h : CheckEnds t job u o (.ok initial))
    (hne : initial ≠ []) (h' : CheckEnds t job u o' (.ok remaining)) :
    FixEnds t fix job u
      [exchangeOf job t.adapter.checkCommand u o, exchangeOf job fix u (.completed success output),
        exchangeOf job t.adapter.checkCommand u o']
      ⟨remaining, .ofRecheck initial.length remaining.length, none⟩ := by
  rcases Nat.lt_or_ge initial.length remaining.length with hlt | hge
  · have hcounts : FixCounts.ofRecheck initial.length remaining.length =
        ⟨remaining.length, 0, remaining.length⟩ := by
      rw [FixCounts.ofRecheck, FixCounts.mk.injEq]
      exact ⟨by omega, by omega, rfl⟩
    rw [hcounts]
    exact .more h hne h' hlt
  · have hcounts : FixCounts.ofRecheck initial.length remaining.length =
        ⟨initial.length, initial.length - remaining.length, remaining.length⟩ := by
      rw [FixCounts.ofRecheck, FixCounts.mk.injEq]
      exact ⟨by omega, by omega, rfl⟩
    rw [hcounts]
    exact .fewer h hne h' hge

/-- **A unit is mended** in one of the six ways. -/
theorem emits_fixUnit (h : Host σ) (t : Tool) (fix : Options → List String) (job : Job)
    (u : WorkUnit) : Emits (fixUnit h t fix job u) (FixEnds t fix job u) := by
  refine (emits_checkUnit h t job u).bind ?_
  rintro x e ⟨o, rfl, hcheck⟩
  match e, hcheck with
  | .error f, hcheck => exact .pure (.unchecked hcheck)
  | .ok [], hcheck => exact .pure (.clean hcheck)
  | .ok (i :: is), hcheck =>
    have hne : i :: is ≠ [] := List.cons_ne_nil i is
    -- something was found, so the command that mends is run
    refine (emits_runCommand h job fix u).bind ?_
    rintro y e' ⟨o', rfl, rfl⟩
    cases o' with
    | timedOut => exact .pure (.unmended hcheck hne .timedOut)
    | failed f => exact .pure (.unmended hcheck hne .failed)
    | completed success output =>
      -- its status counts for nothing; the second check decides
      refine (emits_checkUnit h t job u).bind ?_
      rintro z e'' ⟨o'', rfl, hrecheck⟩
      cases e'' with
      | error f => exact .pure (.unconfirmed hcheck hne hrecheck)
      | ok remaining => exact .pure (fixEnds_recheck hcheck hne hrecheck)

/-! ## A whole job -/

/-- **Executing a tool works on its units in order**: what each of them adds to the log stands behind
what the one before it added, and the result is made of their reports. -/
theorem execute_inOrder {h : Host σ} {R : WorkUnit → List Exchange → UnitReport → Prop}
    (hR : ∀ u, Emits (workOn h t job u) (R u)) (s : Session σ) :
    ∃ x rs, (execute h t job s).2.log = s.log ++ x ∧
      (execute h t job s).1 = summarize t job rs ∧
      Sequence.InOrder R (units t job) x rs := by
  obtain ⟨x, hlog, hruns⟩ := Emits.mapM hR (units t job) s
  exact ⟨x, _, hlog, rfl, hruns⟩

/-- All is well if nothing was found and nothing went wrong. -/
theorem success_summarize_iff {rs : List UnitReport} :
    (summarize t job rs).success = true ↔ (summarize t job rs).findings = [] :=
  List.isEmpty_iff

end Execution

end Multilint
