import Multilint.Run.Report
import Multilint.Proofs.Sequence
/-!
# Dialogues with a host

A run deals with its host by calls, and by looking at the files; it has no other way to learn anything or to
change anything. `Dialogue h P m` says that `m` is put together like this, from calls of which `P` holds.
That executing, preparing and serving a tool and the run as a whole are dialogues is shown here once, with
the calls they make: those of the tools of the schedule (`dialogue_run`). What holds of every dialogue is
proved by induction on it, and then holds of all of these.
-/

namespace Multilint

variable {σ α β γ : Type}

/-- **A dialogue with a host**: a computation made of calls that have a property, and of looks at the
files. -/
inductive Dialogue (h : Host σ) (P : Call → Prop) : {α : Type} → Calling σ α → Prop
  /-- Saying nothing. -/
  | pure {α : Type} (a : α) : Dialogue h P (Pure.pure a)
  /-- A call. -/
  | ask {c : Call} : P c → Dialogue h P (h.ask c)
  /-- A look at the files. -/
  | files : Dialogue h P h.files
  /-- Going on by what was learned. -/
  | bind {α β : Type} {m : Calling σ α} {k : α → Calling σ β} :
      Dialogue h P m → (∀ a, Dialogue h P (k a)) → Dialogue h P (m >>= k)

namespace Dialogue

variable {h : Host σ} {P Q : Call → Prop}

/-- A dialogue makes the calls it makes, and may be allowed more. -/
theorem mono {m : Calling σ α} (hm : Dialogue h P m) (hPQ : ∀ c, P c → Q c) : Dialogue h Q m := by
  induction hm with
  | pure a => exact .pure a
  | ask hc => exact .ask (hPQ _ hc)
  | files => exact .files
  | bind _ _ ihm ihk => exact .bind ihm ihk

theorem mapM {f : γ → Calling σ β} {cs : List γ} (hf : ∀ c ∈ cs, Dialogue h P (f c)) :
    Dialogue h P (cs.mapM f) := by
  induction cs with
  | nil => exact .pure []
  | cons c cs ih =>
    rw [List.forall_mem_cons] at hf
    rw [List.mapM_cons]
    exact hf.1.bind fun b => (ih hf.2).bind fun bs => .pure (b :: bs)

/-! ## Dialogues that may fail -/

/-- What gives something or fails without a call is followed by a dialogue where it gives something. -/
theorem bindExcept {e : Except Failure α} {k : α → ExceptT Failure (Calling σ) β}
    (hk : ∀ a, e = .ok a → Dialogue h P (k a).run) :
    Dialogue h P ((liftM e : ExceptT Failure (Calling σ) α) >>= k).run := by
  cases e with
  | error f => exact .pure (Except.error f)
  | ok a => exact hk a rfl

theorem lift {m : Calling σ α} (hm : Dialogue h P m) :
    Dialogue h P (liftM m : ExceptT Failure (Calling σ) α).run :=
  hm.bind fun a => .pure (Except.ok a)

/-- **A dialogue that fails ends there**, and otherwise goes on. -/
theorem bindOk {m : ExceptT Failure (Calling σ) α} {k : α → ExceptT Failure (Calling σ) β}
    (hm : Dialogue h P m.run) (hk : ∀ a, Dialogue h P (k a).run) : Dialogue h P (m >>= k).run := by
  refine Dialogue.bind (k := ExceptT.bindCont k) hm fun e => ?_
  cases e with
  | error f => exact .pure (Except.error f)
  | ok a => exact hk a

theorem mapMOk {f : γ → ExceptT Failure (Calling σ) β} {cs : List γ}
    (hf : ∀ c ∈ cs, Dialogue h P (f c).run) : Dialogue h P (cs.mapM f).run := by
  induction cs with
  | nil => exact .pure (Except.ok [])
  | cons c cs ih =>
    rw [List.forall_mem_cons] at hf
    rw [List.mapM_cons]
    exact hf.1.bindOk fun b => (ih hf.2).bindOk fun bs => .pure (Except.ok (b :: bs))

/-- **What a dialogue adds to the log** are calls it may make. -/
theorem exists_log {m : Calling σ α} (hm : Dialogue h P m) (s : Session σ) :
    ∃ x, (m s).2.log = s.log ++ x ∧ ∀ e ∈ x, P e.call := by
  induction hm generalizing s with
  | pure a => exact ⟨[], (List.append_nil s.log).symm, by simp⟩
  | ask hc => exact ⟨_, rfl, by simpa using hc⟩
  | files => exact ⟨[], (List.append_nil s.log).symm, by simp⟩
  | @bind α β m k _ _ ihm ihk =>
    obtain ⟨x, hlog, hx⟩ := ihm s
    obtain ⟨y, hlog', hy⟩ := ihk (m s).1 (m s).2
    refine ⟨x ++ y, ?_, List.forall_mem_append.2 ⟨hx, hy⟩⟩
    rw [← List.append_assoc, ← hlog, ← hlog']
    rfl

end Dialogue

/-! ## The calls of a tool -/

/-- **The calls of a tool**: its version command, the command that checks and the one that mends. -/
inductive Tool.Calls (t : Tool) : Call → Prop
  /-- The tool is asked for its version. -/
  | version {seconds : ℕ} : Tool.Calls t ⟨t.spec.versionCommand, none, seconds⟩
  /-- Something is checked. -/
  | check {options : Options} {args : List String} {dir : Path} {seconds : ℕ} :
      Tool.Calls t ⟨t.adapter.checkCommand options ++ args, some dir, seconds⟩
  /-- Something is mended. -/
  | mend {fix : Options → List String} {options : Options} {args : List String} {dir : Path}
      {seconds : ℕ} : t.adapter.fixCommand = some fix →
      Tool.Calls t ⟨fix options ++ args, some dir, seconds⟩

namespace Execution

variable (h : Host σ) (t : Tool) (job : Job)

theorem dialogue_runCommand {P : Call → Prop} {command : Options → List String} {u : WorkUnit}
    (hc : P (callFor job command u)) : Dialogue h P (runCommand h job command u) :=
  (Dialogue.ask hc).bind fun _ => .pure _

theorem dialogue_checkUnit (u : WorkUnit) : Dialogue h t.Calls (checkUnit h t job u) := by
  refine (dialogue_runCommand h job .check).bind fun e => ?_
  cases e with
  | ok r => exact .pure _
  | error f => exact .pure _

theorem dialogue_fixUnit {fix : Options → List String} (hfix : t.adapter.fixCommand = some fix)
    (u : WorkUnit) : Dialogue h t.Calls (fixUnit h t fix job u) := by
  refine (dialogue_checkUnit h t job u).bind fun e => ?_
  match e with
  | .error f => exact .pure _
  | .ok [] => exact .pure _
  | .ok (i :: is) =>
    refine (dialogue_runCommand h job (.mend hfix)).bind fun e' => ?_
    cases e' with
    | error f => exact .pure _
    | ok r =>
      refine (dialogue_checkUnit h t job u).bind fun e'' => ?_
      cases e'' with
      | error f => exact .pure _
      | ok remaining => exact .pure _

theorem dialogue_workOn (u : WorkUnit) : Dialogue h t.Calls (workOn h t job u) := by
  rw [workOn, fixFor]
  by_cases hjob : job.fix = true
  · rw [if_pos hjob]
    cases hfix : t.adapter.fixCommand with
    | some fix => exact dialogue_fixUnit h t job hfix u
    | none => exact (dialogue_checkUnit h t job u).bind fun _ => .pure _
  · rw [if_neg hjob]
    exact (dialogue_checkUnit h t job u).bind fun _ => .pure _

/-- **Executing a tool is a dialogue** of its calls. -/
theorem dialogue_execute : Dialogue h t.Calls (execute h t job) :=
  (Dialogue.mapM fun u _ => dialogue_workOn h t job u).bind fun _ => .pure _

end Execution

open Execution

variable (h : Host σ) (settings : RunSettings)

/-- So is asking a tool for its version. -/
theorem dialogue_check (t : Tool) (seconds : ℕ) :
    Dialogue h t.Calls (Version.check h t.spec seconds) := by
  refine Dialogue.bind ?_ fun _ => .pure _
  rw [Version.gate]
  split
  · rename_i c cs _ hcommand
    refine (Dialogue.ask ?_).bind fun _ => .pure _
    rw [← hcommand]
    exact .version
  · exact .pure _

/-- So is preparing it. -/
theorem dialogue_prepare (inputs : List Path) (t : Tool) :
    Dialogue h t.Calls (prepare h settings inputs t).run := by
  refine Dialogue.bindExcept fun options _ => ?_
  refine (dialogue_check h t settings.versionSeconds).lift.bindOk fun skipped => ?_
  cases skipped with
  | some result => exact .pure _
  | none =>
    refine Dialogue.files.lift.bindOk fun tree => ?_
    exact Dialogue.bindExcept fun files _ => .pure _

/-- **Serving a tool is a dialogue** of its calls. -/
theorem dialogue_serve (req : Request) (t : Tool) : Dialogue h t.Calls (serve h settings req t).run := by
  refine (dialogue_prepare h settings req.inputs t).bindOk fun p => ?_
  cases p with
  | ready job => exact (dialogue_execute h t job).lift
  | done result =>
    dsimp only
    split
    · exact .pure _
    · exact .pure _

/-- **A run is a dialogue** of the calls of the tools of its schedule. -/
theorem dialogue_run (box : Toolbox) (req : Request) :
    Dialogue h (fun c => ∃ plan, Plan.ofRequest box req = .ok plan ∧
      ∃ t ∈ plan.schedule.ordered, t.Calls c) (run h box req settings).run := by
  refine Dialogue.bindExcept fun plan hplan => Dialogue.bindExcept fun _ _ => ?_
  refine (Dialogue.mapMOk fun t ht => ?_).bindOk fun ran => .pure _
  exact (dialogue_serve h settings req t).mono fun c hc => ⟨plan, hplan, t, ht, hc⟩

end Multilint
