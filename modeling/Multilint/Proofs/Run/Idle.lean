import Multilint.Proofs.Run.Plan
import Multilint.Proofs.Run.Serving
/-!
# Tools that fail, and tools with nothing to do

Before its first call a run looks up the tools a request names and reads their options. A request has no plan
exactly where one of its names is none, the first of them being reported (`Plan.ofRequest_eq_error_iff`);
selecting and scheduling find nothing else to complain about. Options and include patterns make one kind of
mistake each (`RunSettings.exists_fault`, `Discovery.exists_invalid`).

A tool that is served can fail, and `serve_error_cases` says why and what it has called by then. It can also
be served without a call: exactly if it is not asked for its version and there are no files for it
(`Served.nil_iff`).
-/

namespace Multilint

variable {σ : Type} {h : Host σ} {box : Toolbox} {req : Request} {settings : RunSettings}
variable {s s' : Session σ} {f : Failure} {t : Tool} {inputs : List Path}

/-! ## What looking through a request finds -/

/-- A tool of the toolbox is looked up by its name. -/
theorem Toolbox.contains_name (ht : t ∈ box.tools) : box.contains t.name = true := by
  rw [contains, find?, List.find?_isSome]
  exact ⟨t, ht, by simp⟩

/-- **Scheduling finds no mistake** where the identities resolve. -/
theorem Schedule.ofRequest_ne_error {ids : List String} {ignoreConflicts : Bool}
    (hids : ∀ id ∈ ids, box.contains id = true) :
    Schedule.ofRequest box ids ignoreConflicts ≠ .error f := by
  rw [Ne, ofRequest_eq_error_iff]
  rintro ⟨before, id, after, rfl, -, hid⟩
  have hmissing := (Toolbox.get_eq_error_iff.1 hid).1
  rw [hids id (by simp)] at hmissing
  cases hmissing

namespace Plan

/-- Names are paired with their tools until one has none. -/
theorem named_eq_error_iff {ids : List String} :
    named box ids = .error f ↔ Sequence.FirstFails box.get ids f := by
  rw [named, Sequence.mapM_eq_error_iff]
  have hstep : ∀ id, (∃ e, (do return (id, ← box.get id) : Except Failure (String × Tool)) = .ok e) ↔
      ∃ t, box.get id = .ok t := by
    intro id
    cases box.get id <;> simp [bind, Except.bind, pure, Except.pure]
  have hstep' : ∀ id, (do return (id, ← box.get id) : Except Failure (String × Tool)) = .error f ↔
      box.get id = .error f := by
    intro id
    cases box.get id <;> simp [bind, Except.bind, pure, Except.pure]
  simp only [Sequence.FirstFails, hstep, hstep']

/-- **What is selected can be scheduled**: it is looked up a second time. -/
theorem contains_of_select {ids : List String} {unfit : List Tool}
    (hselect : select box req = .ok (ids, unfit)) : ∀ id ∈ ids, box.contains id = true := by
  intro id hid
  rw [select] at hselect
  split at hselect
  · obtain ⟨rfl, -⟩ := Prod.mk.inj (Except.ok.inj hselect)
    obtain ⟨t, ht, -, rfl⟩ := mem_defaults_iff.1 hid
    exact Toolbox.contains_name ht
  · obtain ⟨es, hes, hselect⟩ := Sequence.bind_eq_ok_iff.1 hselect
    obtain ⟨rfl, -⟩ := Prod.mk.inj (Except.ok.inj hselect)
    obtain ⟨e, he, rfl⟩ := List.mem_map.1 hid
    obtain ⟨id, -, hpair⟩ := Sequence.exists_of_mem_mapM hes (List.mem_filter.1 he).1
    obtain ⟨t, hget, hpair⟩ := Sequence.bind_eq_ok_iff.1 hpair
    obtain rfl := Except.ok.inj hpair
    exact Toolbox.contains_iff_get.2 ⟨t, hget⟩

theorem select_eq_error_iff :
    select box req = .error f ↔ Sequence.FirstFails box.get req.tools f := by
  rw [select]
  split
  · rename_i hempty
    rw [List.isEmpty_iff.1 hempty]
    exact iff_of_false (fun h => by cases h) Sequence.not_firstFails_nil
  · rw [Sequence.bind_eq_error_iff, named_eq_error_iff]
    refine or_iff_left ?_
    rintro ⟨es, -, h⟩
    cases h

/-- **A request has no plan** exactly if it names a tool that is missing. -/
theorem ofRequest_eq_error_iff :
    ofRequest box req = .error f ↔ Sequence.FirstFails box.get req.tools f := by
  rw [ofRequest, Sequence.bind_eq_error_iff, select_eq_error_iff]
  -- what has been selected is in the toolbox, so that scheduling does not fail
  refine or_iff_left ?_
  rintro ⟨⟨ids, unfit⟩, hselect, h⟩
  dsimp only at h
  split at h
  · cases h
  · rcases Sequence.bind_eq_error_iff.1 h with h | ⟨schedule, -, h⟩
    · exact Schedule.ofRequest_ne_error (contains_of_select hselect) h
    · cases h

end Plan

/-! ## Where each mistake comes from -/

/-- Options that do not fit are the only mistake in the options of a tool. -/
theorem RunSettings.exists_fault (hoptions : settings.optionsFor t.spec = .error f) :
    ∃ fault, f = .invalidOption t.spec.name fault := by
  rw [optionsFor, ToolSpec.effectiveOptions] at hoptions
  split at hoptions
  · cases hoptions
  · rename_i fault _
    exact ⟨fault, (Except.error.inj hoptions).symm⟩

/-- A mistake in include patterns is a text that is no pattern. -/
theorem Discovery.exists_invalid {patterns : List String} (hincludes : includesOf patterns = .error f) :
    ∃ p ∈ patterns, ∃ e, Glob.ofText p = .error e ∧ f = .invalidPattern p e := by
  obtain ⟨before, p, after, rfl, -, hp⟩ := Sequence.mapM_eq_error_iff.1 hincludes
  refine ⟨p, by simp, ?_⟩
  dsimp only at hp
  split at hp
  · cases hp
  · rename_i e he
    exact ⟨e, he, (Except.error.inj hp).symm⟩

/-- Files are looked for in vain only where an include pattern is no pattern. -/
theorem discover_eq_error_iff {tree : FileTree} {dir : Path} {scope : Scope} {patterns : List String} :
    discover tree dir scope inputs patterns = .error f ↔ Discovery.includesOf patterns = .error f := by
  rw [discover, Sequence.bind_eq_error_iff]
  refine or_iff_left ?_
  rintro ⟨includes, -, h⟩
  cases h

namespace Execution

/-! ## Tools that fail -/

/-- **A tool fails** because its options do not fit, because, past the gate, its include patterns are no
patterns, or because a strict run stops at its gate. -/
theorem serve_error_cases (herror : serve h settings req t s = (.error f, s')) :
    settings.optionsFor t.spec = .error f ∨
      (∃ gate, s'.log = s.log ++ gate.map Step.toExchange ∧
        GateSteps h t settings.versionSeconds s.world gate s'.world none ∧
        Discovery.includesOf t.spec.filePatterns = .error f) ∨
      ∃ message, f = .versionGate t.name message := by
  rw [serve] at herror
  rcases bind_eq_error_iff.1 herror with hprepare | ⟨p, s₁, -, hrest⟩
  · rw [prepare] at hprepare
    rcases bind_eq_error_iff.1 hprepare with hoptions | ⟨options, s₁, hoptions, hprepare⟩
    · exact Or.inl (liftM_except_eq_error_iff.1 hoptions).1
    · obtain ⟨-, rfl⟩ := liftM_except_eq_ok_iff.1 hoptions
      rcases bind_eq_error_iff.1 hprepare with hcheck | ⟨skipped, s₂, hcheck, hprepare⟩
      · exact absurd hcheck liftM_calling_ne_error
      · obtain ⟨gate, verdict, rfl, hlog, hgate⟩ := check_steps (liftM_calling_eq_ok_iff.1 hcheck)
        cases verdict with
        | some reason => exact absurd hprepare pure_ne_error
        | none =>
          rcases bind_eq_error_iff.1 hprepare with htree | ⟨tree, s₃, htree, hprepare⟩
          · exact absurd htree liftM_calling_ne_error
          · obtain ⟨rfl, rfl⟩ := Prod.mk.inj (liftM_calling_eq_ok_iff.1 htree)
            rcases bind_eq_error_iff.1 hprepare with hfiles | ⟨files, s₄, -, hprepare⟩
            · obtain ⟨hdiscover, rfl⟩ := liftM_except_eq_error_iff.1 hfiles
              exact Or.inr (Or.inl ⟨gate, hlog, hgate, discover_eq_error_iff.1 hdiscover⟩)
            · exact absurd hprepare pure_ne_error
  · cases p with
    | ready job => exact absurd hrest liftM_calling_ne_error
    | done result =>
      dsimp only at hrest
      split at hrest
      · cases hrest
        exact Or.inr (Or.inr ⟨_, rfl⟩)
      · exact absurd hrest pure_ne_error

/-- A tool whose options fit and that passes the gate fails there with its include patterns. -/
theorem serve_of_unreadable {options : Options} (hoptions : settings.optionsFor t.spec = .ok options)
    (hcheck : Version.check h t.spec settings.versionSeconds s = (none, s'))
    (hincludes : Discovery.includesOf t.spec.filePatterns = .error f) :
    serve h settings req t s = (.error f, s') := by
  refine bind_eq_error_iff.2 (Or.inl ?_)
  refine bind_eq_error_iff.2 (Or.inr ⟨options, s, liftM_except_eq_ok_iff.2 ⟨hoptions, rfl⟩, ?_⟩)
  refine bind_eq_error_iff.2 (Or.inr ⟨none, s', liftM_calling_eq_ok_iff.2 hcheck, ?_⟩)
  refine bind_eq_error_iff.2 (Or.inr ⟨h.tree s'.world, s', liftM_calling_eq_ok_iff.2 rfl, ?_⟩)
  exact bind_eq_error_iff.2
    (Or.inl (liftM_except_eq_error_iff.2 ⟨discover_eq_error_iff.2 hincludes, rfl⟩))

/-! ## Tools that are served without a call -/

/-- **A tool is not asked** for its version: it does not declare what the gate needs. -/
def Unasked (t : Tool) : Prop :=
  t.spec.minVersion = none ∨ t.spec.versionCommand = []

/-- **A tool has nothing to do**: it is not asked for its version, and there are no files for it. -/
structure Idle (h : Host σ) (settings : RunSettings) (inputs : List Path) (w : σ) (t : Tool) : Prop where
  /-- It is not asked. -/
  unasked : Unasked t
  /-- There are no files. -/
  no_files : discover (h.tree w) h.dir settings.scope inputs t.spec.filePatterns = .ok []

/-- The gate takes no step exactly if the tool is not asked. -/
theorem GateSteps.nil_iff {seconds : Nat} {w w' : σ} {verdict : Option SkipReason} {steps : List Step}
    (hgate : GateSteps h t seconds w steps w' verdict) : steps = [] ↔ Unasked t := by
  cases hgate with
  | unasked hunasked => exact iff_of_true rfl hunasked
  | asked hmin hcommand =>
    refine iff_of_false (List.cons_ne_nil _ _) ?_
    rintro (hnone | hempty)
    · rw [hmin] at hnone
      cases hnone
    · exact hcommand hempty

/-- A tool that is not asked passes, and the host stays where it is. -/
theorem GateSteps.eq_of_nil {seconds : Nat} {w w' : σ} {verdict : Option SkipReason}
    (hgate : GateSteps h t seconds w [] w' verdict) : w' = w ∧ verdict = none := by
  cases hgate with
  | unasked _ => exact ⟨rfl, rfl⟩

/-- A unit takes a step. -/
theorem UnitSteps.ne_nil {job : Job} {u : WorkUnit} {steps : List Step}
    (hsteps : UnitSteps t job u steps) : steps ≠ [] := by
  cases hsteps <;> exact List.cons_ne_nil _ _

/-- A job with files takes one. -/
theorem worked_ne_nil {root : Path} {options : Options} {files : List Path} {job : Job}
    {steps : List Step} {rs : List UnitReport} (hfiles : files ≠ [])
    (hjob : job = Preparation.jobFor t.spec settings root options files)
    (hruns : Sequence.InOrder (Worked t job) (units t job) steps rs) : steps ≠ [] := by
  have hunits : units t job ≠ [] := by
    obtain ⟨file, files, rfl⟩ := List.exists_cons_of_ne_nil hfiles
    rw [hjob, units]
    cases t.spec.invocation <;> simp [Preparation.jobFor]
  generalize units t job = us at hunits hruns
  cases hruns with
  | nil => exact absurd rfl hunits
  | cons hworked _ => exact List.append_ne_nil_of_left_ne_nil hworked.order.ne_nil _

/-- **A tool is served without a step** exactly if it has nothing to do. -/
theorem Served.nil_iff {w w' : σ} {steps : List Step} {r : ToolResult}
    (hserved : Served h settings inputs t w steps w' r) :
    steps = [] ↔ Idle h settings inputs w t := by
  cases hserved with
  | gated hgate =>
    constructor
    · rintro rfl
      cases hgate.eq_of_nil.2
    · exact fun hidle => hgate.nil_iff.2 hidle.unasked
  | no_files hgate hnone =>
    constructor
    · rintro rfl
      obtain ⟨rfl, -⟩ := hgate.eq_of_nil
      exact ⟨hgate.nil_iff.1 rfl, hnone⟩
    · exact fun hidle => hgate.nil_iff.2 hidle.unasked
  | worked hgate hsome hne hoptions hjob hruns hanswers =>
    refine iff_of_false (List.append_ne_nil_of_right_ne_nil _ (worked_ne_nil hne hjob hruns)) ?_
    intro hidle
    obtain rfl := hgate.nil_iff.2 hidle.unasked
    obtain ⟨rfl, -⟩ := hgate.eq_of_nil
    rw [hidle.no_files] at hsome
    exact hne (Except.ok.inj hsome).symm

/-- A tool without a step leaves the host where it is. -/
theorem Served.eq_of_nil {w w' : σ} {r : ToolResult}
    (hserved : Served h settings inputs t w [] w' r) : w' = w := by
  generalize hsteps : ([] : List Step) = steps at hserved
  cases hserved with
  | gated hgate => exact (hsteps ▸ hgate).eq_of_nil.1
  | no_files hgate _ => exact (hsteps ▸ hgate).eq_of_nil.1
  | worked _ _ hne _ hjob hruns _ =>
    exact absurd hsteps.symm (List.append_ne_nil_of_right_ne_nil _ (worked_ne_nil hne hjob hruns))

/-- **Tools are served without a step** only if none of them has anything to do. -/
theorem idle_of_threaded_nil {ts : List Tool} {w w' : σ} {rs : List ToolResult} {steps : List Step}
    (hserved : Sequence.Threaded (Served h settings inputs) ts w steps w' rs) (hsteps : steps = []) :
    ∀ t ∈ ts, Idle h settings inputs w t := by
  induction hserved with
  | nil => exact fun t ht => absurd ht List.not_mem_nil
  | cons hfirst _ ih =>
    obtain ⟨rfl, rfl⟩ := List.append_eq_nil_iff.1 hsteps
    have hidle := hfirst.nil_iff.1 rfl
    obtain rfl := hfirst.eq_of_nil
    exact List.forall_mem_cons.2 ⟨hidle, ih rfl⟩

/-- A tool that has nothing to do is served in the session it is found in. -/
theorem serve_of_idle {options : Options} (hoptions : settings.optionsFor t.spec = .ok options)
    (hidle : Idle h settings req.inputs s.world t) : ∃ r, serve h settings req t s = (.ok r, s) := by
  have hcheck : Version.check h t.spec settings.versionSeconds s = (none, s) := by
    rw [check_eq_gate, gate_of_undeclared hidle.unasked]
    rfl
  have hserve := serve_of_passes hoptions hcheck hidle.no_files
  rw [if_pos rfl] at hserve
  exact ⟨_, hserve⟩

/-- So are several of them. -/
theorem mapM_serve_of_idle {ts : List Tool}
    (hoptions : ∀ t ∈ ts, ∃ options, settings.optionsFor t.spec = .ok options)
    (hidle : ∀ t ∈ ts, Idle h settings req.inputs s.world t) :
    ∃ rs, ts.mapM (serve h settings req) s = (.ok rs, s) := by
  induction ts with
  | nil => exact ⟨[], rfl⟩
  | cons t ts ih =>
    rw [List.forall_mem_cons] at hoptions hidle
    obtain ⟨options, ht⟩ := hoptions.1
    obtain ⟨r, hr⟩ := serve_of_idle ht hidle.1
    obtain ⟨rs, hrs⟩ := ih hoptions.2 hidle.2
    exact ⟨r :: rs, mapM_cons_eq_ok_iff.2 ⟨r, s, rs, hr, hrs, rfl⟩⟩

end Execution

end Multilint
