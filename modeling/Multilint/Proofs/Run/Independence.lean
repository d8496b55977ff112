import Multilint.Proofs.Run.Strictness
/-!
# Tools do not influence each other

On a steady host, whose answers depend on the call alone and whose files stay as they are, a dialogue gives
the same whenever it is held (`Dialogue.repeats`). So a tool is served with the same result wherever it
stands in a schedule, and that is the result of a run that names it alone (`result_alone`). Another request
changes the result of a tool only where the tool gives way to a conflict.
-/

namespace Multilint

/-- **A steady host** answers a call in the same way at any time, and no call changes its files. -/
structure Host.Steady {σ : Type} (h : Host σ) : Prop where
  /-- The outcome depends on the call alone. -/
  answer : ∀ c w w', (h.call c w).1 = (h.call c w').1
  /-- The files stay as they are. -/
  tree : ∀ c w, h.tree (h.call c w).2 = h.tree w

variable {σ α : Type} {h : Host σ} {box : Toolbox} {req req' : Request} {settings : RunSettings}
variable {s s' s₁ s₁' : Session σ} {t : Tool} {r r' : ToolResult}

/-- **A dialogue with a steady host repeats itself**: wherever the files are the same it gives the same, and
it leaves them as they are. -/
theorem Dialogue.repeats {P : Call → Prop} {m : Calling σ α} (hsteady : h.Steady)
    (hm : Dialogue h P m) (hfiles : h.tree s.world = h.tree s'.world) :
    (m s).1 = (m s').1 ∧ h.tree (m s).2.world = h.tree s.world := by
  induction hm generalizing s s' with
  | pure a => exact ⟨rfl, rfl⟩
  | ask _ => exact ⟨hsteady.answer _ _ _, hsteady.tree _ _⟩
  | files => exact ⟨hfiles, rfl⟩
  | @bind α β m k _ _ ihm ihk =>
    obtain ⟨hsame, htree⟩ := ihm hfiles
    obtain ⟨-, htree'⟩ := ihm hfiles.symm
    -- what follows starts from the same value, in sessions with the same files
    have hfiles' : h.tree (m s).2.world = h.tree (m s').2.world := by rw [htree, hfiles, htree']
    obtain ⟨hsame', hkeep⟩ := ihk (m s).1 hfiles'
    refine ⟨?_, hkeep.trans htree⟩
    have hs : (m >>= k) s = k (m s).1 (m s).2 := rfl
    have hs' : (m >>= k) s' = k (m s').1 (m s').2 := rfl
    rw [hs, hs', hsame', hsame]

namespace Execution

/-! ## One tool -/

/-- **A tool is served alike** wherever the files are the same, and they stay so. -/
theorem serve_repeats (hsteady : h.Steady) (hr : serve h settings req t s = (.ok r, s'))
    (hfiles : h.tree s₁.world = h.tree s.world) :
    h.tree s'.world = h.tree s.world ∧ ∃ s₂, serve h settings req t s₁ = (.ok r, s₂) := by
  obtain ⟨hsame, htree⟩ := (dialogue_serve h settings req t).repeats hsteady hfiles.symm
  have hrun : (serve h settings req t).run s = (.ok r, s') := hr
  rw [hrun] at hsame htree
  exact ⟨htree, (serve h settings req t s₁).2, Prod.ext hsame.symm rfl⟩

/-- A tool that is served in a strict run is served in the same way in a lenient one. -/
theorem serve_lenient (hr : serve h settings req t s = (.ok r, s')) :
    serve h settings { req with strict := false } t s = (.ok r, s') := by
  rw [serve, bind_eq_ok_iff] at hr
  obtain ⟨p, s₁, hp, hr⟩ := hr
  refine bind_eq_ok_iff.2 ⟨p, s₁, hp, ?_⟩
  cases p with
  | ready job => exact hr
  | done result =>
    dsimp only at hr
    split at hr
    · cases hr
    · exact hr

/-- **What a request says about other tools does not matter to a tool that is served**: it reads the inputs,
and whether the run is strict. -/
theorem serve_congr (hinputs : req.inputs = req'.inputs) (hstrict : req.strict = req'.strict) :
    serve h settings req t = serve h settings req' t := by
  rw [serve, serve, hinputs, hstrict]

/-- Two runs on the same files that serve a tool serve it with the same result. -/
theorem serve_unique (hsteady : h.Steady) (hinputs : req.inputs = req'.inputs)
    (hr : serve h settings req t s = (.ok r, s')) (hr' : serve h settings req' t s₁ = (.ok r', s₁'))
    (hfiles : h.tree s₁.world = h.tree s.world) : r = r' := by
  obtain ⟨-, s₂, hsame⟩ := serve_repeats hsteady (serve_lenient hr) hfiles
  have heq : serve h settings { req with strict := false } t =
      serve h settings { req' with strict := false } t := serve_congr hinputs rfl
  rw [heq, serve_lenient hr'] at hsame
  exact (Except.ok.inj (Prod.mk.inj hsame).1).symm

/-! ## The tools of a schedule -/

/-- **Each tool of a schedule has a result that it has on its own**: it is served with it wherever the files
are those of the start. -/
theorem forall₂_of_mapM_serve (hsteady : h.Steady) {ts : List Tool} {rs : List ToolResult}
    (hrs : ts.mapM (serve h settings req) s = (.ok rs, s')) :
    List.Forall₂ (fun t r => r.name = t.name ∧ ∀ s₁, h.tree s₁.world = h.tree s.world →
      ∃ s₂, serve h settings req t s₁ = (.ok r, s₂)) ts rs := by
  induction ts generalizing s rs with
  | nil =>
    obtain ⟨rfl, -⟩ := pure_eq_ok_iff.1 hrs
    exact .nil
  | cons t ts ih =>
    obtain ⟨r, s₂, rs', hr, hrs', rfl⟩ := mapM_cons_eq_ok_iff.1 hrs
    obtain ⟨hkeep, -⟩ := serve_repeats hsteady hr rfl
    obtain ⟨steps, -, hserved⟩ := serve_served hr
    refine .cons ⟨hserved.name, fun s₁ hs₁ => (serve_repeats hsteady hr hs₁).2⟩ ?_
    -- the tools behind it start with the same files
    have hrest := ih hrs'
    rwa [hkeep] at hrest

end Execution

open Execution

/-! ## A tool alone -/

/-- **One identity is scheduled as the tool it means**, with nothing that could conflict with it. -/
theorem Schedule.ofRequest_alone (hbox : box.Built) (ht : t ∈ box.tools) {id : String}
    (hid : toolId t.name = toolId id) (ignoreConflicts : Bool) :
    ofRequest box [id] ignoreConflicts = .ok ⟨[t], []⟩ := by
  have hget : box.get id = .ok t := hbox.get_eq_ok_iff.2 ⟨ht, hid⟩
  have hids : ∀ i ∈ [id], box.contains i = true := by
    intro i hi
    obtain rfl := List.mem_singleton.1 hi
    exact Toolbox.contains_iff_get.2 ⟨t, hget⟩
  obtain ⟨ranked, hranked, hmem, hrequest⟩ := exists_ranked hbox hids
  have hone : ranked = [t] := by
    refine hranked.eq_of_mem_iff (List.pairwise_singleton _ t) fun u => ?_
    rw [hmem, Asked, List.mem_singleton]
    constructor
    · rintro ⟨hu, hnone | ⟨i, hi, heq⟩⟩
      · cases hnone
      · obtain rfl := List.mem_singleton.1 hi
        exact hbox.eq_of_toolId hu ht (heq.trans hid.symm)
    · rintro rfl
      exact ⟨ht, Or.inr ⟨id, List.mem_singleton.2 rfl, hid⟩⟩
  rw [hrequest, hone]
  cases ignoreConflicts <;> rfl

namespace Plan

/-- **A request that names one tool** that can do what is asked is planned as this tool alone. -/
theorem ofRequest_alone (hbox : box.Built) (ht : t ∈ box.tools) {id : String}
    (hid : toolId t.name = toolId id) (hfit : t.spec.supports req.action.isFix = true) :
    ofRequest box { req with tools := [id] } = .ok ⟨[], ⟨[t], []⟩⟩ := by
  have hget : box.get id = .ok t := hbox.get_eq_ok_iff.2 ⟨ht, hid⟩
  have hselect : select box { req with tools := [id] } = .ok ([id], []) := by
    have hnamed : named box [id] = .ok [(id, t)] := by
      rw [named, List.mapM_cons, hget]
      rfl
    rw [select, if_neg (by simp), hnamed]
    simp only [bind, Except.bind, List.filter_cons, hfit]
    rfl
  rw [ofRequest, hselect]
  have hschedule := Schedule.ofRequest_alone hbox ht hid req.ignoreConflicts
  simp only [bind, Except.bind, hschedule]
  rfl

/-- A tool that runs is requested and can do what is asked. -/
theorem Settles.requested_of_ordered {plan : Plan} (hp : Settles box req plan)
    (ht : t ∈ plan.schedule.ordered) :
    Requested box req t ∧ t.spec.supports req.action.isFix = true :=
  (hp.schedule.mem_iff t).1 (List.mem_append_left _ ht)

/-- **A tool that gives way** does so to a requested tool that it conflicts with. -/
theorem Settles.winner_of_dropped {plan : Plan} (hp : Settles box req plan) {d : Dropped}
    (hd : d ∈ plan.schedule.dropped) :
    d.winner ∈ plan.schedule.ordered ∧ d.winner.conflictsWith d.tool = true := by
  have hschedule := hp.schedule
  cases hignore : req.ignoreConflicts with
  | true =>
    rw [hignore] at hschedule
    rw [hschedule.1] at hd
    cases hd
  | false =>
    rw [hignore] at hschedule
    have hwins := Schedule.Kernel.wins hschedule d hd
    exact ⟨hwins.mem, hwins.conflict⟩

end Plan

/-! ## Results and their tools -/

/-- A result is known by its name. -/
theorem ToolResult.eq_iff_of_nodup_name {rs : List ToolResult} (hnodup : (rs.map name).Nodup)
    (hr : r ∈ rs) (q : ToolResult) : q ∈ rs ∧ q.name = r.name ↔ q = r := by
  constructor
  · rintro ⟨hq, hname⟩
    exact List.inj_on_of_nodup_map hnodup hq hr hname
  · rintro rfl
    exact ⟨hr, rfl⟩

/-- **The result of a tool of the schedule** is the only one of its name, and the tool is served with it
wherever the files are those of the start. -/
theorem exists_result_of_ordered (hbox : box.Built) (hsteady : h.Steady) {report : Report}
    (hrun : run h box req settings s = (.ok report, s')) {plan : Plan}
    (hplan : Plan.ofRequest box req = .ok plan) (ht : t ∈ plan.schedule.ordered) :
    ∃ r, (∀ q, q ∈ report.results ∧ q.name = t.name ↔ q = r) ∧
      ∀ s₁, h.tree s₁.world = h.tree s.world → ∃ s₂, serve h settings req t s₁ = (.ok r, s₂) := by
  have hnodup := (run_one_result_each hbox hrun).1
  obtain ⟨plan', ran, hplan', -, hran, rfl⟩ := run_eq_ok_iff.1 hrun
  obtain rfl := Except.ok.inj (hplan.symm.trans hplan')
  obtain ⟨r, hr, hname, hserve⟩ :=
    Sequence.exists_of_mem_right (forall₂_of_mapM_serve hsteady hran).flip ht
  have hmem : r ∈ plan.unfit.map (Plan.unfitResult req.action) ++ ran ++
      plan.schedule.dropped.map Plan.droppedResult :=
    List.mem_append_left _ (List.mem_append_right _ hr)
  refine ⟨r, fun q => ?_, hserve⟩
  rw [← hname]
  exact ToolResult.eq_iff_of_nodup_name hnodup hmem q

/-- **The result of a tool that gives way** says so, and is the only one of its name. -/
theorem result_of_dropped (hbox : box.Built) {report : Report}
    (hrun : run h box req settings s = (.ok report, s')) {plan : Plan}
    (hplan : Plan.ofRequest box req = .ok plan) {d : Dropped} (hd : d ∈ plan.schedule.dropped)
    (q : ToolResult) :
    q ∈ report.results ∧ q.name = d.tool.name ↔ q = Plan.droppedResult d := by
  have hnodup := (run_one_result_each hbox hrun).1
  obtain ⟨plan', ran, hplan', -, -, rfl⟩ := run_eq_ok_iff.1 hrun
  obtain rfl := Except.ok.inj (hplan.symm.trans hplan')
  have hmem : Plan.droppedResult d ∈ plan.unfit.map (Plan.unfitResult req.action) ++ ran ++
      plan.schedule.dropped.map Plan.droppedResult :=
    List.mem_append_right _ (List.mem_map_of_mem hd)
  exact ToolResult.eq_iff_of_nodup_name hnodup hmem q

/-- **Tools do not influence each other.** On a steady host, each tool of the schedule of a run has one
result, and it is the single result of the run that names the tool alone, in any spelling, and is otherwise
the same, wherever the files are the same. Any other request for the same files and the same work that
asks for the tool gives it this result too, unless the tool gives way to another requested tool that it
conflicts with. -/
theorem result_alone (hbox : box.Built) (hsteady : h.Steady) {report : Report}
    (hrun : run h box req settings s = (.ok report, s')) :
    ∃ plan, Plan.ofRequest box req = .ok plan ∧ ∀ t ∈ plan.schedule.ordered,
      ∃ r, (∀ q, q ∈ report.results ∧ q.name = t.name ↔ q = r) ∧
        (∀ s₁, h.tree s₁.world = h.tree s.world → ∀ id, toolId t.name = toolId id →
          ∃ s₂, run h box { req with tools := [id] } settings s₁ = (.ok ⟨req.action, [r]⟩, s₂)) ∧
        ∀ req' s₁ report' s₁', req'.inputs = req.inputs → req'.action = req.action →
          h.tree s₁.world = h.tree s.world → Plan.Requested box req' t →
          run h box req' settings s₁ = (.ok report', s₁') →
          (∀ q, q ∈ report'.results ∧ q.name = t.name ↔ q = r) ∨
            ∃ w, Plan.Requested box req' w ∧ w.conflictsWith t = true ∧
              ∀ q, q ∈ report'.results ∧ q.name = t.name ↔ q = Plan.droppedResult ⟨t, w⟩ := by
  obtain ⟨plan, ran, hplan, hvalid, -, -⟩ := run_eq_ok_iff.1 hrun
  refine ⟨plan, hplan, fun t ht => ?_⟩
  have hsettles : Plan.Settles box req plan := Plan.settles_of_ofRequest hbox hplan
  obtain ⟨⟨htool, -⟩, hfit⟩ := hsettles.requested_of_ordered ht
  obtain ⟨r, hr, hserve⟩ := exists_result_of_ordered hbox hsteady hrun hplan ht
  refine ⟨r, hr, fun s₁ hs₁ id hid => ?_, fun req' s₁ report' s₁' hinputs haction hs₁ hasked hrun' => ?_⟩
  · -- the tool is the whole schedule, and its options fit as they did before
    obtain ⟨s₂, hserve₁⟩ := hserve s₁ hs₁
    have hplan' : Plan.ofRequest box { req with tools := [id] } = .ok ⟨[], ⟨[t], []⟩⟩ :=
      Plan.ofRequest_alone hbox htool hid hfit
    have hoptions := validate_eq_ok_iff.1 hvalid t ht
    have hvalid' : Plan.validate ⟨[], ⟨[t], []⟩⟩ settings = .ok () := by
      refine validate_eq_ok_iff.2 fun u hu => ?_
      obtain rfl := List.mem_singleton.1 hu
      exact hoptions
    refine ⟨s₂, run_eq_ok_iff.2 ⟨_, [r], hplan', hvalid', ?_, rfl⟩⟩
    exact mapM_cons_eq_ok_iff.2 ⟨r, s₂, [], hserve₁, rfl, rfl⟩
  · obtain ⟨plan', ran', hplan', -, -, -⟩ := run_eq_ok_iff.1 hrun'
    have hsettles' : Plan.Settles box req' plan' := Plan.settles_of_ofRequest hbox hplan'
    rw [← haction] at hfit
    rcases List.mem_append.1 ((hsettles'.schedule.mem_iff t).2 ⟨hasked, hfit⟩) with ht' | ht'
    · -- it is served in both runs
      obtain ⟨r', hr', hserve'⟩ := exists_result_of_ordered hbox hsteady hrun' hplan' ht'
      obtain ⟨s₂, hone⟩ := hserve s₁ hs₁
      obtain ⟨s₃, htwo⟩ := hserve' s₁ rfl
      obtain rfl := serve_unique hsteady hinputs.symm hone htwo rfl
      exact Or.inl hr'
    · obtain ⟨d, hd, rfl⟩ := List.mem_map.1 ht'
      obtain ⟨hwinner, hconflict⟩ := hsettles'.winner_of_dropped hd
      refine Or.inr ⟨d.winner, (hsettles'.requested_of_ordered hwinner).1, hconflict, ?_⟩
      exact result_of_dropped hbox hrun' hplan' hd

theorem built_demandingBox : demandingBox.Built := by
  have hquick := Toolbox.Built.empty.concat (fixer "quick" 3 true [] 0).spec Schedule.idleAdapter
    (by decide)
  have hslow := hquick.concat (demanding "slow" 2 [] 1).spec Schedule.idleAdapter (by decide)
  have hslower := hslow.concat (demanding "slower" 1 [] 2).spec Schedule.idleAdapter (by decide)
  exact hslower.concat (demanding "meek" 0 ["slow"] 3).spec Schedule.idleAdapter (by decide)

theorem steady_emptyHost : emptyHost.Steady :=
  ⟨fun _ _ _ => rfl, fun _ _ => rfl⟩

/-- The last tool that is asked in a run of four is stopped at the gate there as it is alone. -/
theorem result_alone_slower : demandingBox.Built ∧ emptyHost.Steady ∧ ∃ report s',
    run emptyHost demandingBox { action := .fix, strict := false } { fix := true } ⟨(), []⟩ =
      (.ok report, s') ∧
    ∃ r s₂, r.isVersionSkip = true ∧ (∀ q, q ∈ report.results ∧ q.name = "slower" ↔ q = r) ∧
      run emptyHost demandingBox { tools := ["SLOWER"], action := .fix, strict := false }
        { fix := true } ⟨(), []⟩ = (.ok ⟨.fix, [r]⟩, s₂) := by
  refine ⟨built_demandingBox, steady_emptyHost, _, _, run_demanding, ?_⟩
  obtain ⟨plan, hplan, hall⟩ := result_alone built_demandingBox steady_emptyHost run_demanding
  obtain rfl := Except.ok.inj (plan_demanding.symm.trans hplan)
  obtain ⟨r, hr, halone, -⟩ := hall (demanding "slower" 1 [] 2) (by simp)
  obtain ⟨s₂, hrun⟩ := halone ⟨(), []⟩ rfl "SLOWER" (by decide)
  refine ⟨r, s₂, ?_, hr, hrun⟩
  have heq := (hr (Version.skippedResult (demanding "slower" 1 [] 2).spec .timeout)).1
    ⟨by simp, rfl⟩
  rw [← heq]
  rfl

end Multilint
