import Multilint.Proofs.Run.Independence
import Multilint.Proofs.Settings.Listed
/-!
# Tools that are switched off

A settings file switches a tool off by a section under any spelling of its name. Where the command line names
no tools, what is left of a list names none of those, and the request of an empty list leaves them out, so
that a tool that is switched off is not requested either way (`on_of_requested`). What is not requested is
not scheduled: a run does not call it, has no result for it, and lets no other tool give way to it.
-/

namespace Multilint

open Execution

variable {σ : Type} {h : Host σ} {box : Toolbox} {rs : RunSettings} {s s' : Session σ}
variable {req : Request} {report : Report} {r : ToolResult}

/-- **A result that is skipped for a conflict** is the one of a tool that gives way, and names the tool it
gives way to. -/
theorem exists_dropped_of_conflict {plan : Plan} {winner : String}
    (hrun : run h box req rs s = (.ok report, s')) (hplan : Plan.ofRequest box req = .ok plan)
    (hr : r ∈ report.results) (hskip : r.skip = some (.conflict winner)) :
    ∃ d ∈ plan.schedule.dropped, d.tool.name = r.name ∧ d.winner.name = winner := by
  obtain ⟨plan', steps, ran, hplan', -, hserved, rfl⟩ := run_served hrun
  obtain rfl := Except.ok.inj (hplan.symm.trans hplan')
  rcases List.mem_append.1 hr with hr | hr
  · rcases List.mem_append.1 hr with hr | hr
    · obtain ⟨t, -, rfl⟩ := List.mem_map.1 hr
      cases hskip
    · obtain ⟨t, -, w, part, w', hpart⟩ := Sequence.exists_of_mem_right hserved.forall₂ hr
      exact absurd hskip hpart.no_conflict
  · obtain ⟨d, hd, rfl⟩ := List.mem_map.1 hr
    obtain ⟨rfl⟩ := Option.some.inj hskip
    exact ⟨d, hd, rfl, rfl⟩

namespace Settings

variable {tree : FileTree} {dir : Path} {o : Overrides} {environment : Option String}
variable {settings : Settings} {f : SettingsFile} {inputs : List String} {action : Action}
variable {t : Tool} {id : String} {sec : ToolSection}

/-- A section that says so switches a tool off. -/
theorem switchesOff_of_section (hsec : (id, sec) ∈ f.tool) (hoff : sec.enabled = some false)
    {name : String} (hname : toolId name = toolId id) : f.SwitchesOff name := by
  have hid : id ∈ disabledIn f := by
    refine List.mem_map.2 ⟨(id, sec), List.mem_filter.2 ⟨hsec, ?_⟩, rfl⟩
    exact decide_eq_true hoff
  exact ⟨id, hid, hname.symm⟩

section Requested

variable (hresolve : resolve tree dir o environment = .ok settings)
  (hload : SettingsFile.load tree dir settings.root = .ok f) (hcli : o.tools = none)

include hresolve hload hcli

/-- **Only tools that are on are requested**, whether the file lists them or not. -/
theorem on_of_requested (ht : Plan.Requested box (settings.request inputs action) t) :
    ¬ f.SwitchesOff t.name := by
  obtain ⟨htools, hdisabled⟩ := @request_of_resolve _ _ _ _ _ _ inputs action hresolve hload
  obtain ⟨-, ⟨-, -, hon⟩ | ⟨id, hid, heq⟩⟩ := ht
  · -- a request without names leaves out what is switched off
    rintro ⟨d, hd, hname⟩
    rw [hdisabled] at hon
    exact hon d hd hname
  · -- one with names has what is left of the list
    rw [htools] at hid
    cases hlisted : f.tools with
    | none =>
      rw [toolsFor, hcli, hlisted] at hid
      cases hid
    | some listed =>
      obtain ⟨-, hon⟩ := (mem_toolsFor_iff hcli hlisted).1 hid
      exact mt (SettingsFile.switchesOff_congr heq).1 hon

/-- So only these are scheduled. -/
theorem on_of_ordered (hbox : box.Built) {plan : Plan}
    (hplan : Plan.ofRequest box (settings.request inputs action) = .ok plan)
    (ht : t ∈ plan.schedule.ordered) : t ∈ box.tools ∧ ¬ f.SwitchesOff t.name := by
  have hsettles := Plan.settles_of_ofRequest hbox hplan
  obtain ⟨hrequested, -⟩ := hsettles.requested_of_ordered ht
  exact ⟨hrequested.1, on_of_requested hresolve hload hcli hrequested⟩

end Requested

/-- **A tool that is switched off never runs** unless the command line names tools. Whatever comes of the
run, each call it makes is one of a tool with another identity than that of the section. If the run has a
report, no result has this identity, and none gives way to a tool that has it. -/
theorem switched_off_never_runs (hbox : box.Built)
    (hresolve : resolve tree dir o environment = .ok settings)
    (hload : SettingsFile.load tree dir settings.root = .ok f) (hcli : o.tools = none)
    (hsec : (id, sec) ∈ f.tool) (hoff : sec.enabled = some false) {outcome : Except Failure Report}
    (hrun : run h box (settings.request inputs action) rs s = (outcome, s')) :
    (∃ x, s'.log = s.log ++ x ∧
      ∀ e ∈ x, ∃ t ∈ box.tools, toolId t.name ≠ toolId id ∧ t.Calls e.call) ∧
    ∀ report, outcome = .ok report → ∀ r ∈ report.results, toolId r.name ≠ toolId id ∧
      ∀ winner, r.skip = some (.conflict winner) → toolId winner ≠ toolId id := by
  refine ⟨?_, ?_⟩
  · obtain ⟨x, hlog, hx⟩ := (dialogue_run h rs box (settings.request inputs action)).exists_log s
    have hs' : (run h box (settings.request inputs action) rs).run s = (outcome, s') := hrun
    rw [hs'] at hlog
    refine ⟨x, hlog, fun e he => ?_⟩
    obtain ⟨plan, hplan, t, ht, hcall⟩ := hx e he
    obtain ⟨htool, hon⟩ := on_of_ordered hresolve hload hcli hbox hplan ht
    exact ⟨t, htool, fun heq => hon (switchesOff_of_section hsec hoff heq), hcall⟩
  · rintro report rfl r hr
    refine ⟨fun heq => ?_, fun winner hskip heq => ?_⟩
    · obtain ⟨t, ht, hname⟩ := (mem_map_name_iff_of_run hbox hrun).1 (List.mem_map_of_mem hr)
      rw [← hname] at heq
      exact on_of_requested hresolve hload hcli ht (switchesOff_of_section hsec hoff heq)
    · -- the tool it gives way to would run
      obtain ⟨plan, -, hplan, -⟩ := run_eq_ok_iff.1 hrun
      obtain ⟨d, hd, -, rfl⟩ := exists_dropped_of_conflict hrun hplan hr hskip
      have hwinner := (Plan.settles_of_ofRequest hbox hplan).winner_of_dropped hd
      obtain ⟨-, hon⟩ := on_of_ordered hresolve hload hcli hbox hplan hwinner.1
      exact hon (switchesOff_of_section hsec hoff heq)

/-- A list of two tools, the higher of which is switched off under other spellings. -/
def highOff : String :=
  "tools = [\"low\", \"high\"]\n[tool.HIGH]\nenabled = false\n"

/-- The tool that would give way runs where the one it would give way to is off. -/
theorem switched_off_never_runs_high_off : fixers.Built ∧
    ∃ settings f sec report s', resolve (configured highOff) Path.root {} none = .ok settings ∧
      SettingsFile.load (configured highOff) Path.root settings.root = .ok f ∧
      ("HIGH", sec) ∈ f.tool ∧ sec.enabled = some false ∧
      run emptyHost fixers (settings.request [] .fix) { fix := true } ⟨(), []⟩ = (.ok report, s') ∧
      report.results.map ToolResult.name = ["low"] ∧
      (∀ e ∈ s'.log, ∃ t ∈ fixers.tools, toolId t.name ≠ toolId "HIGH" ∧ t.Calls e.call) ∧
      ∀ r ∈ report.results, toolId r.name ≠ toolId "HIGH" ∧
        ∀ winner, r.skip = some (.conflict winner) → toolId winner ≠ toolId "HIGH" := by
  obtain ⟨settings, f, hresolve, hload, hrequest, -, hdisabled⟩ :=
    @resolve_configured highOff { tools := ["low"], disabled := ["HIGH"], action := .fix }
      (some ["low", "high"], ["HIGH"]) (by decide +kernel) (by decide +kernel)
  have hoff : "HIGH" ∈ disabledIn f := by
    rw [hdisabled]
    exact List.mem_singleton.2 rfl
  obtain ⟨⟨id, sec⟩, hsec, rfl⟩ := List.mem_map.1 hoff
  obtain ⟨hsec, henabled⟩ := List.mem_filter.1 hsec
  have henabled' : sec.enabled = some false := of_decide_eq_true henabled
  have hrun := @run_fixer ["low"] ["HIGH"] ["High"] "low" 1 0 rfl rfl
  rw [← hrequest] at hrun
  obtain ⟨⟨x, hlog, hcalls⟩, hresults⟩ := switched_off_never_runs built_fixers hresolve hload rfl
    hsec henabled' hrun
  rw [List.nil_append] at hlog
  refine ⟨built_fixers, settings, f, sec, _, _, hresolve, hload, hsec, henabled', hrun, rfl, ?_,
    hresults _ rfl⟩
  rw [hlog]
  exact hcalls

end Settings

end Multilint
