import Multilint.Settings.Resolution
import Multilint.Proofs.Run.Results
/-!
# The tools a settings file lists

A settings file may list the tools to run and switch tools off. What a run is asked for is the listed tools
that are not switched off (`mem_toolsFor_iff`), but where that leaves none, the request names none, and a
request without names asks for every tool that can do the work (`requested_iff_of_all_off`).
`results_listed_iff` says when the results of a run stay within the list.
-/

namespace Multilint

/-- **A settings file switches a tool off** under some spelling of its name. -/
def SettingsFile.SwitchesOff (f : SettingsFile) (name : String) : Prop :=
  ∃ d ∈ Settings.disabledIn f, toolId d = toolId name

theorem SettingsFile.switchesOff_congr {f : SettingsFile} {a b : String} (h : toolId a = toolId b) :
    f.SwitchesOff a ↔ f.SwitchesOff b := by
  rw [SwitchesOff, SwitchesOff, h]

namespace Settings

variable {σ : Type} {h : Host σ} {box : Toolbox} {rs : RunSettings} {s s' : Session σ}
variable {tree : FileTree} {dir : Path} {o : Overrides} {environment : Option String}
variable {settings : Settings} {f : SettingsFile} {listed inputs : List String} {action : Action}
variable {report : Report} {t : Tool} {id : String}

/-! ## What is asked for -/

/-- **The listed tools that are not switched off** are the ones that are named. -/
theorem mem_toolsFor_iff (hcli : o.tools = none) (hlisted : f.tools = some listed) :
    id ∈ toolsFor o f ↔ id ∈ listed ∧ ¬ f.SwitchesOff id := by
  rw [toolsFor, hcli, hlisted, List.mem_filter, Bool.not_eq_true', ← Bool.not_eq_true,
    List.any_eq_true]
  simp only [SettingsFile.SwitchesOff, decide_eq_true_eq]

/-- The request of resolved settings names and leaves out what the file says. -/
theorem request_of_resolve (hresolve : resolve tree dir o environment = .ok settings)
    (hload : SettingsFile.load tree dir settings.root = .ok f) :
    (settings.request inputs action).tools = toolsFor o f ∧
      (settings.request inputs action).disabled = disabledIn f := by
  obtain ⟨g, hg, hmerge⟩ := Sequence.bind_eq_ok_iff.1 hresolve
  obtain rfl := Except.ok.inj hmerge
  obtain rfl : g = f := Except.ok.inj (hg.symm.trans hload)
  exact ⟨rfl, rfl⟩

section Requested

variable {req : Request}

/-- **Some listed tool is on**: those that are listed and on are asked for. -/
theorem requested_iff_of_on (htools : req.tools = toolsFor o f) (hcli : o.tools = none)
    (hlisted : f.tools = some listed) (hon : ∃ id ∈ listed, ¬ f.SwitchesOff id) :
    Plan.Requested box req t ↔ t ∈ box.tools ∧
      (∃ id ∈ listed, toolId t.name = toolId id) ∧ ¬ f.SwitchesOff t.name := by
  have hne : req.tools ≠ [] := by
    obtain ⟨id, hid, hon⟩ := hon
    rw [htools]
    exact List.ne_nil_of_mem ((mem_toolsFor_iff hcli hlisted).2 ⟨hid, hon⟩)
  rw [Plan.Requested, or_iff_right fun h => hne h.1, htools]
  refine and_congr_right fun _ => ?_
  constructor
  · rintro ⟨id, hid, heq⟩
    obtain ⟨hid, hon⟩ := (mem_toolsFor_iff hcli hlisted).1 hid
    exact ⟨⟨id, hid, heq⟩, mt (SettingsFile.switchesOff_congr heq).1 hon⟩
  · rintro ⟨⟨id, hid, heq⟩, hon⟩
    have hon' : ¬ f.SwitchesOff id := mt (SettingsFile.switchesOff_congr heq).2 hon
    exact ⟨id, (mem_toolsFor_iff hcli hlisted).2 ⟨hid, hon'⟩, heq⟩

/-- **No listed tool is on**: the request is that of a file without a list. -/
theorem requested_iff_of_all_off (htools : req.tools = toolsFor o f)
    (hdisabled : req.disabled = disabledIn f) (hcli : o.tools = none)
    (hlisted : f.tools = some listed) (hoff : ∀ id ∈ listed, f.SwitchesOff id) :
    Plan.Requested box req t ↔ t ∈ box.tools ∧
      t.spec.supports req.action.isFix = true ∧ ¬ f.SwitchesOff t.name := by
  have hempty : req.tools = [] := by
    rw [htools, List.eq_nil_iff_forall_not_mem]
    intro id hid
    obtain ⟨hid, hon⟩ := (mem_toolsFor_iff hcli hlisted).1 hid
    exact hon (hoff id hid)
  rw [Plan.Requested, hempty, hdisabled]
  simp [SettingsFile.SwitchesOff]

end Requested

/-! ## What has a result -/

section Results

variable (hbox : box.Built) (hresolve : resolve tree dir o environment = .ok settings)
  (hload : SettingsFile.load tree dir settings.root = .ok f) (hcli : o.tools = none)
  (hlisted : f.tools = some listed)
  (hrun : run h box (settings.request inputs action) rs s = (.ok report, s'))

include hbox hresolve hload hcli hlisted hrun

/-- Where some listed tool is on, the listed tools that are on have results, and no others. -/
theorem mem_results_iff_of_on (hon : ∃ id ∈ listed, ¬ f.SwitchesOff id) (name : String) :
    name ∈ report.results.map ToolResult.name ↔ ∃ t,
      (t ∈ box.tools ∧ (∃ id ∈ listed, toolId t.name = toolId id) ∧ ¬ f.SwitchesOff t.name) ∧
        t.name = name := by
  obtain ⟨htools, -⟩ := request_of_resolve hresolve hload
  rw [mem_map_name_iff_of_run hbox hrun]
  exact exists_congr fun t => and_congr_left fun _ => requested_iff_of_on htools hcli hlisted hon

/-- Where no listed tool is on, every tool has a result that is on and can do the work. -/
theorem mem_results_iff_of_all_off (hoff : ∀ id ∈ listed, f.SwitchesOff id) (name : String) :
    name ∈ report.results.map ToolResult.name ↔ ∃ t,
      (t ∈ box.tools ∧ t.spec.supports action.isFix = true ∧ ¬ f.SwitchesOff t.name) ∧
        t.name = name := by
  obtain ⟨htools, hdisabled⟩ := request_of_resolve hresolve hload
  rw [mem_map_name_iff_of_run hbox hrun]
  exact exists_congr fun t => and_congr_left fun _ =>
    requested_iff_of_all_off htools hdisabled hcli hlisted hoff

end Results

/-- **The results of a run stay within the list of the settings file** exactly if some listed tool is on, or
no other tool is on that can do the work. Where some listed tool is on, the listed tools that are on have
results, and no others; where none is, every tool has one that is on and can do the work. -/
theorem results_listed_iff (hbox : box.Built)
    (hresolve : resolve tree dir o environment = .ok settings)
    (hload : SettingsFile.load tree dir settings.root = .ok f) (hcli : o.tools = none)
    (hlisted : f.tools = some listed)
    (hrun : run h box (settings.request inputs action) rs s = (.ok report, s')) :
    ((∀ r ∈ report.results, ∃ id ∈ listed, toolId r.name = toolId id) ↔
      (∃ id ∈ listed, ¬ f.SwitchesOff id) ∨
        ∀ t ∈ box.tools, t.spec.supports action.isFix = true → f.SwitchesOff t.name) ∧
    ((∃ id ∈ listed, ¬ f.SwitchesOff id) →
      ∀ name, name ∈ report.results.map ToolResult.name ↔ ∃ t,
        (t ∈ box.tools ∧ (∃ id ∈ listed, toolId t.name = toolId id) ∧ ¬ f.SwitchesOff t.name) ∧
          t.name = name) ∧
    ((∀ id ∈ listed, f.SwitchesOff id) →
      ∀ name, name ∈ report.results.map ToolResult.name ↔ ∃ t,
        (t ∈ box.tools ∧ t.spec.supports action.isFix = true ∧ ¬ f.SwitchesOff t.name) ∧
          t.name = name) := by
  have hon := mem_results_iff_of_on hbox hresolve hload hcli hlisted hrun
  have hoff := mem_results_iff_of_all_off hbox hresolve hload hcli hlisted hrun
  refine ⟨?_, hon, hoff⟩
  by_cases hsome : ∃ id ∈ listed, ¬ f.SwitchesOff id
  · refine iff_of_true (fun r hr => ?_) (Or.inl hsome)
    obtain ⟨t, ⟨-, hin, -⟩, hname⟩ := (hon hsome r.name).1 (List.mem_map_of_mem hr)
    exact hname ▸ hin
  · have hall : ∀ id ∈ listed, f.SwitchesOff id := by simpa using hsome
    rw [or_iff_right hsome]
    constructor
    · -- a tool that is on has a result, and so would be listed and off
      intro hwithin t ht hfit
      by_contra hnot
      obtain ⟨r, hr, hname⟩ := List.mem_map.1 ((hoff hall t.name).2 ⟨t, ⟨ht, hfit, hnot⟩, rfl⟩)
      obtain ⟨id, hid, heq⟩ := hwithin r hr
      rw [hname] at heq
      exact hnot ((SettingsFile.switchesOff_congr heq).2 (hall id hid))
    · intro hnone r hr
      obtain ⟨t, ⟨ht, hfit, hnot⟩, -⟩ := (hoff hall r.name).1 (List.mem_map_of_mem hr)
      exact absurd (hnone t ht hfit) hnot

/-! ## A list and what it leaves -/

/-- A directory with a settings file. -/
def configured (text : String) : FileTree :=
  .dir [("metalint.toml", .file text.toUTF8 false)]

/-- A list of two tools, one of which is switched off. -/
def oneOff : String :=
  "tools = [\"low\", \"high\"]\n[tool.low]\nenabled = false\n"

/-- A list of one tool, which is switched off. -/
def allOff : String :=
  "tools = [\"low\"]\n[tool.low]\nenabled = false\n"

/-- The settings of such a directory, and the request they make. -/
theorem resolve_configured {text : String} {req : Request} {r : Option (List String) × List String}
    (hrequest : ((resolve (configured text) Path.root {} none).toOption.map fun s =>
      (s.root, s.request [] .fix)) = some (Path.root, req))
    (hfile : ((SettingsFile.load (configured text) Path.root Path.root).toOption.map fun f =>
      (f.tools, disabledIn f)) = some r) :
    ∃ settings f, resolve (configured text) Path.root {} none = .ok settings ∧
      SettingsFile.load (configured text) Path.root settings.root = .ok f ∧
      settings.request [] .fix = req ∧ f.tools = r.1 ∧ disabledIn f = r.2 := by
  obtain ⟨settings, hresolve, hsettings⟩ := Sequence.exists_ok_of_map hrequest
  obtain ⟨f, hload, rfl⟩ := Sequence.exists_ok_of_map hfile
  obtain ⟨hroot, hreq⟩ := Prod.mk.inj hsettings
  exact ⟨settings, f, hresolve, by rw [hroot, hload], hreq, rfl, rfl⟩

/-- Of three tools only one is served. -/
theorem run_fixer {names off conflicts : List String} {name : String} {priority : Int} {rank : ℕ}
    (hselect : Plan.select fixers { tools := names, disabled := off, action := .fix } = .ok ([name], []))
    (hts : Schedule.requested fixers [name] = .ok [fixer name priority true conflicts rank]) :
    run emptyHost fixers { tools := names, disabled := off, action := .fix } { fix := true } ⟨(), []⟩ =
      (.ok ⟨.fix, [.message name (Preparation.noFilesMessage [] true)]⟩, ⟨(), []⟩) := by
  have hplan := Plan.ofRequest_of_select _ _ hselect (List.cons_ne_nil _ _) hts (.refl _)
    (List.pairwise_singleton _ _)
  have hfiles : discover (.dir []) Path.root {} [] [] = .ok [] := Discovery.discover_nil rfl
  have hserve : serve emptyHost { fix := true } { tools := names, disabled := off, action := .fix }
      (fixer name priority true conflicts rank) ⟨(), []⟩ =
      (.ok (.message name (Preparation.noFilesMessage [] true)), ⟨(), []⟩) := by
    rw [@Execution.serve_of_passes _ _ _ _ _ _ _ .empty _ rfl rfl hfiles]
    rfl
  exact Execution.run_eq_ok_iff.2 ⟨_, _, hplan, rfl,
    mapM_cons_eq_ok_iff.2 ⟨_, _, [], hserve, rfl, rfl⟩, rfl⟩

/-- It is the highest one. -/
theorem run_high {names off : List String}
    (hselect : Plan.select fixers { tools := names, disabled := off, action := .fix } =
      .ok (["high"], [])) :
    run emptyHost fixers { tools := names, disabled := off, action := .fix } { fix := true } ⟨(), []⟩ =
      (.ok ⟨.fix, [.message "high" (Preparation.noFilesMessage [] true)]⟩, ⟨(), []⟩) :=
  run_fixer hselect rfl

/-- The tool that is off has no result, and the other listed one has. -/
theorem results_listed_iff_one_off : fixers.Built ∧
    ∃ settings f report s', resolve (configured oneOff) Path.root {} none = .ok settings ∧
      SettingsFile.load (configured oneOff) Path.root settings.root = .ok f ∧
      f.tools = some ["low", "high"] ∧
      run emptyHost fixers (settings.request [] .fix) { fix := true } ⟨(), []⟩ = (.ok report, s') ∧
      report.results.map ToolResult.name = ["high"] ∧
      ∀ r ∈ report.results, ∃ id ∈ ["low", "high"], toolId r.name = toolId id := by
  obtain ⟨settings, f, hresolve, hload, hrequest, hlisted, hdisabled⟩ :=
    @resolve_configured oneOff { tools := ["high"], disabled := ["low"], action := .fix }
      (some ["low", "high"], ["low"]) (by decide +kernel) (by decide +kernel)
  have hrun := @run_high ["high"] ["low"] rfl
  rw [← hrequest] at hrun
  have hon : ¬ f.SwitchesOff "high" := by
    rw [SettingsFile.SwitchesOff, hdisabled]
    decide
  have hwithin := (results_listed_iff built_fixers hresolve hload rfl hlisted hrun).1.2
    (Or.inl ⟨"high", by decide, hon⟩)
  exact ⟨built_fixers, settings, f, _, _, hresolve, hload, hlisted, hrun, rfl, hwithin⟩

/-- **A list whose tools are all off is taken for no list**, and a tool that is not on it runs. -/
theorem results_beyond_list :
    ¬ ∀ (h : Host Unit) (box : Toolbox) (rs : RunSettings) (s s' : Session Unit) (tree : FileTree)
      (dir : Path) (o : Overrides) (environment : Option String) (settings : Settings)
      (f : SettingsFile) (listed inputs : List String) (action : Action) (report : Report),
      box.Built → resolve tree dir o environment = .ok settings →
      SettingsFile.load tree dir settings.root = .ok f → o.tools = none → f.tools = some listed →
      listed ≠ [] → run h box (settings.request inputs action) rs s = (.ok report, s') →
      ∀ r ∈ report.results, ∃ id ∈ listed, toolId r.name = toolId id := by
  intro hwithin
  obtain ⟨settings, f, hresolve, hload, hrequest, hlisted, -⟩ :=
    @resolve_configured allOff { disabled := ["low"], action := .fix } (some ["low"], ["low"])
      (by decide +kernel) (by decide +kernel)
  have hrun := @run_high [] ["low"] rfl
  rw [← hrequest] at hrun
  obtain ⟨id, hid, heq⟩ := hwithin _ _ _ _ _ _ _ _ _ _ _ _ _ _ _ built_fixers hresolve hload rfl
    hlisted (List.cons_ne_nil _ _) hrun _ List.mem_cons_self
  obtain rfl := List.mem_singleton.1 hid
  exact absurd heq (by decide)

end Settings

end Multilint
