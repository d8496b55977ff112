import Multilint.Proofs.Run.RelativeNames
/-!
# Arguments that look like options

The commands of a job end with the arguments of a unit (`execute_commands`), and these name files. A tool may take
an argument that starts with a hyphen for an option. The path of a file from the root starts with a slash, so this
concerns the tools that are called once for all files and are given names: `optionLike_iff` says which names
start with a hyphen.
-/

namespace Multilint

namespace Execution

variable {σ : Type} {h : Host σ} {t : Tool} {settings : RunSettings} {inputs : List Path}
variable {s s' : Session σ} {job : Job} {u : WorkUnit} {a : String}

/-! ## The commands of a job -/

/-- **A command of a tool**: the one that checks, or the one that mends. -/
def IsCommandOf (t : Tool) (command : Options → List String) : Prop :=
  command = t.adapter.checkCommand ∨ t.adapter.fixCommand = some command

/-- The steps of a unit call commands of the tool with the arguments of the unit. -/
theorem UnitSteps.exists_command {steps : List Step} {st : Step} (hsteps : UnitSteps t job u steps)
    (hst : st ∈ steps) : ∃ command, IsCommandOf t command ∧
      st.toExchange.call.command = command job.options ++ u.args := by
  have hcheck : ∀ o, ∃ command, IsCommandOf t command ∧
      (Step.check t job u o).toExchange.call.command = command job.options ++ u.args :=
    fun o => ⟨_, Or.inl rfl, rfl⟩
  have hmend : ∀ fix o, fixFor t job = some fix → ∃ command, IsCommandOf t command ∧
      (Step.mend t fix job u o).toExchange.call.command = command job.options ++ u.args := by
    intro fix o hfix
    rw [fixFor] at hfix
    split at hfix
    · exact ⟨fix, Or.inr hfix, rfl⟩
    · cases hfix
  cases hsteps with
  | checked _ =>
    obtain rfl := List.mem_singleton.1 hst
    exact hcheck _
  | unmended hfix _ _ =>
    simp only [List.mem_cons, List.not_mem_nil, or_false] at hst
    rcases hst with rfl | rfl
    · exact hcheck _
    · exact hmend _ _ hfix
  | mended hfix _ =>
    simp only [List.mem_cons, List.not_mem_nil, or_false] at hst
    rcases hst with rfl | rfl | rfl
    · exact hcheck _
    · exact hmend _ _ hfix
    · exact hcheck _

/-- **What executing a job calls** are commands of the tool with the arguments of a unit behind them. -/
theorem execute_commands (h : Host σ) (t : Tool) (job : Job) (s : Session σ) :
    ∃ x, (execute h t job s).2.log = s.log ++ x ∧ ∀ e ∈ x, ∃ u ∈ units t job, ∃ command,
      IsCommandOf t command ∧ e.call.command = command job.options ++ u.args := by
  obtain ⟨steps, rs, hlog, -, hruns, -⟩ := execute_steps h t job s
  refine ⟨_, hlog, fun e he => ?_⟩
  obtain ⟨st, hst, rfl⟩ := List.mem_map.1 he
  obtain ⟨u, hu, part, report, -, hworked, hst⟩ := hruns.exists_of_mem hst
  exact ⟨u, hu, hworked.order.exists_command hst⟩

/-! ## The arguments of a unit -/

/-- **An argument that a tool may take for an option**: it starts with a hyphen. -/
def OptionLike (a : String) : Prop := a.toList.head? = some '-'

instance (a : String) : Decidable (OptionLike a) := inferInstanceAs (Decidable (_ = _))

/-- The path of a file from the root does not look like an option. -/
theorem not_optionLike_toString {f : Path} (hf : f.Normal) : ¬ OptionLike f.toString := by
  intro hlike
  rw [OptionLike, Path.toString, if_pos hf.rooted, String.toList_append] at hlike
  exact absurd hlike (by simp)

/-- **Which argument of a prepared job looks like an option.** -/
theorem optionLike_iff (hjob : job.Prepared) (hu : u ∈ units t job) (ha : a ∈ u.args) :
    OptionLike a ↔ t.spec.invocation = .batch ∧ ∃ f ∈ job.files,
      a = (f.relativeTo job.dir).slashed ∧
        ∃ n ns, f.segments = job.dir.segments ++ n :: ns ∧ OptionLike n := by
  rw [units] at hu
  cases hinvocation : t.spec.invocation with
  | perFile =>
    rw [hinvocation] at hu
    obtain ⟨⟨f, n⟩, hf, rfl⟩ := List.mem_map.1 hu
    obtain rfl := List.mem_singleton.1 ha
    have hfile := hjob.files f (List.of_mem_zip hf).1
    exact iff_of_false (not_optionLike_toString hfile) (by simp)
  | project =>
    rw [hinvocation] at hu
    obtain rfl := List.mem_singleton.1 hu
    cases ha
  | batch =>
    rw [hinvocation] at hu
    obtain rfl := List.mem_singleton.1 hu
    change a ∈ job.names at ha
    rw [hjob.names] at ha
    obtain ⟨f, hf, rfl⟩ := List.mem_map.1 ha
    constructor
    · intro hlike
      exact ⟨rfl, f, hf, rfl, (Path.head?_slashed_relativeTo_iff (hjob.files f hf) hjob.dir).1 hlike⟩
    · rintro ⟨-, g, hg, heq, hbelow⟩
      rw [heq]
      exact (Path.head?_slashed_relativeTo_iff (hjob.files g hg) hjob.dir).2 hbelow

/-- **A file name looks like an option only to a tool that is called once for all files.** What executing a ready
job calls are commands of the tool with the arguments of a unit behind them. Such an argument starts with a hyphen
exactly if the tool is called once for all files and the argument is the name of a file that lies in the directory
of the job, at or below an entry whose name starts with a hyphen. -/
theorem arguments_optionLike_iff (hw : (h.tree s'.world).wellFormed = true)
    (hp : prepare h settings inputs t s = (.ok (.ready job), s')) :
    (∀ u ∈ units t job, ∀ a ∈ u.args, (OptionLike a ↔ t.spec.invocation = .batch ∧
      ∃ f ∈ job.files, a = (f.relativeTo job.dir).slashed ∧
        ∃ n ns, f.segments = job.dir.segments ++ n :: ns ∧ OptionLike n)) ∧
    ∀ s₁, ∃ x, (execute h t job s₁).2.log = s₁.log ++ x ∧ ∀ e ∈ x, ∃ u ∈ units t job, ∃ command,
      IsCommandOf t command ∧ e.call.command = command job.options ++ u.args :=
  ⟨fun _ hu _ ha => optionLike_iff (prepared_of_ready hw hp) hu ha, execute_commands h t job⟩

/-- Two files, of which one is called like an option. -/
def hyphened : FileTree :=
  .dir [("r", .dir [("-v.py", .file ByteArray.empty false), ("a.py", .file ByteArray.empty false)])]

theorem discover_hyphened : discover hyphened (.ofNames ["r"]) {} [.ofString "."] ["*.py"] =
    .ok [.ofNames ["r", "-v.py"], .ofNames ["r", "a.py"]] :=
  Discovery.discover_of_perm (by decide) rfl (by decide) (by decide)

/-- Of two files in the directory the tool is given the first one as an option, whatever has been called before. -/
theorem arguments_optionLike_of_hyphened :
    hyphened.wellFormed = true ∧ ∃ job,
      prepare (holding hyphened) {} [.ofString "."] batchTool ⟨(), []⟩ =
        (.ok (.ready job), ⟨(), []⟩) ∧
      units batchTool job = [⟨"batch", ["-v.py", "a.py"]⟩] ∧ OptionLike "-v.py" ∧
      ∀ s₁, ∃ x, (execute (holding hyphened) batchTool job s₁).2.log = s₁.log ++ x ∧
        ∀ e ∈ x, e.call.command = ["batch", "-v.py", "a.py"] := by
  have hw : hyphened.wellFormed = true := by decide
  have hp := prepare_holding (List.cons_ne_nil _ _) discover_hyphened
  obtain ⟨hlike, hcommands⟩ := arguments_optionLike_iff hw hp
  have hunits : units batchTool (Preparation.jobFor batchTool.spec {} (.ofNames ["r"]) .empty
      [.ofNames ["r", "-v.py"], .ofNames ["r", "a.py"]]) = [⟨"batch", ["-v.py", "a.py"]⟩] := by
    decide
  rw [hunits] at hlike hcommands
  refine ⟨hw, _, hp, hunits, ?_, fun s₁ => ?_⟩
  · exact (hlike _ (List.mem_singleton_self _) "-v.py" List.mem_cons_self).2 ⟨rfl, .ofNames ["r", "-v.py"],
      List.mem_cons_self, by decide, "-v.py", [], rfl, by decide⟩
  · obtain ⟨x, hlog, hx⟩ := hcommands s₁
    refine ⟨x, hlog, fun e he => ?_⟩
    obtain ⟨u, hu, command, hcommand, hcall⟩ := hx e he
    obtain rfl := List.mem_singleton.1 hu
    rcases hcommand with rfl | hfix
    · exact hcall
    · cases hfix

/-- **A file name can be an option of a tool.** -/
theorem batch_argument_is_option :
    ¬ ∀ (h : Host Unit) (settings : RunSettings) (inputs : List Path) (t : Tool) (s s' : Session Unit)
        (job : Job), prepare h settings inputs t s = (.ok (.ready job), s') →
      ∀ u ∈ units t job, ∀ a ∈ u.args, ¬ OptionLike a := by
  intro hnone
  have hp := prepare_holding (List.cons_ne_nil _ _) discover_hyphened
  exact hnone _ _ _ _ _ _ _ hp ⟨"batch", ["-v.py", "a.py"]⟩ (by decide) "-v.py" (by decide) (by decide)

end Execution

end Multilint
