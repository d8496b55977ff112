import Multilint.Proofs.FileTree.Entries
import Multilint.Proofs.Run.Serving
import Mathlib.Data.List.Nodup
/-!
# The names a tool is given

A tool that is ready works in a directory, on files that are each there once, under the names they have as seen
from the directory (`Job.Prepared`, `prepared_of_ready`). A name is a text with slashes for backslashes. So it leads
to its file again wherever no name on the way down from the directory holds a backslash, and nowhere else
(`names_resolve_back_iff`).
-/

namespace Multilint

/-- **A job as it is prepared.** -/
structure Job.Prepared (job : Job) : Prop where
  /-- The directory is a path from the root. -/
  dir : job.dir.Normal
  /-- So are the files. -/
  files : ∀ f ∈ job.files, f.Normal
  /-- No file is there twice. -/
  nodup : job.files.Nodup
  /-- The names are those that the files have in the directory. -/
  names : job.names = job.files.map fun f => (f.relativeTo job.dir).slashed

namespace Execution

variable {σ : Type} {h : Host σ} {t : Tool} {settings : RunSettings} {inputs : List Path}
variable {s s' : Session σ} {job : Job}

/-! ## Ready tools -/

/-- **A tool is ready** for the files that are found after the gate, if there are any. -/
theorem ready_cases (hp : prepare h settings inputs t s = (.ok (.ready job), s')) :
    ∃ options includes, Discovery.includesOf t.spec.filePatterns = .ok includes ∧
      job = Preparation.jobFor t.spec settings h.dir options
        (Discovery.files (h.tree s'.world) h.dir settings.scope inputs includes) := by
  obtain ⟨-, verdict, options, -, -, -, hcases⟩ := prepare_cases hp
  rcases hcases with ⟨reason, -, hdone⟩ | ⟨files, -, hdiscover, hready⟩
  · cases hdone
  · obtain ⟨includes, hincludes, hfiles⟩ := Sequence.bind_eq_ok_iff.1 hdiscover
    obtain rfl := Except.ok.inj hfiles
    refine ⟨options, includes, hincludes, ?_⟩
    rw [Preparation.ofFiles] at hready
    split at hready
    · cases hready
    · exact Preparation.ready.inj hready

/-- The files of a ready tool are brought in by the inputs. -/
theorem exists_bringsIn_of_ready (hw : (h.tree s'.world).wellFormed = true)
    (hp : prepare h settings inputs t s = (.ok (.ready job), s')) :
    ∀ f ∈ job.files, ∃ p ∈ inputs, Discovery.BringsIn (h.tree s'.world) h.dir settings.scope p f := by
  obtain ⟨options, includes, -, rfl⟩ := ready_cases hp
  exact fun f hf => ((Discovery.mem_files_iff hw).1 hf).2.2

/-- They have no slash in their names, where no entry has. -/
theorem unslashed_of_ready (hw : (h.tree s'.world).wellFormed = true)
    (hu : (h.tree s'.world).Unslashed)
    (hp : prepare h settings inputs t s = (.ok (.ready job), s')) : ∀ f ∈ job.files, f.Unslashed := by
  intro f hf
  obtain ⟨p, -, hin⟩ := exists_bringsIn_of_ready hw hp f hf
  exact hin.unslashed hu

/-- The directory a tool runs in is a path from the root. -/
theorem normal_dirFor {spec : ToolSpec} {root : Path} {files : List Path} (hroot : root.Normal)
    (hfiles : ∀ f ∈ files, f.Normal) : (Preparation.dirFor spec root files).Normal := by
  rw [Preparation.dirFor]
  split
  · exact hroot
  · cases hd : Path.commonParent? files with
    | none => exact hroot
    | some d => exact Path.normal_commonParent? hfiles hd

/-- **What a ready tool works on** is a prepared job. -/
theorem prepared_of_ready (hw : (h.tree s'.world).wellFormed = true)
    (hp : prepare h settings inputs t s = (.ok (.ready job), s')) : job.Prepared := by
  have hfiles : ∀ f ∈ job.files, f.Normal := by
    intro f hf
    obtain ⟨p, -, hin⟩ := exists_bringsIn_of_ready hw hp f hf
    exact hin.normal
  obtain ⟨options, includes, -, rfl⟩ := ready_cases hp
  exact ⟨normal_dirFor (Path.normal_absolute _ _) hfiles, hfiles,
    Discovery.nodup_of_pairwise_names (Discovery.pairwise_files hw), rfl⟩

/-! ## Names lead back -/

/-- **Names lead back to files where there is no backslash.** A ready tool has as many names as files, and a
name joined to the directory resolves to its file exactly if no name on the way to the file holds a backslash.
Where that is so for all files, the names are different, and a tool that is called once for all files is
given what resolves to the files, in their order. -/
theorem names_resolve_back_iff (hw : (h.tree s'.world).wellFormed = true)
    (hu : (h.tree s'.world).Unslashed)
    (hp : prepare h settings inputs t s = (.ok (.ready job), s')) :
    job.names.length = job.files.length ∧
    (∀ (i : ℕ) (f : Path) (n : String), job.files[i]? = some f → job.names[i]? = some n →
      (Path.absolute h.dir (job.dir.join (.ofString n)) = f ↔ (f.relativeTo job.dir).Plain)) ∧
    ((∀ f ∈ job.files, (f.relativeTo job.dir).Plain) → job.names.Nodup ∧
      (t.spec.invocation = .batch → ((units t job).flatMap WorkUnit.args).map
        (fun n => Path.absolute h.dir (job.dir.join (.ofString n))) = job.files)) := by
  have hjob := prepared_of_ready hw hp
  have hback : ∀ f ∈ job.files, (Path.absolute h.dir
      (job.dir.join (.ofString (f.relativeTo job.dir).slashed)) = f ↔ (f.relativeTo job.dir).Plain) :=
    fun f hf => Path.resolves_back_iff (hjob.files f hf) hjob.dir (unslashed_of_ready hw hu hp f hf)
  refine ⟨by rw [hjob.names, List.length_map], fun i f n hf hn => ?_, fun hplain => ?_⟩
  · rw [hjob.names, List.getElem?_map, hf] at hn
    obtain rfl := Option.some.inj hn
    exact hback f (List.mem_of_getElem? hf)
  · have hresolved : job.names.map (fun n => Path.absolute h.dir (job.dir.join (.ofString n))) =
        job.files := by
      rw [hjob.names, List.map_map]
      refine (List.map_congr_left fun f hf => ?_).trans (List.map_id job.files)
      exact (hback f hf).2 (hplain f hf)
    refine ⟨List.Nodup.of_map _ (hresolved ▸ hjob.nodup), fun hbatch => ?_⟩
    have hunits : units t job = [⟨t.name, job.names⟩] := by rw [units, hbatch]
    rw [hunits, List.flatMap_singleton, hresolved]

/-- A tool that is called once for all Python files, in the root of the run. -/
def batchTool : Tool where
  spec := { name := "batch", filePatterns := ["*.py"], invocation := .batch, fromRoot := true }
  adapter :=
    { read := fun _ => .ok []
      columns := []
      checkCommand := fun _ => ["batch"]
      fixCommand := none }
  rank := 0

/-- A host that holds some files and works in `/r`. -/
def holding (tree : FileTree) : Host Unit where
  call := fun _ w => (.completed true "", w)
  tree := fun _ => tree
  dir := .ofNames ["r"]

/-- On such a host the tool is ready for the files that are found. -/
theorem prepare_holding {tree : FileTree} {files : List Path} (hne : files ≠ [])
    (hfiles : discover tree (.ofNames ["r"]) {} inputs ["*.py"] = .ok files) :
    prepare (holding tree) {} inputs batchTool ⟨(), []⟩ =
      (.ok (.ready (Preparation.jobFor batchTool.spec {} (.ofNames ["r"]) .empty files)), ⟨(), []⟩) := by
  have hready : Preparation.ofFiles batchTool.spec {} (.ofNames ["r"]) .empty files =
      .ready (Preparation.jobFor batchTool.spec {} (.ofNames ["r"]) .empty files) := by
    rw [Preparation.ofFiles, if_neg (by simpa using hne)]
  rw [← hready]
  exact prepare_of_passes rfl rfl hfiles

/-- A file in the directory and one beside it. -/
def beside : FileTree :=
  .dir [("r", .dir [("a.py", .file ByteArray.empty false)]), ("b.py", .file ByteArray.empty false)]

/-- The names of a file in the directory and of one beside it lead back to them. -/
theorem names_resolve_back_beside :
    beside.wellFormed = true ∧ beside.Unslashed ∧
      ∃ job, prepare (holding beside) {} [.ofString ".", .ofString "../b.py"] batchTool ⟨(), []⟩ =
          (.ok (.ready job), ⟨(), []⟩) ∧
        job.names = ["../b.py", "a.py"] ∧
        job.names.map (fun n => Path.absolute (.ofNames ["r"]) (job.dir.join (.ofString n))) =
          [.ofNames ["b.py"], .ofNames ["r", "a.py"]] := by
  have hw : beside.wellFormed = true := by decide
  have hleaf := FileTree.unslashed_file ByteArray.empty false
  have hu : beside.Unslashed := by
    refine FileTree.unslashed_dir (List.forall_mem_cons.2 ⟨⟨by decide, ?_⟩,
      List.forall_mem_singleton.2 ⟨by decide, hleaf⟩⟩)
    exact FileTree.unslashed_dir (List.forall_mem_singleton.2 ⟨by decide, hleaf⟩)
  have hfiles : discover beside (.ofNames ["r"]) {} [.ofString ".", .ofString "../b.py"] ["*.py"] =
      .ok [.ofNames ["b.py"], .ofNames ["r", "a.py"]] :=
    Discovery.discover_of_perm (by decide) rfl (by decide) (by decide)
  have hp := prepare_holding (List.cons_ne_nil _ _) hfiles
  obtain ⟨-, -, hplain⟩ := names_resolve_back_iff hw hu hp
  exact ⟨hw, hu, _, hp, by decide, (hplain (by decide)).2 rfl⟩

/-- A file in a directory, and one whose name is spelled like it with a backslash. -/
def twins : FileTree :=
  .dir [("r", .dir [("a", .dir [("b.py", .file ByteArray.empty false)]),
    ("a\\b.py", .file ByteArray.empty false)])]

/-- **A name with a backslash does not lead back.** Two files that differ in a slash and a backslash have the same
name, which leads to the first one. -/
theorem names_of_twins_lead_to_one :
    ¬ ∀ (h : Host Unit) (settings : RunSettings) (inputs : List Path) (t : Tool) (s s' : Session Unit)
        (job : Job), (h.tree s'.world).wellFormed = true → (h.tree s'.world).Unslashed →
      prepare h settings inputs t s = (.ok (.ready job), s') →
      ∀ (i : ℕ) (f : Path) (n : String), job.files[i]? = some f → job.names[i]? = some n →
        Path.absolute h.dir (job.dir.join (.ofString n)) = f := by
  intro hback
  have hw : twins.wellFormed = true := by decide
  have hleaf := FileTree.unslashed_file ByteArray.empty false
  have hu : twins.Unslashed := by
    refine FileTree.unslashed_dir (List.forall_mem_singleton.2 ⟨by decide, ?_⟩)
    refine FileTree.unslashed_dir (List.forall_mem_cons.2 ⟨⟨by decide, ?_⟩,
      List.forall_mem_singleton.2 ⟨by decide, hleaf⟩⟩)
    exact FileTree.unslashed_dir (List.forall_mem_singleton.2 ⟨by decide, hleaf⟩)
  have hfiles : discover twins (.ofNames ["r"]) {} [.ofString "."] ["*.py"] =
      .ok [.ofNames ["r", "a", "b.py"], .ofNames ["r", "a\\b.py"]] :=
    Discovery.discover_of_perm (by decide) rfl (by decide) (by decide)
  have hsecond := hback _ _ _ _ _ _ _ hw hu (prepare_holding (List.cons_ne_nil _ _) hfiles) 1
    (.ofNames ["r", "a\\b.py"]) "a/b.py" rfl (by decide)
  exact absurd hsecond (by decide)

end Execution

end Multilint
