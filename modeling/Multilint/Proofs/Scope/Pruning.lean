import Multilint.Proofs.Scope.Discovery
import Multilint.Proofs.Scope.Exclusion
import Multilint.Proofs.Scope.IgnoreFile
import Multilint.Proofs.Sequence
/-!
# Walking to a file and naming it

A walk asks the scope about every directory on the way to a file, while a file that is named is asked
about alone. The two agree as long as what excludes a directory excludes the files in it: an ignore file
does (`ignores_below`), and so does an exclude pattern that is not a glob matching the whole path of the
directory (`excludes_below`). A glob that does match it is lost on the files below, and they are found
only when they are named.
-/

namespace Multilint

namespace Scope

variable {scope : Scope} {raw : List String} {d f : Path}

theorem exists_of_mem_exclusionsOf {es : List Exclusion} {e : Exclusion}
    (h : exclusionsOf raw = .ok es) (he : e ∈ es) : ∃ p, Exclusion.ofText p = .ok e := by
  obtain ⟨p, -, hp⟩ := Sequence.exists_of_mem_mapM h he
  exact ⟨p, hp⟩

/-- **A pattern loses the files below a directory**: it is a glob that matches the whole path of the
directory. -/
def LosesBelow (scope : Scope) (d : Path) : Prop :=
  ∃ e ∈ scope.exclusions, e.MatchesWhole d.slashed

theorem prunes_of_losesBelow (hes : exclusionsOf raw = .ok scope.exclusions)
    (h : scope.LosesBelow d) : scope.prunes d = true := by
  obtain ⟨e, he, hwhole⟩ := h
  obtain ⟨p, hp⟩ := exists_of_mem_exclusionsOf hes he
  have hex : scope.excludes d true = true := by
    rw [excludes, Bool.or_eq_true, List.any_eq_true]
    exact Or.inl ⟨e, he, Exclusion.excludes_of_matchesWhole hp hwhole⟩
  rw [prunes, hex, Bool.or_true]

/-- **A file below a directory that is out of the run is out of it too**, unless a pattern loses it. -/
theorem excludes_of_prunes (hes : exclusionsOf raw = .ok scope.exclusions)
    (hdeps : scope.dependencies = true) (hf : f.Normal) (hne : d.segments ≠ []) (h : d.Above f)
    (hd : scope.prunes d = true) : scope.excludes f false = true ∨ scope.LosesBelow d := by
  obtain ⟨x, hx⟩ := Path.slashed_of_above h hne
  obtain ⟨y, hy⟩ := Path.slashed_of_rooted (h.normal hf).rooted
  simp only [prunes, hdeps, Bool.not_true, Bool.false_and, Bool.false_or, excludes, Bool.or_eq_true,
    List.any_eq_true, Option.any_eq_true] at hd ⊢
  rcases hd with ⟨e, he, hex⟩ | ⟨i, hi, hig⟩
  · obtain ⟨p, hp⟩ := exists_of_mem_exclusionsOf hes he
    rcases Exclusion.excludes_below hp (by rw [hy]; rfl) hx hex with hex | hwhole
    · exact Or.inl (Or.inl ⟨e, he, hex⟩)
    · exact Or.inr ⟨e, he, hwhole⟩
  · exact Or.inl (Or.inr ⟨i, hi, IgnoreFile.ignores_below hx hig⟩)

end Scope

namespace Discovery

variable {tree : FileTree} {dir d f : Path} {scope : Scope} {inputs : List Path}
variable {raw patterns : List String}

/-- **A run lists a file.** -/
def Lists (tree : FileTree) (dir : Path) (scope : Scope) (inputs : List Path)
    (patterns : List String) (f : Path) : Prop :=
  ∃ found, discover tree dir scope inputs patterns = .ok found ∧ f ∈ found

theorem lists_iff (hw : tree.wellFormed = true) :
    Lists tree dir scope inputs patterns f ↔
      (∃ includes, includesOf patterns = .ok includes ∧ Included includes f) ∧
        scope.excludes f false = false ∧ ∃ p ∈ inputs, BringsIn tree dir scope p f := by
  rw [Lists]
  cases hi : includesOf patterns with
  | error e =>
    have herr : discover tree dir scope inputs patterns = .error e := by
      rw [discover, hi]
      rfl
    simp [herr]
  | ok includes =>
    rw [discover_eq hi]
    simp only [Except.ok.injEq, exists_eq_left', mem_files_iff hw]

/-- A file that is named is brought in. -/
theorem bringsIn_self (hf : f.Normal) (hfile : tree.isFile dir f = true) :
    BringsIn tree dir scope f f :=
  Or.inl ⟨hfile, (Path.absolute_of_normal dir hf).symm⟩

theorem isFile_root (hf : f.Normal) : tree.isFile dir f = tree.isFile Path.root f := by
  simp only [FileTree.isFile, FileTree.resolve, FileTree.resolveWith_of_rooted hf.rooted]

/-- **A directory brings in a file below it** exactly if the walk goes into what lies between. -/
theorem bringsIn_dir_iff (hd : tree.isDir dir d = true) (hf : f.Normal)
    (hfile : tree.isFile dir f = true) (hbelow : (Path.absolute dir d).Above f)
    (hreal : ∀ e, (Path.absolute dir d).Above e → e.Above f →
      tree.isRealDir Path.root e = true) :
    BringsIn tree dir scope d f ↔
      ∀ e, (Path.absolute dir d).Above e → e.Above f → scope.prunes e = false := by
  constructor
  · rintro (⟨-, rfl⟩ | ⟨-, hreached⟩)
    · exact absurd hbelow Path.above_irrefl
    · exact fun e hde hef => (hreached.between e hde hef).2
  · intro h
    exact Or.inr ⟨hd, hf, isFile_root hf ▸ hfile, Or.inr hbelow,
      fun e hde hef => ⟨hreal e hde hef, h e hde hef⟩⟩

/-- **What a walk lists** is what is listed by its own path, except below a directory that a pattern
matches as a whole. -/
theorem lists_dir_iff (hw : tree.wellFormed = true)
    (hes : Scope.exclusionsOf raw = .ok scope.exclusions) (hdeps : scope.dependencies = true)
    (hd : tree.isDir dir d = true) (hf : f.Normal) (hfile : tree.isFile dir f = true)
    (hbelow : (Path.absolute dir d).Above f)
    (hreal : ∀ e, (Path.absolute dir d).Above e → e.Above f →
      tree.isRealDir Path.root e = true) :
    Lists tree dir scope [d] patterns f ↔ Lists tree dir scope [f] patterns f ∧
      ∀ e, (Path.absolute dir d).Above e → e.Above f → ¬ scope.LosesBelow e := by
  have hself : BringsIn tree dir scope f f := bringsIn_self hf hfile
  simp only [lists_iff hw, List.mem_singleton, exists_eq_left, hself, and_true,
    bringsIn_dir_iff hd hf hfile hbelow hreal]
  constructor
  · rintro ⟨hi, hex, hwalk⟩
    refine ⟨⟨hi, hex⟩, fun e hde hef hlost => ?_⟩
    have hprunes := Scope.prunes_of_losesBelow hes hlost
    rw [hwalk e hde hef] at hprunes
    cases hprunes
  · rintro ⟨⟨hi, hex⟩, hkept⟩
    refine ⟨hi, hex, fun e hde hef => ?_⟩
    have hne : e.segments ≠ [] := by
      obtain ⟨n, ns, rfl⟩ := Path.above_iff.1 hde
      simp
    by_contra hprunes
    rcases Scope.excludes_of_prunes hes hdeps hf hne hef (by simpa using hprunes) with h | h
    · rw [hex] at h
      cases h
    · exact hkept e hde hef h

/-! ## The verdict on a file -/

/-- **The two verdicts on a file differ exactly where a pattern loses it.** The file is found by the
walk if it is found by its own path and no directory on the way to it is matched as a whole by a glob;
so the verdicts agree if and only if the file is not found at all or no directory is so matched. -/
theorem walked_as_named_iff (hw : tree.wellFormed = true)
    (hes : Scope.exclusionsOf raw = .ok scope.exclusions) (hdeps : scope.dependencies = true)
    (hd : tree.isDir dir d = true) (hf : f.Normal) (hfile : tree.isFile dir f = true)
    (hbelow : (Path.absolute dir d).Above f)
    (hreal : ∀ e, (Path.absolute dir d).Above e → e.Above f →
      tree.isRealDir Path.root e = true) :
    (Lists tree dir scope [d] patterns f ↔ Lists tree dir scope [f] patterns f ∧
      ∀ e, (Path.absolute dir d).Above e → e.Above f → ¬ scope.LosesBelow e) ∧
    ((Lists tree dir scope [d] patterns f ↔ Lists tree dir scope [f] patterns f) ↔
      (Lists tree dir scope [f] patterns f →
        ∀ e, (Path.absolute dir d).Above e → e.Above f → ¬ scope.LosesBelow e)) := by
  have hlists : Lists tree dir scope [d] patterns f ↔ Lists tree dir scope [f] patterns f ∧
      ∀ e, (Path.absolute dir d).Above e → e.Above f → ¬ scope.LosesBelow e :=
    lists_dir_iff hw hes hdeps hd hf hfile hbelow hreal
  refine ⟨hlists, ?_⟩
  rw [hlists]
  tauto

/-- The files of a project: a source file in a directory of its own. -/
def project : FileTree :=
  .dir [("src", .dir [("a.py", .file ByteArray.empty false)])]

/-- A scope with one exclude pattern that goes into every directory. -/
def scopeOf (e : Exclusion) : Scope :=
  { exclusions := [e], dependencies := true }

/-- The pattern `docs/*`. -/
def docs : Exclusion :=
  ⟨"docs/*", .tree "docs" none,
    some ⟨"docs/*", [.char 'd', .char 'o', .char 'c', .char 's', .char '/', .anyRun]⟩⟩

/-- The pattern `*/src`. -/
def sourceDirs : Exclusion :=
  ⟨"*/src", .glob, some ⟨"*/src", [.anyRun, .char '/', .char 's', .char 'r', .char 'c']⟩⟩

/-- On the way to the source file there is one directory. -/
theorem eq_of_between_project {e : Path} (h : (Path.absolute Path.root Path.root).Above e)
    (h' : e.Above (.ofNames ["src", "a.py"])) : e = .ofNames ["src"] := by
  rcases (@Path.above_and_above_iff Path.root "src" "a.py" [] e).1 ⟨h, h'⟩ with rfl | ⟨h, h'⟩
  · rfl
  · exact absurd h' (Path.not_above_child h)

theorem isRealDir_between_project (e : Path) (h : (Path.absolute Path.root Path.root).Above e)
    (h' : e.Above (.ofNames ["src", "a.py"])) : project.isRealDir Path.root e = true := by
  rw [eq_of_between_project h h']
  decide

/-- With the documents excluded, the source file is judged alike. -/
theorem walked_as_named_beside_docs :
    project.wellFormed = true ∧ Scope.exclusionsOf ["docs/*"] = .ok (scopeOf docs).exclusions ∧
      project.isDir Path.root Path.root = true ∧
      project.isFile Path.root (.ofNames ["src", "a.py"]) = true ∧
      (Lists project Path.root (scopeOf docs) [Path.root] ["*.py"] (.ofNames ["src", "a.py"]) ↔
        Lists project Path.root (scopeOf docs) [.ofNames ["src", "a.py"]] ["*.py"]
          (.ofNames ["src", "a.py"])) := by
  have hw : project.wellFormed = true := by decide
  have hes : Scope.exclusionsOf ["docs/*"] = .ok (scopeOf docs).exclusions := by rfl
  have hd : project.isDir Path.root Path.root = true := by decide
  have hfile : project.isFile Path.root (.ofNames ["src", "a.py"]) = true := by decide
  have hbelow : (Path.absolute Path.root Path.root).Above (.ofNames ["src", "a.py"]) :=
    Path.above_iff.2 ⟨"src", ["a.py"], rfl⟩
  obtain ⟨-, halike⟩ := @walked_as_named_iff project Path.root Path.root
    (.ofNames ["src", "a.py"]) (scopeOf docs) ["docs/*"] ["*.py"] hw hes rfl hd
    (Path.normal_ofNames (by decide)) hfile hbelow isRealDir_between_project
  refine ⟨hw, hes, hd, hfile, halike.2 fun _ e _ _ => ?_⟩
  rintro ⟨x, hx, hwhole⟩
  obtain rfl := List.mem_singleton.1 hx
  exact absurd hwhole.form (by decide)

/-- **The walk is not always right about a file**: a glob that matches the directory of a source file,
and not the file, hides the file from the walk alone. -/
theorem walk_loses_source :
    ¬ ∀ (tree : FileTree) (dir d f : Path) (scope : Scope) (raw patterns : List String),
      tree.wellFormed = true → Scope.exclusionsOf raw = .ok scope.exclusions →
      scope.dependencies = true → tree.isDir dir d = true → f.Normal →
      tree.isFile dir f = true → (Path.absolute dir d).Above f →
      (∀ e, (Path.absolute dir d).Above e → e.Above f → tree.isRealDir Path.root e = true) →
      (Lists tree dir scope [d] patterns f ↔ Lists tree dir scope [f] patterns f) := by
  intro h
  have hw : project.wellFormed = true := by decide
  have hes : Scope.exclusionsOf ["*/src"] = .ok (scopeOf sourceDirs).exclusions := by rfl
  have hd : project.isDir Path.root Path.root = true := by decide
  have hf : (Path.ofNames ["src", "a.py"]).Normal := Path.normal_ofNames (by decide)
  have hfile : project.isFile Path.root (.ofNames ["src", "a.py"]) = true := by decide
  have hbelow : (Path.absolute Path.root Path.root).Above (.ofNames ["src", "a.py"]) :=
    Path.above_iff.2 ⟨"src", ["a.py"], rfl⟩
  have hnamed : Lists project Path.root (scopeOf sourceDirs) [.ofNames ["src", "a.py"]] ["*.py"]
      (.ofNames ["src", "a.py"]) :=
    (lists_iff hw).2 ⟨⟨[sources], rfl, included_iff.2 (by decide)⟩, by decide, _,
      List.mem_singleton.2 rfl, bringsIn_self hf hfile⟩
  have hlost : (scopeOf sourceDirs).LosesBelow (.ofNames ["src"]) :=
    ⟨sourceDirs, by simp [scopeOf], rfl, _, rfl, by decide⟩
  have hwalked := (h project Path.root Path.root (.ofNames ["src", "a.py"]) (scopeOf sourceDirs)
    ["*/src"] ["*.py"] hw hes rfl hd hf hfile hbelow isRealDir_between_project).2 hnamed
  have hkept := ((lists_dir_iff hw hes rfl hd hf hfile hbelow isRealDir_between_project).1 hwalked).2
  exact hkept (.ofNames ["src"]) (Path.above_iff.2 ⟨"src", [], rfl⟩)
    (Path.above_iff.2 ⟨"a.py", [], rfl⟩) hlost

end Discovery

end Multilint
