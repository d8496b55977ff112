import Multilint.Scope.Discovery
import Multilint.Proofs.FileTree.Walk
/-!
# What discovery finds

`mem_files_iff` takes the files of a run apart: a file is found exactly if an include pattern matches
it, the scope does not exclude it, and some input brings it in. `pairwise_files` is the order of the
list, and `files_congr` says that the inputs count as a set. A directory brings in what a walk reaches
*at or below* its resolved path: resolving folds `..` without looking at links, so the path itself can
be a file. Trees are taken to be well formed, as all are that start empty and change by `insert` and
`remove`.
-/

namespace Multilint

namespace Discovery

variable {tree : FileTree} {dir p f : Path} {scope : Scope} {inputs inputs' : List Path}
variable {includes : List Glob} {ps : List Path}

/-! ## Lists without repetitions -/

theorem mem_distinct : p ∈ distinct ps ↔ p ∈ ps := by
  fun_induction distinct ps with
  | case1 => rfl
  | case2 q => rfl
  | case3 q rest ih =>
    rw [ih]
    simp
  | case4 q r rest _ ih =>
    rw [List.mem_cons, ih]
    exact List.mem_cons.symm

/-- **A sorted list of normal paths** is strictly sorted once its repetitions are left out. -/
theorem pairwise_distinct (hn : ∀ p ∈ ps, p.Normal)
    (hs : ps.Pairwise fun p q => p.le q = true) :
    (distinct ps).Pairwise fun p q => p.names < q.names := by
  fun_induction distinct ps with
  | case1 => exact List.Pairwise.nil
  | case2 q => exact List.pairwise_singleton _ _
  | case3 q rest ih => exact ih (fun p hp => hn p (by simp [hp])) hs.tail
  | case4 q r rest hne ih =>
    refine List.pairwise_cons.2 ⟨fun s hs' => ?_, ih (fun p hp => hn p (by simp [hp])) hs.tail⟩
    have hr : r ∈ q :: r :: rest := by simp
    have hqr : q.names ≤ r.names := Path.le_iff.1 (List.rel_of_pairwise_cons hs (by simp))
    have hlt : q.names < r.names := lt_of_le_of_ne hqr fun h =>
      hne (Path.eq_of_names_eq (hn q (by simp)) (hn r hr) h)
    -- what follows is `r` or comes behind it, and `r` is strictly behind `q`
    rcases List.mem_cons.1 (mem_distinct.1 hs') with rfl | hs'
    · exact hlt
    · exact lt_of_lt_of_le hlt (Path.le_iff.1 (List.rel_of_pairwise_cons hs.tail hs'))

theorem nodup_of_pairwise_names (h : ps.Pairwise fun p q => p.names < q.names) : ps.Nodup := by
  refine List.Pairwise.imp ?_ h
  rintro p q hlt rfl
  exact lt_irrefl _ hlt

/-- A strictly sorted list is known by its members. -/
theorem eq_of_pairwise_names {qs : List Path} (hp : ps.Pairwise fun p q => p.names < q.names)
    (hq : qs.Pairwise fun p q => p.names < q.names) (h : ∀ p, p ∈ ps ↔ p ∈ qs) : ps = qs := by
  have hperm : ps.Perm qs := (List.perm_ext_iff_of_nodup (nodup_of_pairwise_names hp)
    (nodup_of_pairwise_names hq)).2 h
  exact hperm.eq_of_pairwise (fun _ _ _ _ hab hba => absurd (lt_trans hab hba) (lt_irrefl _)) hp hq

/-! ## What an input brings in -/

/-- **Some include pattern matches a file**: its path from the root, if the pattern holds a slash, and
its name otherwise. -/
def Included (includes : List Glob) (f : Path) : Prop :=
  ∃ g ∈ includes, ('/' ∈ g.text.toList ∧ g.matchesText f.slashed = true) ∨
    ('/' ∉ g.text.toList ∧ g.matchesText (f.fileName?.getD "") = true)

/-- **An input brings in a file**: it leads to it, or to a directory from which a walk reaches it. -/
def BringsIn (tree : FileTree) (dir : Path) (scope : Scope) (input f : Path) : Prop :=
  (tree.isFile dir input = true ∧ f = Path.absolute dir input) ∨
    (tree.isDir dir input = true ∧ tree.Reached scope.prunes (Path.absolute dir input) f)

theorem included_iff : Included includes f ↔ includes.any (matchesInclude f) = true := by
  simp only [Included, List.any_eq_true]
  refine exists_congr fun g => and_congr_right fun _ => ?_
  by_cases h : '/' ∈ g.text.toList <;> simp [matchesInclude, h]

theorem keeps_iff :
    keeps includes scope f = true ↔ Included includes f ∧ scope.excludes f false = false := by
  rw [keeps, Bool.and_eq_true, included_iff, Bool.not_eq_true']

theorem mem_candidates_iff (hw : tree.wellFormed = true) :
    f ∈ candidates tree dir scope p ↔ BringsIn tree dir scope p f := by
  rw [candidates, BringsIn]
  by_cases hfile : tree.isFile dir p = true
  · have hdir : ¬ tree.isDir dir p = true := by
      intro hdir
      obtain ⟨ns, c, x, h⟩ := FileTree.isFile_iff.1 hfile
      obtain ⟨ns', es, h'⟩ := FileTree.isDir_iff.1 hdir
      rw [h] at h'
      cases h'
    simp [hfile, hdir]
  · by_cases hdir : tree.isDir dir p = true
    · simp [hfile, hdir, FileTree.mem_walk_iff hw (Path.normal_absolute dir p)]
    · simp [hfile, hdir]

theorem BringsIn.normal (h : BringsIn tree dir scope p f) : f.Normal := by
  rcases h with ⟨-, rfl⟩ | ⟨-, h⟩
  · exact Path.normal_absolute dir p
  · exact h.normal

/-! ## The files of a run -/

/-- **What is found** is what an include pattern matches, the scope does not exclude and an input
brings in. -/
theorem mem_files_iff (hw : tree.wellFormed = true) :
    f ∈ files tree dir scope inputs includes ↔
      Included includes f ∧ scope.excludes f false = false ∧
        ∃ p ∈ inputs, BringsIn tree dir scope p f := by
  rw [files, mem_distinct, List.mem_mergeSort, List.mem_filter, keeps_iff, List.mem_flatMap]
  simp only [mem_candidates_iff hw]
  tauto

/-- **The list is strictly increasing**, path by path. -/
theorem pairwise_files (hw : tree.wellFormed = true) :
    (files tree dir scope inputs includes).Pairwise fun p q => p.names < q.names := by
  rw [files]
  refine pairwise_distinct (fun p hp => ?_) (List.pairwise_mergeSort ?_ ?_ _)
  · rw [List.mem_mergeSort, List.mem_filter, List.mem_flatMap] at hp
    obtain ⟨⟨q, -, hq⟩, -⟩ := hp
    exact ((mem_candidates_iff hw).1 hq).normal
  · intro a b c hab hbc
    exact Path.le_iff.2 (le_trans (Path.le_iff.1 hab) (Path.le_iff.1 hbc))
  · intro a b
    rw [Bool.or_eq_true, Path.le_iff, Path.le_iff]
    exact le_total _ _

/-- **Inputs count as a set**: their order and repetitions change nothing. -/
theorem files_congr (hw : tree.wellFormed = true) (h : ∀ p, p ∈ inputs ↔ p ∈ inputs') :
    files tree dir scope inputs includes = files tree dir scope inputs' includes := by
  refine eq_of_pairwise_names (pairwise_files hw) (pairwise_files hw) fun f => ?_
  rw [mem_files_iff hw, mem_files_iff hw]
  simp only [h]

theorem discover_eq {patterns : List String} (h : includesOf patterns = .ok includes) :
    discover tree dir scope inputs patterns = .ok (files tree dir scope inputs includes) := by
  rw [discover, h]
  rfl

/-- Where nothing is named, nothing is found. -/
theorem discover_nil {patterns : List String} (h : includesOf patterns = .ok includes) :
    discover tree dir scope [] patterns = .ok [] := by
  rw [discover_eq h, files, List.flatMap_nil, List.filter_nil, List.mergeSort_nil, distinct]

/-- **What is found in any order** and kept is the answer, once it is in order. -/
theorem discover_of_perm {patterns : List String} (hw : tree.wellFormed = true)
    (hi : includesOf patterns = .ok includes)
    (hperm : ((inputs.flatMap (candidates tree dir scope)).filter (keeps includes scope)).Perm ps)
    (hps : ps.Pairwise fun p q => p.names < q.names) :
    discover tree dir scope inputs patterns = .ok ps := by
  have hfiles : files tree dir scope inputs includes = ps := by
    refine eq_of_pairwise_names (pairwise_files hw) hps fun f => ?_
    rw [files, mem_distinct, List.mem_mergeSort, hperm.mem_iff]
  rw [discover_eq hi, hfiles]

/-! ## Discovery is exact -/

/-- **Discovery is exact.** Wherever the include patterns can be read, the files found are those that
some include pattern matches, the scope does not exclude and some input brings in; the list is strictly
increasing, and inputs with the same members give the same list. -/
theorem discover_lists_exactly {patterns : List String} (hw : tree.wellFormed = true)
    (hi : includesOf patterns = .ok includes) :
    ∃ found, discover tree dir scope inputs patterns = .ok found ∧
      (∀ f, f ∈ found ↔ Included includes f ∧ scope.excludes f false = false ∧
        ∃ p ∈ inputs, BringsIn tree dir scope p f) ∧
      (found.Pairwise fun p q => p.names < q.names) ∧
      ∀ inputs', (∀ p, p ∈ inputs ↔ p ∈ inputs') →
        discover tree dir scope inputs' patterns = .ok found := by
  refine ⟨files tree dir scope inputs includes, discover_eq hi, fun f => mem_files_iff hw,
    pairwise_files hw, fun inputs' h => ?_⟩
  rw [discover_eq hi, files_congr hw h]

/-- A checkout with a source file and a directory of build results. -/
def checkout : FileTree :=
  .dir [("r", .dir [("a.py", .file ByteArray.empty false),
    ("build", .dir [("b.py", .file ByteArray.empty false)])])]

/-- The pattern `*.py`. -/
def sources : Glob := ⟨"*.py", [.anyRun, .char '.', .char 'p', .char 'y']⟩

/-- In a checkout named twice, once by the directory and once by a file in it, the source file is found
and what was built is not. -/
theorem discover_lists_checkout :
    checkout.wellFormed = true ∧ includesOf ["*.py"] = .ok [sources] ∧
      ∃ found, discover checkout Path.root {} [.ofNames ["r"], .ofNames ["r", "a.py"]] ["*.py"] =
          .ok found ∧
        .ofNames ["r", "a.py"] ∈ found ∧ .ofNames ["r", "build", "b.py"] ∉ found ∧
        found.Pairwise fun p q => p.names < q.names := by
  have hw : checkout.wellFormed = true := by decide
  have hi : includesOf ["*.py"] = .ok [sources] := rfl
  obtain ⟨found, hfound, hmem, hsorted, -⟩ := @discover_lists_exactly checkout Path.root {}
    [.ofNames ["r"], .ofNames ["r", "a.py"]] [sources] ["*.py"] hw hi
  refine ⟨hw, hi, found, hfound, (hmem _).2 ⟨?_, by decide, ?_⟩, fun h => ?_, hsorted⟩
  · exact included_iff.2 (by decide)
  · exact ⟨.ofNames ["r", "a.py"], by simp, Or.inl ⟨by decide, by decide⟩⟩
  · obtain ⟨-, -, p, hp, hin⟩ := (hmem _).1 h
    rcases hin with ⟨hfile, heq⟩ | ⟨hdir, hreached⟩
    · simp only [List.mem_cons, List.not_mem_nil, or_false] at hp
      rcases hp with rfl | rfl
      · exact absurd hfile (by decide)
      · exact absurd heq (by decide)
    · simp only [List.mem_cons, List.not_mem_nil, or_false] at hp
      rcases hp with rfl | rfl
      · have hbetween := hreached.between (.ofNames ["r", "build"])
          (Path.above_iff.2 ⟨"build", [], by decide⟩) (Path.above_iff.2 ⟨"b.py", [], by decide⟩)
        exact absurd hbetween.2 (by decide)
      · exact absurd hdir (by decide)

/-! ## At the path of a directory

A path through a link and back is resolved without the link. What it leads to and what its resolved
form leads to are then two things, and the second one may be a file. -/

/-- A tree where `/r/l/../t` leads to the directory `/r/d/t` and resolves to the file `/r/t`. -/
def crossing : FileTree :=
  .dir [("r", .dir [("d", .dir [("e", .dir []), ("t", .dir [])]), ("l", .link "d/e"),
    ("t", .file ByteArray.empty false)])]

/-- **A directory brings in more than what lies below it**: the walk starts at its resolved path, and
lists that path where it is a file. -/
theorem lists_more_than_below :
    ¬ ∀ (tree : FileTree) (dir : Path) (scope : Scope) (inputs : List Path)
      (patterns : List String) (includes : List Glob) (f : Path),
      tree.wellFormed = true → includesOf patterns = .ok includes →
      ((∃ found, discover tree dir scope inputs patterns = .ok found ∧ f ∈ found) ↔
        Included includes f ∧ scope.excludes f false = false ∧
          ∃ p ∈ inputs, (tree.isFile dir p = true ∧ f = Path.absolute dir p) ∨
            (tree.isDir dir p = true ∧ (Path.absolute dir p).Above f ∧
              tree.Reached scope.prunes (Path.absolute dir p) f)) := by
  intro h
  have hw : crossing.wellFormed = true := by decide
  have hi : includesOf ["t"] = .ok [⟨"t", [.char 't']⟩] := rfl
  have hstart : Path.absolute (.ofNames ["r"]) (.ofString "l/../t") = .ofNames ["r", "t"] := by
    decide
  have hnotDir : ∀ ns es, crossing.resolve Path.root (.ofNames ["r", "t"]) ≠ .ok ⟨ns, .dir es⟩ :=
    fun ns es hres => absurd (FileTree.isDir_iff.2 ⟨ns, es, hres⟩) (by decide)
  have hreached : crossing.Reached ({} : Scope).prunes (.ofNames ["r", "t"]) (.ofNames ["r", "t"]) :=
    (FileTree.reached_iff_of_not_dir (Path.normal_ofNames (by decide)) hnotDir).2 ⟨rfl, by decide⟩
  have hin : BringsIn crossing (.ofNames ["r"]) {} (.ofString "l/../t") (.ofNames ["r", "t"]) := by
    rw [BringsIn, hstart]
    exact Or.inr ⟨by decide, hreached⟩
  have hmem : .ofNames ["r", "t"] ∈ files crossing (.ofNames ["r"]) {} [.ofString "l/../t"]
      [⟨"t", [.char 't']⟩] :=
    (mem_files_iff hw).2 ⟨included_iff.2 (by decide), by decide, _, List.mem_singleton.2 rfl, hin⟩
  obtain ⟨-, -, p, hp, hreaches⟩ := (h crossing (.ofNames ["r"]) {} [.ofString "l/../t"] ["t"] _ _ hw
    hi).1 ⟨_, discover_eq hi, hmem⟩
  obtain rfl : p = .ofString "l/../t" := List.mem_singleton.1 hp
  rw [hstart] at hreaches
  rcases hreaches with ⟨hfile, -⟩ | ⟨-, habove, -⟩
  · exact absurd hfile (by decide)
  · exact Path.above_irrefl habove

end Discovery

end Multilint
