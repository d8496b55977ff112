import Multilint.Proofs.Path.Normal
/-!
# Resolving segment by segment

Resolving a path is a run of steps, one for each segment, that starts at the root or in the directory the path is
resolved in (`absolute_eq_foldl`). A step never leaves the normal paths (`Normal.step`), and up from the root it
stays there. Joining puts two runs behind each other (`foldl_step_join`), so that a joined path is resolved by
resolving its second part where the first one leads (`absolute_join_eq`).
-/

namespace Multilint

namespace Path

variable {dir d p q : Path}

/-! ## Steps -/

/-- **One step along a segment**: an empty segment and a dot stay, two dots go up to the directory of the path, and
a name goes down to the entry. -/
def step (d : Path) (s : String) : Path :=
  if s = "" ∨ s = "." then d else if s = ".." then d.directory else d.child s

/-- The root is its own parent. -/
theorem step_root_up : root.step ".." = root := by decide

theorem step_empty (d : Path) : d.step "" = d := rfl

/-- **A step stays among the normal paths.** -/
theorem Normal.step (hd : d.Normal) (s : String) : (d.step s).Normal := by
  unfold Path.step
  split
  · exact hd
  · rename_i hblank
    split
    · exact hd.directory
    · rename_i hup
      rw [not_or] at hblank
      exact hd.child ⟨hblank.1, hblank.2, hup⟩

/-- And so does every run of steps. -/
theorem Normal.foldl_step (hd : d.Normal) (ss : List String) : (ss.foldl Path.step d).Normal := by
  induction ss generalizing d with
  | nil => exact hd
  | cons s ss ih => exact ih (hd.step s)

/-- **The names that are left of segments** are those a run of steps leads to. -/
theorem ofNames_fold (ns ss : List String) :
    ofNames (fold ns (ss.filterMap part?)) = ss.foldl step (ofNames ns) := by
  induction ss generalizing ns with
  | nil => rfl
  | cons s ss ih =>
    rw [List.foldl_cons, step]
    split
    · rename_i hblank
      have hpart : part? s = none := if_pos (by simpa using hblank)
      rw [List.filterMap_cons_none hpart]
      exact ih ns
    · rename_i hblank
      split
      · rename_i hup
        subst hup
        exact ih ns.dropLast
      · rename_i hup
        rw [not_or] at hblank
        rw [List.filterMap_cons_some (part?_of_isName ⟨hblank.1, hblank.2, hup⟩)]
        exact ih (ns ++ [s])

/-- **Resolving is a run of steps**, from the root or from the directory. -/
theorem absolute_eq_foldl (dir p : Path) :
    absolute dir p = p.segments.foldl step (if p.rooted then root else ofNames dir.names) := by
  rw [absolute, fold_parts, ofNames_fold, apply_ite ofNames]
  rfl

/-! ## Joining -/

theorem join_of_rooted (hq : q.rooted = true) : p.join q = q := by
  rw [join, hq, Bool.true_or, if_pos rfl]

theorem rooted_join (hq : q.rooted = false) : (p.join q).rooted = p.rooted := by
  unfold join
  split
  · rename_i hempty
    have hp : p.rooted = false ∧ p.segments = [] := by simpa [hq] using hempty
    rw [hq, hp.1]
  · rfl

/-- **Steps along a joined path** go along the one and then along the other: what joining does to the slash between
them adds or drops an empty segment, which stays. -/
theorem foldl_step_join (d : Path) (hq : q.rooted = false) :
    (p.join q).segments.foldl step d = q.segments.foldl step (p.segments.foldl step d) := by
  unfold join
  split
  · rename_i hempty
    have hp : p.rooted = false ∧ p.segments = [] := by simpa [hq] using hempty
    rw [hp.2, List.foldl_nil]
  · have hfront : (if p.segments.getLast? = some "" then p.segments.dropLast else p.segments).foldl step d =
        p.segments.foldl step d := by
      split
      · -- the path ends with a slash, behind which an empty segment is dropped
        rename_i hlast
        obtain ⟨front, hfront⟩ := List.getLast?_eq_some_iff.1 hlast
        rw [hfront, List.dropLast_concat, List.foldl_concat, step_empty]
      · rfl
    have hback : ∀ e : Path, (if q.segments.isEmpty then [""] else q.segments).foldl step e =
        q.segments.foldl step e := by
      intro e
      cases q.segments <;> rfl
    exact (List.foldl_append ..).trans (by rw [hfront, hback])

/-- **A joined path** is resolved where its first part leads. -/
theorem absolute_join_eq (dir p q : Path) : absolute dir (p.join q) = absolute (absolute dir p) q := by
  cases hq : q.rooted with
  | true =>
    -- both runs start at the root again
    rw [join_of_rooted hq, absolute_eq_foldl, absolute_eq_foldl, if_pos hq, if_pos hq]
  | false =>
    rw [absolute_eq_foldl, absolute_eq_foldl (absolute dir p), ofNames_names (normal_absolute dir p),
      foldl_step_join _ hq, rooted_join hq, hq, if_neg Bool.false_ne_true, absolute_eq_foldl dir p]

/-! ## The laws of resolving -/

/-- No part of a normal path is dots. -/
theorem Normal.not_mem_parts (hp : p.Normal) : .here ∉ p.parts ∧ .up ∉ p.parts := by
  rw [parts_of_normal hp]
  simp

/-- **Resolving in a directory** is a run of steps from it, or from the root, and leads to a path from the root without
dots. Resolving what is resolved changes nothing, resolving in two runs is resolving in one, and no segments lead out
of the root: going up from it says nothing, whatever follows. -/
theorem absolute_resolves (hdir : dir.Normal) (p q : Path) :
    absolute dir p = p.segments.foldl step (if p.rooted then root else dir) ∧
      ((absolute dir p).Normal ∧ .here ∉ (absolute dir p).parts ∧ .up ∉ (absolute dir p).parts) ∧
      absolute dir (absolute dir p) = absolute dir p ∧
      absolute dir ((absolute dir p).join q) = absolute dir (p.join q) ∧
      root.step ".." = root ∧ ∀ ss : List String, (ss.foldl step root).Normal ∧
        absolute dir (root.join ⟨false, ".." :: ss⟩) = absolute dir (root.join ⟨false, ss⟩) := by
  have hnormal : (absolute dir p).Normal := normal_absolute dir p
  have hsame : absolute dir (absolute dir p) = absolute dir p := absolute_of_normal dir hnormal
  have hroot : root.Normal := normal_ofNames (List.forall_mem_nil _)
  refine ⟨?_, ⟨hnormal, hnormal.not_mem_parts⟩, hsame, ?_, step_root_up, fun ss => ⟨hroot.foldl_step ss, ?_⟩⟩
  · rw [absolute_eq_foldl, ofNames_names hdir]
  · rw [absolute_join_eq, hsame, absolute_join_eq]
  · rw [absolute_join_eq, absolute_join_eq, absolute_of_normal dir hroot, absolute_eq_foldl, absolute_eq_foldl,
      List.foldl_cons, names_of_normal hroot]
    exact congrArg (ss.foldl step) step_root_up

/-- More dots than there are names above the directory, with empty segments among them and a slash at the end. -/
theorem absolute_resolves_beyond_root :
    let dir := ofNames ["r", "d"]
    let p := ofString "../../../a/."
    let q := ofString "..//../../b/../c/"
    dir.Normal ∧ absolute dir p = ofNames ["a"] ∧ absolute dir (p.join q) = ofNames ["c"] ∧
      absolute dir ((ofNames ["a"]).join q) = ofNames ["c"] := by
  intro dir p q
  have hdir : dir.Normal := normal_ofNames (by decide)
  have hp : absolute dir p = ofNames ["a"] := by decide +kernel
  have hjoin : absolute dir (p.join q) = ofNames ["c"] := by decide +kernel
  obtain ⟨-, -, -, hsteps, -⟩ := absolute_resolves hdir p q
  exact ⟨hdir, hp, hjoin, hp ▸ hsteps.trans hjoin⟩

end Path

end Multilint
