import Multilint.Proofs.FileTree.Inside
import Multilint.Proofs.FileTree.Walk
import Multilint.Proofs.Path.Under
/-!
# Copies of a tree

A tree can stand at a directory of another one, and a copy of it at another directory elsewhere. What a path
leads to under the directory, and what a walk below it reaches, is a matter of the copy alone where no link
leads out of it (`CopyAt.resolveWith_under`, `CopyAt.reached_iff`). A file of the copy has a name in it
(`exists_name_of_isFile`).
-/

namespace Multilint

namespace FileTree

variable {tree t : FileTree} {last : Bool} {links : ℕ} {rs here segments : List String}

/-! ## Copies -/

/-- **A tree holds a copy of another one**: it is well formed, and at a directory of it, given by its real
path, stands the other one, which is a directory. -/
structure CopyAt (tree : FileTree) (r : Path) (t : FileTree) : Prop where
  /-- The tree is well formed. -/
  wellFormed : tree.wellFormed = true
  /-- The path of the directory is normal. -/
  normal : r.Normal
  /-- The copy stands there. -/
  at_eq : tree.at? r.segments = some t
  /-- It is a directory. -/
  isDirNode : t.isDirNode = true

variable {r p g f start : Path} {prune : Path → Bool}

theorem isDirNode_of_entry?_eq_some {n : String} {u : FileTree} (h : t.entry? n = some u) : t.isDirNode = true := by
  cases t with
  | dir es => rfl
  | file c x => cases h
  | link target => cases h

/-- Above a directory there are only directories. -/
theorem isDirNode_of_at? {u : FileTree} (hat : t.at? here = some u) (hu : u.isDirNode = true) :
    t.isDirNode = true := by
  cases here with
  | nil =>
    rw [at?_nil] at hat
    exact Option.some.inj hat ▸ hu
  | cons n ns =>
    rw [at?_cons] at hat
    obtain ⟨v, hv, -⟩ := Option.bind_eq_some_iff.1 hat
    exact isDirNode_of_entry?_eq_some hv

/-- The names of a directory lead to it, no link being met. -/
theorem follow_names {jump : List String → List String → Except PathFault Found}
    (hrs : ∀ s ∈ rs, Path.IsName s) (hat : tree.at? (here ++ rs) = some t) (ht : t.isDirNode = true) :
    follow tree last jump here (rs ++ segments) = follow tree last jump (here ++ rs) segments := by
  induction rs generalizing here with
  | nil => simp
  | cons n ns ih =>
    have hn : Path.IsName n := hrs n List.mem_cons_self
    rw [at?_append] at hat
    obtain ⟨u, hu, hat⟩ := Option.bind_eq_some_iff.1 hat
    rw [at?_cons] at hat
    obtain ⟨v, hv, hat⟩ := Option.bind_eq_some_iff.1 hat
    have hvdir := isDirNode_of_at? hat ht
    have hnext : tree.at? (here ++ [n] ++ ns) = some t := by
      rw [at?_append, at?_concat hu, hv, Option.bind_some, hat]
    have hstep : follow tree last jump here (n :: (ns ++ segments)) =
        follow tree last jump (here ++ [n]) (ns ++ segments) := by
      rw [follow, hu]
      cases v with
      | dir es => simp [isDirNode_of_entry?_eq_some hv, hn.1, hn.2.1, hn.2.2, hv]
      | file c x => cases hvdir
      | link target => cases hvdir
    rw [List.cons_append, hstep, ih (fun s hs => hrs s (List.mem_cons_of_mem n hs)) hnext,
      List.append_assoc]
    rfl

/-! ### Where something is found says nothing about what it is -/

variable {dir dir' q : Path}

theorem isFile_congr (h : tree.resolve dir p = (t.resolve dir' q).map (Found.under rs)) :
    tree.isFile dir p = t.isFile dir' q := by
  rw [isFile, isFile, h]
  rcases t.resolve dir' q with e | ⟨ns, c | es | target⟩ <;> rfl

theorem isDir_congr (h : tree.resolve dir p = (t.resolve dir' q).map (Found.under rs)) :
    tree.isDir dir p = t.isDir dir' q := by
  rw [isDir, isDir, h]
  rcases t.resolve dir' q with e | ⟨ns, c | es | target⟩ <;> rfl

theorem isRealDir_congr (h : tree.resolveEntry dir p = (t.resolveEntry dir' q).map (Found.under rs)) :
    tree.isRealDir dir p = t.isRealDir dir' q := by
  rw [isRealDir, isRealDir, h]
  rcases t.resolveEntry dir' q with e | ⟨ns, c | es | target⟩ <;> rfl

/-- What stands at names is a copy there. -/
theorem copyAt_of_at? {ns : List String} (hw : tree.wellFormed = true) (hns : ∀ s ∈ ns, Path.IsName s)
    (hat : tree.at? ns = some t) (ht : t.isDirNode = true) : CopyAt tree (Path.ofNames ns) t :=
  ⟨hw, Path.normal_ofNames hns, hat, ht⟩

namespace CopyAt

/-- **What a path in the directory leads to**, as long as it stays inside. -/
theorem resolveWith_relative (hc : CopyAt tree r t) (hp : p.rooted = false)
    (hstays : t.staysInside (linkLimit + 1) [] p.segments = true) :
    tree.resolveWith last r p = (t.resolveWith last Path.root p).map (Found.under r.segments) := by
  have hroot : Path.root.names = [] := rfl
  rw [resolveWith, resolveWith, hp, Path.names_of_normal hc.normal, hroot]
  by_cases hempty : p.segments.isEmpty = true
  · simp only [hempty]
    rfl
  · simp only [hempty, Bool.not_false, Bool.and_false, Bool.false_eq_true, if_false]
    rw [← followLinks_under hc.at_eq hstays, List.append_nil]

/-- **What a path under the directory leads to**, in a self-contained copy. -/
theorem resolveWith_under (hc : CopyAt tree r t) (ht : t.SelfContained) (hg : g.Normal) :
    tree.resolveWith last Path.root (r.under g) =
      (t.resolveWith last Path.root g).map (Found.under r.segments) := by
  rw [resolveWith_of_rooted rfl, resolveWith_of_rooted hg.rooted, Path.under_segments, followLinks_succ,
    follow_names hc.normal.isName hc.at_eq hc.isDirNode, ← followLinks_succ,
    ← followLinks_under hc.at_eq (ht g.segments hg.isName), List.append_nil,
    List.nil_append]

theorem isFile_relative (hc : CopyAt tree r t) (hp : p.rooted = false)
    (hstays : t.staysInside (linkLimit + 1) [] p.segments = true) :
    tree.isFile r p = t.isFile Path.root p :=
  isFile_congr (hc.resolveWith_relative hp hstays)

theorem isDir_relative (hc : CopyAt tree r t) (hp : p.rooted = false)
    (hstays : t.staysInside (linkLimit + 1) [] p.segments = true) :
    tree.isDir r p = t.isDir Path.root p :=
  isDir_congr (hc.resolveWith_relative hp hstays)

theorem isFile_under (hc : CopyAt tree r t) (ht : t.SelfContained) (hg : g.Normal) :
    tree.isFile Path.root (r.under g) = t.isFile Path.root g :=
  isFile_congr (hc.resolveWith_under ht hg)

theorem isRealDir_under (hc : CopyAt tree r t) (ht : t.SelfContained) (hg : g.Normal) :
    tree.isRealDir Path.root (r.under g) = t.isRealDir Path.root g :=
  isRealDir_congr (hc.resolveWith_under ht hg)

/-- **What a walk below the directory reaches** is what a walk of the copy does. -/
theorem reached_iff (hc : CopyAt tree r t) (ht : t.SelfContained) (hs : start.Normal) :
    tree.Reached prune (r.under start) f ↔
      ∃ g, f = r.under g ∧ t.Reached (fun d => prune (r.under d)) start g := by
  constructor
  · intro h
    obtain ⟨g, rfl, hg, hbelow⟩ : ∃ g, f = r.under g ∧ g.rooted = true ∧ (g = start ∨ start.Above g) := by
      rcases h.below with rfl | habove
      · exact ⟨start, rfl, hs.rooted, Or.inl rfl⟩
      · obtain ⟨g, hfg, hsg⟩ := Path.exists_of_under_above habove
        exact ⟨g, hfg, hsg.rooted_right hs.rooted, Or.inr hsg⟩
    -- the inner path has the names behind those of the directory
    have hnormal : g.Normal := ⟨hg, fun s hmem => h.normal.isName s (List.mem_append_right _ hmem)⟩
    refine ⟨g, rfl, hnormal, hc.isFile_under ht hnormal ▸ h.isFile, hbelow, fun d hsd hdg => ?_⟩
    have hd : d.Normal := hdg.normal hnormal
    obtain ⟨hdir, hprune⟩ := h.between (r.under d) ((Path.above_under_iff hs.rooted hd.rooted).2 hsd)
      ((Path.above_under_iff hd.rooted hg).2 hdg)
    exact ⟨hc.isRealDir_under ht hd ▸ hdir, hprune⟩
  · rintro ⟨g, rfl, h⟩
    refine ⟨hc.normal.under h.normal, (hc.isFile_under ht h.normal).trans h.isFile, ?_, fun d hsd hdg => ?_⟩
    · refine h.below.imp (congrArg r.under) fun habove => ?_
      exact (Path.above_under_iff hs.rooted h.normal.rooted).2 habove
    · obtain ⟨e, rfl, hse⟩ := Path.exists_of_under_above hsd
      have he : e.rooted = true := hse.rooted_right hs.rooted
      have heg : e.Above g := (Path.above_under_iff he h.normal.rooted).1 hdg
      obtain ⟨hdir, hprune⟩ := h.between e hse heg
      exact ⟨(hc.isRealDir_under ht (heg.normal h.normal)).trans hdir, hprune⟩

end CopyAt

/-! ## Files have names -/

/-- What holds a directory, or is one at the top, is a directory. -/
theorem isDirNode_of_dropLast {u above : FileTree} (hat : tree.at? here = some u)
    (hu : u.isDirNode = true) (habove : tree.at? here.dropLast = some above) :
    above.isDirNode = true := by
  rcases List.eq_nil_or_concat here with rfl | ⟨ns, n, rfl⟩
  · rw [List.dropLast_nil, hat] at habove
    exact Option.some.inj habove ▸ hu
  · rw [List.concat_eq_append] at hat habove
    rw [List.dropLast_concat] at habove
    rw [at?_append, habove, Option.bind_some] at hat
    exact isDirNode_of_at? hat hu

/-- **Behind anything but a name stands a directory**: a path that ends with a dot, two dots or a slash leads
to one, or nowhere. -/
theorem isDirNode_of_followLinks {found : Found} {s : String} (hs : ¬ Path.IsName s)
    (h : followLinks tree true links here (segments ++ [s]) = .ok found) :
    found.node.isDirNode = true := by
  rcases followLinks_append tree links here segments with ⟨there, left, hthere, hrest⟩ | ⟨e, -, hrest⟩
  · rw [hrest true [s] (by simp), followLinks_succ, follow, at?_of_followLinks hthere] at h
    dsimp only at h
    split at h
    · cases h
    rename_i hdir
    rw [Bool.not_eq_true, Bool.not_eq_false'] at hdir
    split at h
    · rw [follow, at?_of_followLinks hthere] at h
      cases h
      exact hdir
    rename_i hdot
    simp only [Bool.or_eq_true, decide_eq_true_eq, not_or] at hdot
    -- what is no name and no dot goes up, to where the directory lies
    have hup : s = ".." := by_contra fun hup => hs ⟨hdot.1, hdot.2, hup⟩
    rw [if_pos hup, follow] at h
    split at h
    · rename_i above habove
      cases h
      exact isDirNode_of_dropLast (at?_of_followLinks hthere) hdir habove
    · cases h
  · rw [hrest true [s] (by simp)] at h
    cases h

/-- A path that leads to a file in a directory ends with a name. -/
theorem exists_name_of_isFile (hp : p.rooted = false) (h : t.isFile Path.root p = true) :
    ∃ ns s, p.segments = ns ++ [s] ∧ Path.IsName s := by
  obtain ⟨names, c, x, hfile⟩ := isFile_iff.1 h
  rw [resolve, resolveWith, hp] at hfile
  rcases List.eq_nil_or_concat p.segments with hnil | ⟨ns, s, hns⟩
  · rw [hnil] at hfile
    cases hfile
  rw [List.concat_eq_append] at hns
  refine ⟨ns, s, hns, by_contra fun hs => ?_⟩
  simp only [hns, List.isEmpty_eq_false_iff.2 (List.append_ne_nil_of_right_ne_nil ns (List.cons_ne_nil s [])),
    Bool.not_false, Bool.and_false, Bool.false_eq_true, if_false] at hfile
  cases isDirNode_of_followLinks hs hfile

/-- A path that leads to a file is not that of a directory itself. -/
theorem segments_ne_nil_of_isFile (ht : t.isDirNode = true) (hg : g.Normal)
    (h : t.isFile Path.root g = true) : g.segments ≠ [] := by
  intro hnil
  obtain ⟨names, c, x, hfile⟩ := isFile_iff.1 h
  rw [resolve, resolveWith_of_rooted hg.rooted, hnil, followLinks_succ, follow, at?_nil] at hfile
  cases hfile
  cases ht

end FileTree

end Multilint
