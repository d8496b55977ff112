import Multilint.Proofs.FileTree.WellFormed
/-!
# Staying inside a tree

Following a path can leave a tree that stands inside another one: by a `..` at its top, or by a link to a
rooted path. `staysInside` says that it does not, and then the path leads to the same thing in the larger tree,
by names that start with those of the place where the tree stands (`followLinks_under`). A tree is
self-contained if following names stays inside; links that lead forward keep it so
(`selfContained_of_linksForward`).
-/

namespace Multilint

/-- What stands in an inner tree, found from the root of the outer one. -/
def Found.under (rs : List String) (found : Found) : Found :=
  ⟨rs ++ found.names, found.node⟩

namespace FileTree

variable {tree t : FileTree} {last : Bool} {links : ℕ} {rs here segments : List String}

/-! ## Staying inside -/

/-- Whether following segments from a directory of a tree stays in the tree: no `..` stands at its top, and no
link leads to a rooted path. `inside` decides about what comes behind a link. -/
def stays (t : FileTree) (inside : List String → List String → Bool) :
    List String → List String → Bool
  | _, [] => true
  | here, s :: rest =>
    match t.at? here with
    | none => true
    | some u =>
      if !u.isDirNode then true
      else if s = "" || s = "." then stays t inside here rest
      else if s = ".." then !here.isEmpty && stays t inside here.dropLast rest
      else
        match u.entry? s with
        | none => true
        | some (.link target) =>
          let p := Path.ofString target
          target = "" || (!p.rooted && inside here (p.segments ++ rest))
        | some _ => stays t inside (here ++ [s]) rest

/-- **Whether following segments stays in the tree**, through at most so many links. -/
def staysInside (t : FileTree) : ℕ → List String → List String → Bool
  | 0, _, _ => true
  | links + 1, here, segments => stays t (staysInside t links) here segments

theorem at?_under (h : tree.at? rs = some t) (here : List String) :
    tree.at? (rs ++ here) = t.at? here := by
  rw [at?_append, h, Option.bind_some]

/-- What leads to the same place behind links does so from the start. -/
theorem follow_under (hat : tree.at? rs = some t)
    {jump jump' : List String → List String → Except PathFault Found}
    {inside : List String → List String → Bool}
    (hjump : ∀ here segments, inside here segments = true →
      jump (rs ++ here) segments = (jump' here segments).map (Found.under rs))
    (h : stays t inside here segments = true) :
    follow tree last jump (rs ++ here) segments =
      (follow t last jump' here segments).map (Found.under rs) := by
  fun_induction stays t inside here segments with
  | case1 here =>
    rw [follow, follow, at?_under hat]
    cases t.at? here <;> rfl
  | case2 here s rest hhere =>
    rw [follow, follow, at?_under hat, hhere]
    rfl
  | case3 here s rest u hhere hdir =>
    rw [follow, follow, at?_under hat, hhere]
    simp only [hdir, if_true]
    rfl
  | case4 here s rest u hhere hdir hdot ih =>
    rw [follow, follow, at?_under hat, hhere]
    simp only [hdir, hdot, if_true]
    exact ih h
  | case5 here rest u hhere hdir hdot ih =>
    -- at the top of the inner tree the step would leave it, which staying inside rules out
    rw [Bool.and_eq_true, Bool.not_eq_true', List.isEmpty_eq_false_iff] at h
    rw [follow, follow, at?_under hat, hhere]
    simp only [hdir, hdot, if_true]
    rw [List.dropLast_append_of_ne_nil h.1]
    exact ih h.2
  | case6 here s rest u hhere hdir hdot hup hentry =>
    rw [follow, follow, at?_under hat, hhere]
    simp only [hdir, hdot, hup, hentry, if_false]
    rfl
  | case7 here s rest u hhere hdir hdot hup target hentry p =>
    rw [follow, follow, at?_under hat, hhere]
    simp only [hdir, hdot, hup, hentry, if_false, Bool.false_eq_true]
    split
    · rw [List.append_assoc]
      rfl
    · split
      · rfl
      · rename_i htarget
        simp only [htarget, decide_false, Bool.false_or, Bool.and_eq_true, Bool.not_eq_true'] at h
        have hrooted : (Path.ofString target).rooted = false := h.1
        rw [hrooted, if_neg Bool.false_ne_true, if_neg Bool.false_ne_true]
        exact hjump here _ h.2
  | case8 here s rest u hhere hdir hdot hup v hlink hentry ih =>
    rw [follow, follow, at?_under hat, hhere]
    simp only [hdir, hdot, hup, hentry, if_false]
    cases v with
    | link target => exact absurd rfl (hlink target)
    | file c x =>
      rw [List.append_assoc]
      exact ih h
    | dir es =>
      rw [List.append_assoc]
      exact ih h

/-- **Following a path inside a tree** leads to the same thing in a larger one. -/
theorem followLinks_under (hat : tree.at? rs = some t) (h : t.staysInside links here segments = true) :
    followLinks tree last links (rs ++ here) segments =
      (followLinks t last links here segments).map (Found.under rs) := by
  induction links generalizing here segments with
  | zero => rfl
  | succ links ih =>
    rw [followLinks_succ, followLinks_succ]
    exact follow_under hat (fun _ _ => ih) h

/-! ## Self-contained trees -/

/-- **A self-contained tree**: no link in it leads out of it, whichever names are followed. -/
def SelfContained (t : FileTree) : Prop :=
  ∀ names : List String, (∀ s ∈ names, Path.IsName s) → t.staysInside (linkLimit + 1) [] names = true

mutual

/-- Whether each link in a tree leads to a path that is not rooted and goes up nowhere. -/
def linksForward : FileTree → Bool
  | .file _ _ => true
  | .dir es => linksForwardIn es
  | .link target => !(Path.ofString target).rooted && !(Path.ofString target).segments.contains ".."

/-- The same of the entries of a directory. -/
def linksForwardIn : List (String × FileTree) → Bool
  | [] => true
  | (_, t) :: es => t.linksForward && linksForwardIn es

end

theorem linksForward_of_mem {es : List (String × FileTree)} {n : String} (h : linksForwardIn es = true)
    (hmem : (n, t) ∈ es) : t.linksForward = true := by
  induction es with
  | nil => cases hmem
  | cons e es ih =>
    rw [linksForwardIn, Bool.and_eq_true] at h
    rcases List.mem_cons.1 hmem with rfl | hmem
    · exact h.1
    · exact ih h.2 hmem

theorem linksForward_of_entry?_eq_some {n : String} {u : FileTree} (h : t.linksForward = true)
    (hentry : t.entry? n = some u) : u.linksForward = true := by
  cases t with
  | dir es => exact linksForward_of_mem (by rwa [linksForward] at h) (mem_of_entry?_eq_some hentry)
  | file c x => cases hentry
  | link target => cases hentry

theorem linksForward_of_at? {u : FileTree} (h : t.linksForward = true) (hat : t.at? here = some u) :
    u.linksForward = true := by
  induction here generalizing t with
  | nil =>
    rw [at?_nil] at hat
    exact Option.some.inj hat ▸ h
  | cons n ns ih =>
    rw [at?_cons] at hat
    obtain ⟨v, hv, hat⟩ := Option.bind_eq_some_iff.1 hat
    exact ih (linksForward_of_entry?_eq_some h hv) hat

theorem stays_of_linksForward {inside : List String → List String → Bool} (ht : t.linksForward = true)
    (hinside : ∀ here segments, ".." ∉ segments → inside here segments = true)
    (h : ".." ∉ segments) : stays t inside here segments = true := by
  fun_induction stays t inside here segments with
  | case1 here => rfl
  | case2 here s rest hhere => rfl
  | case3 here s rest u hhere hdir => rfl
  | case4 here s rest u hhere hdir hdot ih =>
    exact ih (fun hmem => h (List.mem_cons_of_mem s hmem))
  | case5 here rest u hhere hdir hdot ih =>
    exact absurd List.mem_cons_self h
  | case6 here s rest u hhere hdir hdot hup hentry => rfl
  | case7 here s rest u hhere hdir hdot hup target hentry p =>
    have hlink := linksForward_of_entry?_eq_some (linksForward_of_at? ht hhere) hentry
    simp only [linksForward, Bool.and_eq_true, Bool.not_eq_true', List.contains_eq_mem,
      decide_eq_false_iff_not] at hlink
    rw [Bool.or_eq_true, Bool.and_eq_true, Bool.not_eq_true']
    refine Or.inr ⟨hlink.1, hinside _ _ fun hmem => ?_⟩
    exact (List.mem_append.1 hmem).elim hlink.2 fun hmem => h (List.mem_cons_of_mem s hmem)
  | case8 here s rest u hhere hdir hdot hup v hlink hentry ih =>
    exact ih (fun hmem => h (List.mem_cons_of_mem s hmem))

/-- **A tree whose links lead forward is self-contained.** -/
theorem selfContained_of_linksForward (ht : t.linksForward = true) : t.SelfContained := by
  have hinside : ∀ links here segments, ".." ∉ segments → t.staysInside links here segments = true := by
    intro links
    induction links with
    | zero => exact fun _ _ _ => rfl
    | succ links ih => exact fun _ _ => stays_of_linksForward ht ih
  exact fun names hnames => hinside _ _ _ fun hup => (hnames _ hup).2.2 rfl

end FileTree

end Multilint
