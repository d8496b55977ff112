import Multilint.Proofs.Path.Relative
import Multilint.Proofs.Scope.Discovery
/-!
# The names of entries

Following a path looks each of its names up in a directory. So the names on a path that leads somewhere are names
of entries, whatever links lie on the way (`hasEntry_of_resolve`), and where no entry has a slash in its name, the
paths that lead to files have none either (`BringsIn.unslashed`).
-/

namespace Multilint

namespace FileTree

variable {root t u : FileTree} {dir p : Path} {last : Bool} {links : ℕ} {here segments : List String}
variable {found : Found} {es : List (String × FileTree)} {s : String}

/-- **Some entry has a name.** -/
def HasEntry (t : FileTree) (s : String) : Prop := ∃ names u, t.at? names = some u ∧ s ∈ names

/-- **No entry has a slash in its name.** -/
def Unslashed (t : FileTree) : Prop := ∀ s, t.HasEntry s → '/' ∉ s.toList

theorem hasEntry_of_entry? (hat : root.at? here = some t) (hentry : t.entry? s = some u) :
    root.HasEntry s :=
  ⟨here ++ [s], u, (at?_concat hat s).trans hentry, by simp⟩

theorem unslashed_file (content : ByteArray) (executable : Bool) : (file content executable).Unslashed := by
  rintro s ⟨names, u, hat, hs⟩
  cases names with
  | nil => cases hs
  | cons n ns => cases (at?_cons n ns).symm.trans hat

/-- A directory has no slash in the name of an entry if neither its own entries do nor what is in them. -/
theorem unslashed_dir (h : ∀ e ∈ es, '/' ∉ e.1.toList ∧ e.2.Unslashed) : (FileTree.dir es).Unslashed := by
  rintro s ⟨names, u, hat, hs⟩
  cases names with
  | nil => cases hs
  | cons n ns =>
    rw [at?_cons] at hat
    obtain ⟨v, hv, hat⟩ := Option.bind_eq_some_iff.1 hat
    obtain ⟨hname, hinner⟩ := h _ (mem_of_entry?_eq_some hv)
    rcases List.mem_cons.1 hs with rfl | hs
    · exact hname
    · exact hinner s ⟨ns, u, hat, hs⟩

/-! ## Following names -/

/-- Each name that is followed to something is looked up, if that is so behind links. -/
theorem hasEntry_of_follow {jump : List String → List String → Except PathFault Found}
    (hjump : ∀ here segments, jump here segments = .ok found →
      ∀ s ∈ segments, Path.IsName s → root.HasEntry s)
    (h : follow root last jump here segments = .ok found) :
    ∀ s ∈ segments, Path.IsName s → root.HasEntry s := by
  fun_induction follow root last jump here segments with
  | case1 => simp
  | case2 => cases h
  | case3 => cases h
  | case4 => cases h
  | case5 here s rest t _ _ hdot ih =>
    -- a segment that stays in the directory is not looked up, but it is no name either
    refine List.forall_mem_cons.2 ⟨fun hs => ?_, ih h⟩
    simp [hs.1, hs.2.1] at hdot
  | case6 here rest t _ _ _ ih =>
    exact List.forall_mem_cons.2 ⟨fun hs => absurd rfl hs.2.2, ih h⟩
  | case7 => cases h
  | case8 here s rest t hat _ _ _ target hentry hend =>
    rw [Bool.and_eq_true, List.isEmpty_iff] at hend
    rw [hend.1]
    exact List.forall_mem_singleton.2 fun _ => hasEntry_of_entry? hat hentry
  | case9 => cases h
  | case10 here s rest t hat _ _ _ target hentry _ p _ =>
    refine List.forall_mem_cons.2 ⟨fun _ => hasEntry_of_entry? hat hentry, fun s hs => ?_⟩
    exact hjump _ _ h s (List.mem_append_right p.segments hs)
  | case11 here s rest t hat _ _ _ u _ hentry ih =>
    exact List.forall_mem_cons.2 ⟨fun _ => hasEntry_of_entry? hat hentry, ih h⟩

theorem hasEntry_of_followLinks (h : followLinks root last links here segments = .ok found) :
    ∀ s ∈ segments, Path.IsName s → root.HasEntry s := by
  induction links generalizing here segments with
  | zero => cases h
  | succ links ih =>
    rw [followLinks_succ] at h
    exact hasEntry_of_follow (fun _ _ => ih) h

/-- Names are followed from a directory that is there. -/
theorem exists_at?_of_followLinks (h : followLinks root last links here segments = .ok found) :
    ∃ t, root.at? here = some t := by
  cases links with
  | zero => cases h
  | succ links =>
    rw [followLinks_succ] at h
    cases hat : root.at? here with
    | some t => exact ⟨t, rfl⟩
    | none => cases segments <;> simp [follow, hat] at h

/-! ## Paths that lead somewhere -/

/-- **The names on a path that leads somewhere are names of entries.** -/
theorem hasEntry_of_resolve (h : root.resolve dir p = .ok found) (hs : s ∈ p.segments)
    (hn : Path.IsName s) : root.HasEntry s := by
  rw [resolve, resolveWith] at h
  split at h
  · cases h
  · exact hasEntry_of_followLinks h s hs hn

/-- So are those of the directory it starts from. -/
theorem hasEntry_of_start (h : root.resolve dir p = .ok found) (hp : p.rooted = false)
    (hs : s ∈ dir.names) : root.HasEntry s := by
  rw [resolve, resolveWith] at h
  split at h
  · cases h
  · obtain ⟨t, hat⟩ := exists_at?_of_followLinks h
    rw [hp, if_neg Bool.false_ne_true] at hat
    exact ⟨dir.names, t, hat, hs⟩

/-- The names of a path that leads to something are so when it is resolved. -/
theorem hasEntry_of_absolute (h : root.resolve dir p = .ok found)
    (hs : s ∈ (Path.absolute dir p).segments) : root.HasEntry s := by
  have hn : Path.IsName s := (Path.normal_absolute dir p).isName s hs
  have hname : Part.name s ∈ p.parts → root.HasEntry s := fun hpart =>
    hasEntry_of_resolve h (Path.mem_segments_of_mem_parts hpart).1 hn
  cases hp : p.rooted with
  | false =>
    exact (Path.mem_of_mem_fold hs).elim (hasEntry_of_start h hp) hname
  | true =>
    have hparts : p.parts = .root :: p.segments.filterMap Path.part? := by rw [Path.parts, if_pos hp]
    rw [Path.absolute, hparts] at hs
    change s ∈ Path.fold [] (p.segments.filterMap Path.part?) at hs
    refine hname (hparts ▸ List.mem_cons_of_mem _ ?_)
    exact (Path.mem_of_mem_fold hs).resolve_left List.not_mem_nil

/-- **Where no entry has a slash in its name**, what a walk reaches has none. -/
theorem Reached.unslashed {prune : Path → Bool} {start f : Path} (hu : root.Unslashed)
    (h : Reached root prune start f) : f.Unslashed := by
  intro s hs
  obtain ⟨ns, content, x, hres⟩ := isFile_iff.1 h.isFile
  exact hu s (hasEntry_of_resolve hres hs (h.normal.isName s hs))

end FileTree

namespace Discovery

/-- **What an input brings in** has no slash in its names, where no entry has. -/
theorem BringsIn.unslashed {tree : FileTree} {dir p f : Path} {scope : Scope} (hu : tree.Unslashed)
    (h : BringsIn tree dir scope p f) : f.Unslashed := by
  rcases h with ⟨hfile, rfl⟩ | ⟨-, h⟩
  · obtain ⟨ns, content, x, hres⟩ := FileTree.isFile_iff.1 hfile
    exact fun s hs => hu s (FileTree.hasEntry_of_absolute hres hs)
  · exact h.unslashed hu

end Discovery

end Multilint
