import Multilint.Proofs.FileTree.Resolution
/-!
# Well-formed trees

In a well-formed tree the entries of a directory are named by names, each by its own. So an entry that is
among those of a directory is the one its name leads to (`entry?_of_mem`). Trees start empty and change by
`insert` and `remove`, which keep them well formed.
-/

namespace Multilint

namespace FileTree

mutual

/-- **A well-formed tree**: what the entries of its directories are called are names, and no two
entries of a directory have the same one. -/
def wellFormed : FileTree → Bool
  | .dir es => wellFormedEntries es
  | _ => true

/-- The same of the entries of a directory. -/
def wellFormedEntries : List (String × FileTree) → Bool
  | [] => true
  | (n, t) :: es =>
    decide (Path.IsName n) && es.all (·.1 ≠ n) && t.wellFormed && wellFormedEntries es

end

variable {root t : FileTree} {es : List (String × FileTree)} {n : String}

theorem entry?_cons (m : String) (u : FileTree) :
    entry? (.dir ((m, u) :: es)) n = if m = n then some u else entry? (.dir es) n := by
  unfold entry?
  by_cases h : m = n <;> simp [h]

theorem mem_of_entry?_eq_some (h : entry? (.dir es) n = some t) : (n, t) ∈ es := by
  unfold entry? at h
  rw [Option.map_eq_some_iff] at h
  obtain ⟨⟨m, u⟩, hfind, rfl⟩ := h
  obtain rfl : m = n := by simpa using List.find?_some hfind
  exact List.mem_of_find?_eq_some hfind

/-- An entry of a well-formed directory is the one of its name. -/
theorem entry?_of_mem (hw : wellFormedEntries es = true) (h : (n, t) ∈ es) :
    Path.IsName n ∧ t.wellFormed = true ∧ entry? (.dir es) n = some t := by
  induction es with
  | nil => cases h
  | cons e es ih =>
    obtain ⟨m, u⟩ := e
    simp only [wellFormedEntries, Bool.and_eq_true, decide_eq_true_eq, List.all_eq_true] at hw
    obtain ⟨⟨⟨hm, hother⟩, hu⟩, hes⟩ := hw
    rw [entry?_cons]
    rcases List.mem_cons.1 h with h | h
    · obtain ⟨rfl, rfl⟩ := Prod.mk.inj h
      exact ⟨hm, hu, by simp⟩
    · obtain ⟨hn, ht, hentry⟩ := ih hes h
      refine ⟨hn, ht, ?_⟩
      rw [if_neg fun heq => hother (n, t) h heq.symm, hentry]

theorem wellFormed_of_entry?_eq_some (hw : root.wellFormed = true) (h : root.entry? n = some t) :
    t.wellFormed = true := by
  cases root with
  | dir es =>
    rw [wellFormed] at hw
    exact (entry?_of_mem hw (mem_of_entry?_eq_some h)).2.1
  | file c x => cases h
  | link target => cases h

/-- What stands in a well-formed tree is well formed. -/
theorem wellFormed_of_at? {ns : List String} (hw : root.wellFormed = true)
    (h : root.at? ns = some t) : t.wellFormed = true := by
  induction ns generalizing root with
  | nil =>
    rw [at?_nil] at h
    exact Option.some.inj h ▸ hw
  | cons n ns ih =>
    rw [at?_cons] at h
    cases hentry : root.entry? n with
    | none => simp [hentry] at h
    | some u =>
      rw [hentry, Option.bind_some] at h
      exact ih (wellFormed_of_entry?_eq_some hw hentry) h

/-! ## Changes keep a tree well formed -/

/-- Putting an entry in place adds no name but its own. -/
theorem ne_of_mem_putEntry {m : String} (hn : n ≠ m) (h : ∀ e ∈ es, e.1 ≠ m) :
    ∀ e ∈ putEntry n t es, e.1 ≠ m := by
  fun_induction putEntry n t es with
  | case1 => simpa using hn
  | case2 u es => simpa [hn] using h
  | case3 k u es _ ih =>
    rw [List.forall_mem_cons] at h ⊢
    exact ⟨h.1, ih h.2⟩

theorem wellFormedEntries_putEntry (hn : Path.IsName n) (ht : t.wellFormed = true)
    (hes : wellFormedEntries es = true) : wellFormedEntries (putEntry n t es) = true := by
  fun_induction putEntry n t es with
  | case1 => simp [wellFormedEntries, hn, ht]
  | case2 u es =>
    simp only [wellFormedEntries, Bool.and_eq_true] at hes ⊢
    exact ⟨⟨hes.1.1, ht⟩, hes.2⟩
  | case3 k u es hne ih =>
    simp only [wellFormedEntries, Bool.and_eq_true, List.all_eq_true, decide_eq_true_eq] at hes ⊢
    obtain ⟨⟨⟨hk, hother⟩, hu⟩, hes⟩ := hes
    exact ⟨⟨⟨hk, ne_of_mem_putEntry (Ne.symm hne) hother⟩, hu⟩, ih hes⟩

theorem wellFormedEntries_filter {p : String × FileTree → Bool}
    (hes : wellFormedEntries es = true) : wellFormedEntries (es.filter p) = true := by
  induction es with
  | nil => rfl
  | cons e es ih =>
    simp only [wellFormedEntries, Bool.and_eq_true, List.all_eq_true] at hes
    obtain ⟨⟨⟨he, hother⟩, hu⟩, hes⟩ := hes
    rw [List.filter_cons]
    split
    · simp only [wellFormedEntries, Bool.and_eq_true, List.all_eq_true]
      exact ⟨⟨⟨he, fun f hf => hother f (List.mem_filter.1 hf).1⟩, hu⟩, ih hes⟩
    · exact ih hes

/-- **Putting something well formed at names** keeps a tree well formed. -/
theorem wellFormed_insert {new : FileTree} {ns : List String} (hnew : new.wellFormed = true)
    (hns : ∀ s ∈ ns, Path.IsName s) (hw : t.wellFormed = true) :
    (insert new ns t).wellFormed = true := by
  induction ns generalizing t with
  | nil => exact hnew
  | cons n ns ih =>
    have hchild : ((t.entry? n).getD (.dir [])).wellFormed = true := by
      cases h : t.entry? n with
      | none => rfl
      | some u => exact wellFormed_of_entry?_eq_some hw h
    have hput := ih (fun s hs => hns s (by simp [hs])) hchild
    cases t with
    | dir es =>
      rw [wellFormed] at hw
      exact wellFormedEntries_putEntry (hns n (by simp)) hput hw
    | file c x => exact wellFormedEntries_putEntry (hns n (by simp)) hput (rfl : wellFormedEntries [] = true)
    | link target => exact wellFormedEntries_putEntry (hns n (by simp)) hput (rfl : wellFormedEntries [] = true)

/-- **Taking something away** keeps a tree well formed. -/
theorem wellFormed_remove {ns : List String} (hns : ∀ s ∈ ns, Path.IsName s)
    (hw : t.wellFormed = true) : (remove t ns).wellFormed = true := by
  rw [remove]
  split
  · rename_i es last hat _
    have hes := wellFormed_of_at? hw hat
    rw [wellFormed] at hes
    exact wellFormed_insert (wellFormedEntries_filter hes)
      (fun s hs => hns s (List.dropLast_subset _ hs)) hw
  · exact hw

end FileTree

end Multilint
