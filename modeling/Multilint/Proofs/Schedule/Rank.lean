import Multilint.Schedule
import Multilint.Proofs.Sequence
import Multilint.Proofs.Tool.Toolbox
import Mathlib.Data.List.Sort
/-!
# The order of rank

`Outranks` is the order of rank as a strict order: it is what `Tool.before` decides of two tools that are
not registered in one place. The tools asked for are each found once (`requested_eq_ok`), and sorting them
leaves no two of them tied (`exists_ranked`), so that the list of the tools asked for, in the order of
rank, is one list.
-/

namespace Multilint

namespace Tool

variable {t u v : Tool}

/-- **One tool ranks before another one**: its priority is higher, or they have the same and it was
registered first. -/
def Outranks (t u : Tool) : Prop :=
  u.spec.priority < t.spec.priority ∨ t.spec.priority = u.spec.priority ∧ t.rank < u.rank

instance : DecidableRel Outranks :=
  fun _ _ => inferInstanceAs (Decidable (_ ∨ _))

theorem Outranks.irrefl : ¬ t.Outranks t := by
  rintro (hlt | ⟨-, hlt⟩)
  · exact lt_irrefl _ hlt
  · exact lt_irrefl _ hlt

theorem Outranks.trans (h : t.Outranks u) (h' : u.Outranks v) : t.Outranks v := by
  rw [Outranks] at *
  omega

theorem Outranks.asymm (h : t.Outranks u) : ¬ u.Outranks t :=
  fun h' => (h.trans h').irrefl

theorem Outranks.ne (h : t.Outranks u) : t ≠ u := by
  rintro rfl
  exact h.irrefl

instance : Std.Irrefl Outranks := ⟨fun _ => Outranks.irrefl⟩

instance : Std.Antisymm Outranks := ⟨fun _ _ h h' => absurd h' h.asymm⟩

theorem before_iff : t.before u = true ↔
    t.Outranks u ∨ t.spec.priority = u.spec.priority ∧ t.rank = u.rank := by
  simp only [before, Outranks, Bool.or_eq_true, Bool.and_eq_true, decide_eq_true_eq]
  omega

/-- A tool that is sorted before another one is not outranked by it. -/
theorem not_outranks_of_before (h : t.before u = true) : ¬ u.Outranks t := by
  rw [before_iff, Outranks] at *
  omega

theorem before_trans (h : t.before u = true) (h' : u.before v = true) : t.before v = true := by
  rw [before_iff, Outranks] at *
  omega

theorem before_total (t u : Tool) : (t.before u || u.before t) = true := by
  rw [Bool.or_eq_true, before_iff, before_iff, Outranks, Outranks]
  omega

/-- Whether two tools conflict does not depend on which of them declares it. -/
theorem conflictsWith_comm (t u : Tool) : t.conflictsWith u = u.conflictsWith t :=
  Bool.or_comm _ _

end Tool

namespace Schedule

variable {box : Toolbox} {ids : List String} {ts : List Tool} {t : Tool}

/-! ## The tools asked for -/

/-- **A tool is asked for** when one of the identities means it, or when none is given. -/
def Asked (box : Toolbox) (ids : List String) (t : Tool) : Prop :=
  t ∈ box.tools ∧ (ids = [] ∨ ∃ id ∈ ids, toolId t.name = toolId id)

/-- The tools found so far, and the one that another identity means. -/
def resolveOne (box : Toolbox) (found : List Tool) (id : String) : Except Failure (List Tool) := do
  return Tool.addNew Tool.rank found (← box.get id)

theorem resolve_eq_foldlM : resolve box ids = ids.foldlM (resolveOne box) [] :=
  rfl

/-- The tools found from some on, for identities that all resolve. -/
theorem foldlM_resolveOne (hbox : box.Built) (hids : ∀ id ∈ ids, box.contains id = true)
    {found : List Tool} (hfound : ∀ u ∈ found, u ∈ box.tools) (hnodup : found.Nodup) :
    ∃ ts, ids.foldlM (resolveOne box) found = .ok ts ∧ ts.Nodup ∧
      ∀ u, u ∈ ts ↔ u ∈ found ∨ u ∈ box.tools ∧ ∃ id ∈ ids, toolId u.name = toolId id := by
  induction ids generalizing found with
  | nil => exact ⟨found, rfl, hnodup, by simp⟩
  | cons id ids ih =>
    obtain ⟨t, hget⟩ := Toolbox.contains_iff_get.1 (hids id (by simp))
    have ht : t ∈ box.tools := (hbox.get_eq_ok_iff.1 hget).1
    obtain ⟨hnodup', hmem'⟩ :=
      Tool.addNew_spec (fun u hu heq => hbox.eq_of_rank (hfound u hu) ht heq) hnodup
    obtain ⟨ts, hts, hts_nodup, hts_mem⟩ :=
      ih (fun id' hid' => hids id' (List.mem_cons_of_mem id hid'))
        (Tool.forall_mem_addNew hfound ht) hnodup'
    refine ⟨ts, ?_, hts_nodup, fun u => ?_⟩
    · rw [List.foldlM_cons, resolveOne, hget]
      exact hts
    · -- the tool that was looked up is the only one that the identity means
      have hfirst : u = t ↔ u ∈ box.tools ∧ toolId u.name = toolId id := by
        rw [← hbox.get_eq_ok_iff, hget, Except.ok.injEq, eq_comm]
      rw [hts_mem, hmem', hfirst, or_assoc, ← and_or_left]
      simp only [List.mem_cons, exists_eq_or_imp]

/-- **Every tool asked for is found, and once**, where the identities resolve. -/
theorem requested_eq_ok (hbox : box.Built) (hids : ∀ id ∈ ids, box.contains id = true) :
    ∃ ts, requested box ids = .ok ts ∧ ts.Nodup ∧ ∀ t, t ∈ ts ↔ Asked box ids t := by
  cases hempty : ids with
  | nil => exact ⟨box.tools, rfl, hbox.nodup, fun t => by simp [Asked]⟩
  | cons id ids' =>
    rw [hempty] at hids
    obtain ⟨ts, hts, hnodup, hmem⟩ :=
      foldlM_resolveOne hbox hids (fun u hu => absurd hu List.not_mem_nil) List.nodup_nil
    refine ⟨ts, resolve_eq_foldlM.trans hts, hnodup, fun t => ?_⟩
    rw [hmem, Asked]
    simp

/-- **The first identity without a tool** is what the tools asked for fail with. -/
theorem requested_eq_error_iff {f : Failure} :
    requested box ids = .error f ↔ Sequence.FirstFails box.get ids f := by
  -- what was found before has no part in it
  have hresolve : ∀ found, ids.foldlM (resolveOne box) found = .error f ↔
      Sequence.FirstFails box.get ids f := by
    induction ids with
    | nil => exact fun found => iff_of_false (fun h => by cases h) Sequence.not_firstFails_nil
    | cons id ids ih =>
      intro found
      rw [List.foldlM_cons, Sequence.firstFails_cons_iff, resolveOne]
      cases box.get id with
      | error e => simp [bind, Except.bind]
      | ok t => simpa [bind, Except.bind, pure, Except.pure] using ih (Tool.addNew Tool.rank found t)
  cases ids with
  | nil => exact iff_of_false (fun h => by cases h) Sequence.not_firstFails_nil
  | cons id ids => exact hresolve []

theorem ofRequest_eq_error_iff {f : Failure} {ignoreConflicts : Bool} :
    ofRequest box ids ignoreConflicts = .error f ↔ Sequence.FirstFails box.get ids f := by
  rw [ofRequest, Sequence.bind_eq_error_iff, requested_eq_error_iff]
  refine or_iff_left ?_
  rintro ⟨ts, -, h⟩
  cases h

theorem pairwise_mergeSort (ts : List Tool) :
    (ts.mergeSort Tool.before).Pairwise fun t u => t.before u = true :=
  @List.pairwise_mergeSort _ Tool.before (fun _ _ _ => Tool.before_trans) Tool.before_total ts

/-- Sorting leaves no two tools of a toolbox tied. -/
theorem pairwise_mergeSort_before (hbox : box.Built) (hmem : ∀ t ∈ ts, t ∈ box.tools)
    (hnodup : ts.Nodup) : (ts.mergeSort Tool.before).Pairwise Tool.Outranks := by
  have hnodup' : (ts.mergeSort Tool.before).Nodup :=
    (List.mergeSort_perm ts Tool.before).nodup_iff.2 hnodup
  refine ((pairwise_mergeSort ts).and hnodup').imp_of_mem fun {t u} ht hu ⟨hbefore, hne⟩ => ?_
  rcases Tool.before_iff.1 hbefore with h | ⟨-, hrank⟩
  · exact h
  · exact absurd (hbox.eq_of_rank (hmem t (List.mem_mergeSort.1 ht))
      (hmem u (List.mem_mergeSort.1 hu)) hrank) hne

/-- **Tools have one order of rank**, and sorting finds it. -/
theorem mergeSort_before_eq {ranked : List Tool} (hperm : ts.Perm ranked)
    (hranked : ranked.Pairwise Tool.Outranks) : ts.mergeSort Tool.before = ranked := by
  have hsort : (ts.mergeSort Tool.before).Perm ranked := (List.mergeSort_perm ts Tool.before).trans hperm
  -- no two of them are tied, whatever their order
  have huntied : (ts.mergeSort Tool.before).Pairwise fun t u => t.Outranks u ∨ u.Outranks t :=
    (hsort.pairwise_iff Or.symm).2 (hranked.imp Or.inl)
  have hsorted : (ts.mergeSort Tool.before).Pairwise Tool.Outranks :=
    ((pairwise_mergeSort ts).and huntied).imp fun ⟨hbefore, h⟩ =>
      h.resolve_right (Tool.not_outranks_of_before hbefore)
  exact hsort.eq_of_pairwise' hsorted hranked

/-- **The schedule of tools that are asked for** is made of them in their order of rank. -/
theorem ofRequest_of_ranked {ranked : List Tool} (hts : requested box ids = .ok ts) (hperm : ts.Perm ranked)
    (hranked : ranked.Pairwise Tool.Outranks) (ignoreConflicts : Bool) :
    ofRequest box ids ignoreConflicts =
      .ok (if ignoreConflicts then { ordered := ranked } else ofRanked ranked) := by
  rw [ofRequest, hts, ← mergeSort_before_eq hperm hranked]
  rfl

/-- **The tools asked for in the order of rank**, without ties; a schedule is made of them. -/
theorem exists_ranked (hbox : box.Built) (hids : ∀ id ∈ ids, box.contains id = true) :
    ∃ ranked, ranked.Pairwise Tool.Outranks ∧ (∀ t, t ∈ ranked ↔ Asked box ids t) ∧
      ∀ ignoreConflicts, ofRequest box ids ignoreConflicts =
        .ok (if ignoreConflicts then { ordered := ranked } else ofRanked ranked) := by
  obtain ⟨ts, hts, hnodup, hmem⟩ := requested_eq_ok hbox hids
  have hranked := pairwise_mergeSort_before hbox (fun t ht => ((hmem t).1 ht).1) hnodup
  refine ⟨ts.mergeSort Tool.before, hranked, fun t => ?_, ?_⟩
  · rw [List.mem_mergeSort, hmem]
  · exact ofRequest_of_ranked hts (List.mergeSort_perm ts Tool.before).symm hranked

end Schedule

end Multilint
