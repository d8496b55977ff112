import Multilint.Scope.Rules
import Multilint.Proofs.Glob.Matching
import Multilint.Proofs.Text.Pieces
/-!
# What an exclude pattern says about the paths below

A pattern that excludes a directory excludes what is in it, with one exception. A bare name, a tree
and a glob for one segment look at the segments of a path or at how its text starts, and a path below
shares both. A glob is also compared with the whole path, and a match of the whole path says nothing
about a longer one (`excludes_below`).
-/

namespace Multilint

namespace Exclusion

variable {e : Exclusion} {raw pattern t u : String} {form : ExclusionForm} {x : List Char}

/-! ## Reading a pattern -/

theorem eq_of_compile {g : Glob} (h : compile pattern t = .ok g) : Glob.ofText t = .ok g := by
  rw [compile] at h
  split at h
  · rename_i hg
    rw [hg, Except.ok.inj h]
  · cases h

/-- A pattern that is read as a tree ends with `/*`. -/
theorem suffix_of_formOf_tree {dir : String} {segment : Option Glob}
    (h : formOf pattern = .ok (.tree dir segment)) : ['/', '*'] <:+ pattern.toList := by
  unfold formOf at h
  dsimp only at h
  split at h
  · rename_i d hd
    unfold treeDir? at hd
    split at hd
    · rename_i r hr
      exact ⟨r.reverse, by rw [← List.reverse_reverse pattern.toList, hr]; simp⟩
    · cases hd
  · split at h <;> cases h

/-- A pattern that is read as a name holds neither slash nor wildcard. -/
theorem plain_of_formOf_name {n : String} (h : formOf pattern = .ok (.name n)) :
    '/' ∉ pattern.toList ∧ ∀ c ∈ pattern.toList, Glob.IsPlain c := by
  unfold formOf at h
  dsimp only at h
  split at h
  · split at h
    · cases hc : compile pattern (String.ofList ‹List Char›) <;> rw [hc] at h <;> cases h
    · cases h
  · split at h
    · rename_i hcs
      simp only [Bool.and_eq_true, Bool.not_eq_true', hasWildcard, List.any_eq_false] at hcs
      refine ⟨by simpa using hcs.1, fun c hc => ?_⟩
      have := hcs.2 c hc
      simp only [Bool.or_eq_true, beq_iff_eq, not_or] at this
      exact ⟨this.1.1, this.1.2, this.2⟩
    · cases h

/-- **What a text is read as**: its form, and a glob unless it is empty. -/
theorem of_ofText (h : ofText raw = .ok e) :
    formOf e.text = .ok e.form ∧
      (e.text = "" ∧ e.glob = none ∨ e.text ≠ "" ∧ ∃ g, Glob.ofText e.text = .ok g ∧ e.glob = some g) := by
  unfold ofText at h
  dsimp only at h
  cases hform : formOf (Text.trimmed raw) with
  | error f =>
    rw [hform] at h
    cases h
  | ok form =>
    rw [hform] at h
    by_cases hempty : Text.trimmed raw = ""
    · obtain rfl : ⟨Text.trimmed raw, form, none⟩ = e := by simpa [hempty] using h
      exact ⟨hform, Or.inl ⟨hempty, rfl⟩⟩
    · cases hg : compile (Text.trimmed raw) (Text.trimmed raw) with
      | error f =>
        simp [hempty, hg, bind, Except.bind] at h
      | ok g =>
        obtain rfl : ⟨Text.trimmed raw, form, some g⟩ = e := by
          simpa [hempty, hg, bind, Except.bind, pure, Except.pure] using h
        exact ⟨hform, Or.inr ⟨hempty, g, eq_of_compile hg, rfl⟩⟩

/-! ## Paths below -/

/-- The segments of a path below start with those of the path. -/
theorem segments_append (h : u.toList = t.toList ++ '/' :: x) :
    segments u = segments t ++ segments (String.ofList x) := by
  have hpieces : Text.pieces '/' u = Text.pieces '/' t ++ Text.pieces '/' (String.ofList x) :=
    Text.pieces_append (by rw [h, String.toList_ofList])
  rw [segments, hpieces, List.filter_append]
  rfl

theorem mem_dropLast_append {α : Type} {a : α} {l r : List α} (h : a ∈ l.dropLast) :
    a ∈ (l ++ r).dropLast := by
  cases r with
  | nil => rwa [List.append_nil]
  | cons b r =>
    rw [List.dropLast_append_of_ne_nil (List.cons_ne_nil b r)]
    exact List.mem_append_left _ (List.dropLast_subset _ h)

/-- **The form of a pattern** excludes what is below a path it excludes. -/
theorem formMatches_below (h : u.toList = t.toList ++ '/' :: x) (ht : formMatches t form = true) :
    formMatches u form = true := by
  have hseg := segments_append h
  cases form with
  | name n =>
    simp only [formMatches, List.contains_iff_mem, hseg, List.mem_append] at ht ⊢
    exact Or.inl ht
  | tree dir segment =>
    simp only [formMatches, Bool.or_eq_true, Text.occursIn_iff, Text.isSome_after?_iff] at ht ⊢
    rcases ht with (ht | ht) | ht
    · exact Or.inl (Or.inl (h ▸ ht.trans (List.prefix_append _ _).isInfix))
    · exact Or.inl (Or.inr (h ▸ ht.trans (List.prefix_append _ _)))
    · refine Or.inr ?_
      cases segment with
      | none => cases ht
      | some g =>
        simp only [Option.any_some, List.any_eq_true] at ht ⊢
        obtain ⟨n, hn, hg⟩ := ht
        exact ⟨n, hseg ▸ mem_dropLast_append hn, hg⟩
  | glob => exact ht

/-- **A glob matches a whole path**, and nothing else in its pattern speaks of the paths below. -/
structure MatchesWhole (e : Exclusion) (t : String) : Prop where
  /-- The pattern is neither a name nor a tree. -/
  form : e.form = .glob
  /-- Its glob matches the path. -/
  glob : ∃ g, e.glob = some g ∧ g.matchesText t = true

theorem excludes_of_matchesWhole (he : ofText raw = .ok e) (h : e.MatchesWhole t) :
    e.excludes t = true := by
  obtain ⟨g, hglob, hg⟩ := h.glob
  obtain ⟨-, ⟨-, hnone⟩ | ⟨htext, -⟩⟩ := of_ofText he
  · rw [hglob] at hnone
    cases hnone
  · simp [excludes, htext, hglob, hg]

/-- **What excludes a path excludes the paths below it**, unless it is a glob that matches the whole
path. -/
theorem excludes_below (he : ofText raw = .ok e) (ht : t.toList.head? = some '/')
    (h : u.toList = t.toList ++ '/' :: x) (hex : e.excludes t = true) :
    e.excludes u = true ∨ e.MatchesWhole t := by
  obtain ⟨hform, hglob⟩ := of_ofText he
  simp only [excludes, Bool.and_eq_true, Bool.or_eq_true, decide_eq_true_eq] at hex ⊢
  obtain ⟨htext, hex⟩ := hex
  obtain ⟨-, g, hg, hsome⟩ := hglob.resolve_left fun h => htext h.1
  rw [hsome] at hex ⊢
  simp only [Option.any_some, Bool.or_eq_true, List.any_eq_true] at hex ⊢
  rcases hex with hex | hex | ⟨n, hn, hex⟩
  · exact Or.inl ⟨htext, Or.inl (formMatches_below h hex)⟩
  · cases hcase : e.form with
    | name n =>
      -- such a pattern is its own text, which does not start at the root
      obtain ⟨hslash, hplain⟩ := plain_of_formOf_name (hcase ▸ hform)
      rw [(Glob.matchesText_of_plain hplain hg).1 hex] at ht
      exact absurd (List.mem_of_mem_head? ht) hslash
    | tree dir segment =>
      have hprefix : t.toList <+: u.toList := h ▸ List.prefix_append _ _
      exact Or.inl ⟨htext, Or.inr (Or.inl
        (Glob.matchesText_of_prefix (suffix_of_formOf_tree (hcase ▸ hform)) hg hex hprefix))⟩
    | glob => exact Or.inr ⟨hcase, g, hsome, hex⟩
  · exact Or.inl ⟨htext, Or.inr (Or.inr ⟨n, segments_append h ▸ List.mem_append_left _ hn, hex⟩)⟩

end Exclusion

end Multilint
