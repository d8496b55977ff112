import Multilint.Text.Basic
import Mathlib.Data.List.DropRight
import Mathlib.Data.String.Basic
/-!
# Separators and occurrences

What `Text.after?`, `Text.occursIn` and `Text.pieces` decide, in terms of lists: a beginning, a part
in the middle, and the parts between separators. A separator divides the pieces of a text as it divides
the text (`pieces_append`), lines are pieces (`filter_lines`), and line feeds between texts add none that
says something (`spoken_intercalate`).

`Text.ledBy` writes a separator in front of each piece, which is how the text of a path from the root is
made of its names. A text that is made so is cut into its pieces again (`splitOn_ledBy`), and every text
behind a separator is made so (`ledBy_splitOn`). So what stands between two separators is a block of pieces
(`infix_ledBy_iff`, `prefix_ledBy_iff`), and separators at the end are empty pieces (`rdropWhile_ledBy`).
-/

namespace Multilint

namespace Text

variable {p s r : List Char} {sep : Char}

theorem after?_eq_some_iff : after? p s = some r ↔ s = p ++ r := by
  induction p generalizing s with
  | nil => simp [after?]
  | cons c p ih =>
    cases s with
    | nil => simp [after?]
    | cons d s =>
      rw [after?, List.cons_append, List.cons.injEq]
      by_cases h : c = d
      · rw [if_pos h, ih, and_iff_right h.symm]
      · rw [if_neg h]
        simp [Ne.symm h]

theorem isSome_after?_iff : (after? p s).isSome = true ↔ p <+: s := by
  rw [Option.isSome_iff_exists]
  exact exists_congr fun r => after?_eq_some_iff.trans eq_comm

theorem occursIn_iff : occursIn p s = true ↔ p <:+: s := by
  induction s with
  | nil => simp [occursIn]
  | cons c s ih => rw [occursIn, Bool.or_eq_true, isSome_after?_iff, ih, List.infix_cons_iff]

theorem splitOn_ne_nil (s : List Char) : splitOn sep s ≠ [] := by
  fun_cases splitOn sep s <;> simp

/-- **A separator divides the pieces** as it divides the text. -/
theorem splitOn_append (a b : List Char) :
    splitOn sep (a ++ sep :: b) = splitOn sep a ++ splitOn sep b := by
  induction a with
  | nil => simp [splitOn]
  | cons c a ih =>
    rw [List.cons_append, splitOn, splitOn, ih]
    split
    · rfl
    · cases h : splitOn sep a with
      | nil => exact absurd h (splitOn_ne_nil a)
      | cons q qs => rfl

/-- A text without the separator is one piece. -/
theorem splitOn_of_not_mem (hs : sep ∉ s) : splitOn sep s = [s] := by
  induction s with
  | nil => rfl
  | cons c s ih =>
    rw [List.mem_cons, not_or] at hs
    rw [splitOn, if_neg (Ne.symm hs.1), ih hs.2]

/-- What is in a joined text is in the separator or in one of the pieces. -/
theorem mem_intercalate_imp {sep : List Char} {ps : List (List Char)} {c : Char}
    (hc : c ∈ sep.intercalate ps) : c ∈ sep ∨ ∃ p ∈ ps, c ∈ p := by
  induction ps with
  | nil => cases hc
  | cons p ps ih =>
    by_cases hps : ps = []
    · rw [hps, List.intercalate_singleton] at hc
      exact Or.inr ⟨p, List.mem_cons_self, hc⟩
    · rw [List.intercalate_cons_of_ne_nil hps, List.mem_append, List.mem_append] at hc
      rcases hc with (hc | hc) | hc
      · exact Or.inr ⟨p, List.mem_cons_self, hc⟩
      · exact Or.inl hc
      · refine (ih hc).imp_right ?_
        rintro ⟨q, hq, hcq⟩
        exact ⟨q, List.mem_cons_of_mem p hq, hcq⟩

/-- **Pieces are cut where they were joined**, if the separator is in none of them. -/
theorem splitOn_intercalate {ps : List (List Char)} (hps : ps ≠ []) (hsep : ∀ p ∈ ps, sep ∉ p) :
    splitOn sep ([sep].intercalate ps) = ps := by
  induction ps with
  | nil => exact absurd rfl hps
  | cons p ps ih =>
    rw [List.forall_mem_cons] at hsep
    cases ps with
    | nil => rw [List.intercalate_singleton, splitOn_of_not_mem hsep.1]
    | cons q qs =>
      rw [List.intercalate_cons_of_ne_nil (List.cons_ne_nil q qs), List.append_assoc,
        List.singleton_append, splitOn_append, splitOn_of_not_mem hsep.1,
        ih (List.cons_ne_nil q qs) hsep.2]
      rfl

theorem pieces_append {u v w : String} (h : w.toList = u.toList ++ sep :: v.toList) :
    pieces sep w = pieces sep u ++ pieces sep v := by
  rw [pieces, h, splitOn_append, List.map_append]
  rfl

theorem pieces_ne_nil (u : String) : pieces sep u ≠ [] :=
  fun h => splitOn_ne_nil u.toList (List.map_eq_nil_iff.1 h)

/-! ## Lines -/

/-- The lines of a text without carriage returns are its pieces between line feeds, but for an empty last
one. -/
theorem lines_eq_or (hs : '\r' ∉ s) :
    lines s = splitOn '\n' s ∨ splitOn '\n' s = lines s ++ [[]] := by
  induction s with
  | nil => exact Or.inr rfl
  | cons c s ih =>
    rw [List.mem_cons, not_or] at hs
    by_cases hc : c = '\n'
    · rw [hc, lines, splitOn, if_pos rfl]
      exact (ih hs.2).imp (congrArg ([] :: ·)) (congrArg ([] :: ·))
    · have hline : lines (c :: s) = consLine c (lines s) := by
        rw [lines]
        · rintro rfl
          exact absurd rfl hc
        · rintro _ rfl
          exact absurd rfl hs.1
      rw [hline, splitOn, if_neg hc]
      rcases ih hs.2 with h | h
      · rw [← h]
        cases hlines : lines s with
        | nil =>
          rw [hlines] at h
          exact absurd h.symm (splitOn_ne_nil s)
        | cons l ls => exact Or.inl rfl
      · rw [h]
        cases lines s with
        | nil => exact Or.inl rfl
        | cons l ls => exact Or.inr rfl

/-- **The lines that say something** are the pieces that do. -/
theorem filter_lines (hs : '\r' ∉ s) :
    ((lines s).filter fun l => !l.isEmpty) = (splitOn '\n' s).filter fun l => !l.isEmpty := by
  rcases lines_eq_or hs with h | h
  · rw [h]
  · rw [h, List.filter_append]
    exact (List.append_nil _).symm

/-! ## Pieces that say something -/

/-- **The pieces of a text between line feeds** that are not empty. -/
def spoken (s : List Char) : List (List Char) :=
  (splitOn '\n' s).filter fun l => !l.isEmpty

theorem spoken_append (a b : List Char) : spoken (a ++ '\n' :: b) = spoken a ++ spoken b := by
  rw [spoken, splitOn_append, List.filter_append]
  rfl

/-- A line of text is the one piece there is. -/
theorem spoken_of_line (hs : s ≠ []) (hfeed : '\n' ∉ s) : spoken s = [s] := by
  rw [spoken, splitOn_of_not_mem hfeed, List.filter_cons_of_pos (by simpa using hs)]
  rfl

/-- **Line feeds between texts say nothing.** -/
theorem spoken_intercalate (n : ℕ) (ps : List (List Char)) :
    spoken ((List.replicate (n + 1) '\n').intercalate ps) = ps.flatMap spoken := by
  have hfeeds : ∀ (m : ℕ) (b : List Char), spoken (List.replicate m '\n' ++ b) = spoken b := by
    intro m b
    induction m with
    | zero => rfl
    | succ m ih =>
      have hfirst : List.replicate (m + 1) '\n' ++ b = [] ++ '\n' :: (List.replicate m '\n' ++ b) := rfl
      rw [hfirst, spoken_append, ih]
      rfl
  induction ps with
  | nil => rfl
  | cons p ps ih =>
    by_cases hps : ps = []
    · rw [hps, List.intercalate_singleton, List.flatMap_singleton]
    · rw [List.intercalate_cons_of_ne_nil hps, List.append_assoc, List.replicate_succ,
        List.cons_append, spoken_append, hfeeds, ← List.replicate_succ, ih, List.flatMap_cons]

end Text

namespace Text

variable {sep c : Char} {ps qs : List (List Char)} {s d : List Char}

/-! ## Pieces behind separators -/

/-- **The text of pieces that a separator leads.** -/
def ledBy (sep : Char) (ps : List (List Char)) : List Char :=
  ps.flatMap (sep :: ·)

@[simp] theorem ledBy_nil : ledBy sep [] = [] := rfl

@[simp] theorem ledBy_cons : ledBy sep (d :: ps) = sep :: (d ++ ledBy sep ps) := rfl

@[simp] theorem ledBy_append : ledBy sep (ps ++ qs) = ledBy sep ps ++ ledBy sep qs :=
  List.flatMap_append

theorem ledBy_eq_cons_intercalate (hps : ps ≠ []) : ledBy sep ps = sep :: [sep].intercalate ps := by
  induction ps with
  | nil => exact absurd rfl hps
  | cons p ps ih =>
    by_cases hrest : ps = []
    · rw [hrest, List.intercalate_singleton, ledBy_cons, ledBy_nil, List.append_nil]
    · rw [ledBy_cons, ih hrest, List.intercalate_cons_of_ne_nil hrest, List.append_assoc]
      rfl

/-- **Every text behind a separator is made of its pieces.** -/
theorem ledBy_splitOn (s : List Char) : ledBy sep (splitOn sep s) = sep :: s := by
  fun_induction splitOn sep s with
  | case1 => rfl
  | case2 s ih => rw [ledBy_cons, ih, List.nil_append]
  | case3 c s _ hnil => exact absurd hnil (splitOn_ne_nil s)
  | case4 c s _ p ps hs ih =>
    rw [hs, ledBy_cons, List.cons.injEq] at ih
    rw [ledBy_cons, List.cons_append, ih.2]

/-- **A text is joined again from its pieces.** -/
theorem intercalate_splitOn (s : List Char) : [sep].intercalate (splitOn sep s) = s := by
  have hled : ledBy sep (splitOn sep s) = sep :: s := ledBy_splitOn s
  rw [ledBy_eq_cons_intercalate (splitOn_ne_nil s)] at hled
  exact (List.cons.inj hled).2

/-- **The pieces are read back.** -/
theorem splitOn_ledBy (hsep : ∀ p ∈ ps, sep ∉ p) : splitOn sep (ledBy sep ps) = [] :: ps := by
  by_cases hps : ps = []
  · rw [hps]
    rfl
  · rw [ledBy_eq_cons_intercalate hps, splitOn, if_pos rfl, splitOn_intercalate hps hsep]

theorem ledBy_inj (hps : ∀ p ∈ ps, sep ∉ p) (hqs : ∀ p ∈ qs, sep ∉ p)
    (h : ledBy sep ps = ledBy sep qs) : ps = qs := by
  have hpieces := congrArg (splitOn sep) h
  rw [splitOn_ledBy hps, splitOn_ledBy hqs] at hpieces
  exact (List.cons.inj hpieces).2

/-- No piece holds the separator. -/
theorem not_mem_of_mem_splitOn {p : List Char} (hp : p ∈ splitOn sep s) : sep ∉ p := by
  induction s generalizing p with
  | nil =>
    obtain rfl : p = [] := by simpa [splitOn] using hp
    exact List.not_mem_nil
  | cons e s ih =>
    rw [splitOn] at hp
    split at hp
    · rcases List.mem_cons.1 hp with rfl | hp
      · exact List.not_mem_nil
      · exact ih hp
    · rename_i hne
      cases hs : splitOn sep s with
      | nil => exact absurd hs (splitOn_ne_nil s)
      | cons q qs =>
        rw [hs] at hp ih
        rcases List.mem_cons.1 hp with rfl | hp
        · exact List.not_mem_cons_of_ne_of_not_mem (Ne.symm hne) (ih List.mem_cons_self)
        · exact ih (List.mem_cons_of_mem q hp)

/-- What a piece holds, the text holds. -/
theorem mem_of_mem_splitOn {p : List Char} (hp : p ∈ splitOn sep s) (hc : c ∈ p) : c ∈ s := by
  have hled : c ∈ ledBy sep (splitOn sep s) :=
    List.mem_flatMap.2 ⟨p, hp, List.mem_cons_of_mem sep hc⟩
  rw [ledBy_splitOn] at hled
  refine (List.mem_cons.1 hled).resolve_left ?_
  rintro rfl
  exact not_mem_of_mem_splitOn hp hc

theorem map_toList_pieces (w : String) : (pieces sep w).map String.toList = splitOn sep w.toList := by
  simp [pieces, List.map_map]

/-- **Strings are cut where they were joined**, if the separator is in none of them. -/
theorem pieces_intercalate {ns : List String} (hne : ns ≠ []) (hsep : ∀ p ∈ ns.map String.toList, sep ∉ p) :
    pieces sep ((String.singleton sep).intercalate ns) = ns := by
  rw [pieces, String.toList_intercalate, String.toList_singleton,
    splitOn_intercalate (by simpa using hne) hsep]
  simp [List.map_map]

/-- **The pieces of a text** are the strings without the separator that it is joined of. -/
theorem splitOn_eq_map_iff {ns : List String} (hsep : ∀ p ∈ ns.map String.toList, sep ∉ p) :
    splitOn sep d = ns.map String.toList ↔
      ns ≠ [] ∧ d = ((String.singleton sep).intercalate ns).toList := by
  rw [String.toList_intercalate, String.toList_singleton]
  constructor
  · intro h
    have hne : splitOn sep d ≠ [] := splitOn_ne_nil d
    rw [h] at hne
    exact ⟨by simpa using hne, by rw [← h, intercalate_splitOn]⟩
  · rintro ⟨hne, rfl⟩
    exact splitOn_intercalate (by simpa using hne) hsep

/-- No piece holds the separator. -/
theorem not_mem_of_mem_pieces {w : String} : ∀ p ∈ (pieces sep w).map String.toList, sep ∉ p := by
  rw [map_toList_pieces]
  exact fun _ => not_mem_of_mem_splitOn

/-! ## What stands between separators -/

/-- **What stands between two separators** is a block of pieces that another one follows. -/
theorem infix_ledBy_iff (hsep : ∀ p ∈ ps, sep ∉ p) :
    sep :: (d ++ [sep]) <:+: ledBy sep ps ↔
      ∃ before n after, ps = before ++ splitOn sep d ++ n :: after := by
  constructor
  · rintro ⟨a, b, h⟩
    have hcut : ledBy sep ps = a ++ sep :: (d ++ sep :: b) := by simpa using h.symm
    have hpieces := splitOn_ledBy hsep
    rw [hcut, splitOn_append, splitOn_append] at hpieces
    -- what stands in front has a first piece, which is the empty one in front of the first separator
    cases ha : splitOn sep a with
    | nil => exact absurd ha (splitOn_ne_nil a)
    | cons q before =>
      cases hb : splitOn sep b with
      | nil => exact absurd hb (splitOn_ne_nil b)
      | cons n after =>
        rw [ha, hb, List.cons_append] at hpieces
        exact ⟨before, n, after, by rw [List.append_assoc, ← (List.cons.inj hpieces).2]⟩
  · rintro ⟨before, n, after, rfl⟩
    refine ⟨ledBy sep before, n ++ ledBy sep after, ?_⟩
    simp [ledBy_splitOn]

/-- **What stands between the first separator and another one** is a block of first pieces that another one
follows. -/
theorem prefix_ledBy_iff (hsep : ∀ p ∈ ps, sep ∉ p) :
    sep :: (d ++ [sep]) <+: ledBy sep ps ↔ ∃ n after, ps = splitOn sep d ++ n :: after := by
  constructor
  · rintro ⟨b, h⟩
    have hcut : ledBy sep ps = sep :: (d ++ sep :: b) := by simpa using h.symm
    have hpieces := splitOn_ledBy hsep
    rw [hcut, splitOn, if_pos rfl, splitOn_append] at hpieces
    cases hb : splitOn sep b with
    | nil => exact absurd hb (splitOn_ne_nil b)
    | cons n after =>
      rw [hb] at hpieces
      exact ⟨n, after, (List.cons.inj hpieces).2.symm⟩
  · rintro ⟨n, after, rfl⟩
    refine ⟨n ++ ledBy sep after, ?_⟩
    simp [ledBy_splitOn]

/-- **Separators at the end are empty pieces.** -/
theorem rdropWhile_ledBy (hsep : ∀ p ∈ ps, sep ∉ p) :
    (ledBy sep ps).rdropWhile (· = sep) = ledBy sep (ps.rdropWhile (·.isEmpty)) := by
  induction ps using List.reverseRecOn with
  | nil => rfl
  | append_singleton ps p ih =>
    rw [ledBy_append, ledBy_cons, ledBy_nil, List.append_nil]
    rcases List.eq_nil_or_concat p with rfl | ⟨q, c, rfl⟩
    · rw [List.rdropWhile_concat_pos _ _ _ (by simp), List.rdropWhile_concat_pos _ _ _ (by simp),
        ih fun p hp => hsep p (List.mem_append_left _ hp)]
    · have hc : c ≠ sep := by
        rintro rfl
        exact hsep (q.concat c) (by simp) (by simp)
      have htext : ledBy sep ps ++ sep :: q.concat c = (ledBy sep ps ++ sep :: q) ++ [c] := by simp
      rw [htext, List.rdropWhile_concat_neg _ _ _ (by simpa using hc),
        List.rdropWhile_concat_neg _ _ _ (by simp)]
      simp

end Text

end Multilint
