import Multilint.Proofs.Glob.Splitting
import Multilint.Proofs.Scope.Exclusion
/-!
# Exclude patterns and the place of a directory

Patterns are matched with paths from the root, so they see the directories above the one a run is about: its
*place*. A pattern that does not `meet` the place says of what lies below what it says of the rest of the path
alone (`excludes_eq_below`). One that `covers` the place takes out all that lies below (`excludes_of_covers`).
-/

namespace Multilint

namespace Exclusion

variable {e : Exclusion} {form : ExclusionForm} {place rest path : String}

/-! ## Patterns that do not meet a place -/

/-- One of two texts is a beginning of the other one. -/
def overlaps (a b : List Char) : Bool :=
  a.isPrefixOf b || b.isPrefixOf a

/-- Whether what the form of a pattern looks for is in a place, or starts in it. -/
def formMeets (place : String) : ExclusionForm → Bool
  | .name n => (segments place).contains n
  | .tree dir segment =>
    (place.toList.tails.any fun v =>
        !v.isEmpty && overlaps ('/' :: dir.toList ++ ['/']) (v ++ ['/'])) ||
      overlaps (dir.toList ++ ['/']) (place.toList ++ ['/']) ||
      segment.any fun g => (segments place).any g.matchesText
  | .glob => false

/-- **A pattern meets a place**: it matches there, or starts to. -/
def meets (e : Exclusion) (place : String) : Bool :=
  formMeets place e.form ||
    e.glob.any fun g => g.beginsIn (place.toList ++ ['/']) || (segments place).any g.matchesText

/-- What the form of a pattern says of the rest of a path. -/
def formMatchesBelow (rest : String) : ExclusionForm → Bool
  | .name n => (segments rest).contains n
  | .tree dir segment =>
    Text.occursIn ('/' :: dir.toList ++ ['/']) ('/' :: rest.toList) ||
      segment.any fun g => (segments rest).dropLast.any g.matchesText
  | .glob => false

/-- **What a pattern says of the rest of a path**, whatever place comes before it. Only a glob that starts
with a star reaches there from the root. -/
def excludesBelow (e : Exclusion) (rest : String) : Bool :=
  e.text ≠ "" &&
    (formMatchesBelow rest e.form ||
      e.glob.any fun g =>
        (g.tokens.head?.any Glob.isStar && g.matchesText rest) || (segments rest).any g.matchesText)

theorem overlaps_of_prefixes {a b s : List Char} (ha : a <+: s) (hb : b <+: s) : overlaps a b = true := by
  rw [overlaps, Bool.or_eq_true, List.isPrefixOf_iff_prefix, List.isPrefixOf_iff_prefix]
  exact List.prefix_or_prefix_of_prefix ha hb

/-- What occurs in a text of two parts occurs in the second one, or starts in the first one. -/
theorem infix_append_cases {d a b : List Char} (h : d <:+: a ++ b) :
    d <:+: b ∨ ∃ v, v ≠ [] ∧ v <:+ a ∧ d <+: v ++ b := by
  induction a with
  | nil => exact Or.inl h
  | cons c a ih =>
    rw [List.cons_append, List.infix_cons_iff] at h
    rcases h with h | h
    · exact Or.inr ⟨c :: a, List.cons_ne_nil c a, List.suffix_rfl, h⟩
    · refine (ih h).imp_right ?_
      rintro ⟨v, hv, hva, hd⟩
      exact ⟨v, hv, hva.trans (List.suffix_cons c a), hd⟩

/-- A directory that does not start in the place is found below it, or nowhere. -/
theorem occursIn_below {d x : List Char}
    (h : (place.toList.tails.any fun v => !v.isEmpty && overlaps d (v ++ ['/'])) = false) :
    Text.occursIn d (place.toList ++ '/' :: x) = Text.occursIn d ('/' :: x) := by
  rw [Bool.eq_iff_iff, Text.occursIn_iff, Text.occursIn_iff]
  refine ⟨fun hd => ?_, fun hd => hd.trans (List.suffix_append _ _).isInfix⟩
  rcases infix_append_cases hd with hd | ⟨v, hv, hva, hd⟩
  · exact hd
  · -- it and the end of the place, with the slash, are two beginnings of one text
    have hstart : v ++ ['/'] <+: v ++ '/' :: x := ⟨x, by simp⟩
    have hnot := List.any_eq_false.1 h v ((List.mem_tails v _).2 hva)
    simp [hv, overlaps_of_prefixes hd hstart] at hnot

theorem segments_below (h : path.toList = place.toList ++ '/' :: rest.toList) :
    segments path = segments place ++ segments rest := by
  rw [segments_append h, String.ofList_toList]

/-- If nothing in the first part of a list is meant, the last member need not be told apart in the whole. -/
theorem any_dropLast_append {α : Type} {p : α → Bool} {as bs : List α} (h : as.any p = false) :
    (as ++ bs).dropLast.any p = bs.dropLast.any p := by
  cases bs with
  | nil =>
    rw [List.append_nil]
    exact List.any_eq_false.2 fun a ha => List.any_eq_false.1 h a (List.dropLast_subset as ha)
  | cons b bs =>
    rw [List.dropLast_append_of_ne_nil (List.cons_ne_nil b bs), List.any_append, h, Bool.false_or]

theorem formMatches_eq_below (hplace : formMeets place form = false)
    (h : path.toList = place.toList ++ '/' :: rest.toList) :
    formMatches path form = formMatchesBelow rest form := by
  have hseg := segments_below h
  cases form with
  | name n =>
    rw [formMeets] at hplace
    rw [formMatches, formMatchesBelow, hseg, List.contains_append, hplace, Bool.false_or]
  | tree dir segment =>
    simp only [formMeets, Bool.or_eq_false_iff] at hplace
    obtain ⟨⟨hdir, hroot⟩, hsegment⟩ := hplace
    have hafter : (Text.after? (dir.toList ++ ['/']) path.toList).isSome = false := by
      rw [Bool.eq_false_iff, Ne, Text.isSome_after?_iff, h]
      intro hpre
      have hstart : place.toList ++ ['/'] <+: place.toList ++ '/' :: rest.toList := ⟨rest.toList, by simp⟩
      rw [overlaps_of_prefixes hpre hstart] at hroot
      cases hroot
    rw [formMatches, formMatchesBelow, hafter, Bool.or_false, h, occursIn_below hdir, hseg]
    cases segment with
    | none => rfl
    | some g => rw [Option.any_some, Option.any_some, any_dropLast_append hsegment]
  | glob => rfl

/-- **A pattern that does not meet a place** judges what lies below by the rest of its path. -/
theorem excludes_eq_below (hplace : e.meets place = false)
    (h : path.toList = place.toList ++ '/' :: rest.toList) :
    e.excludes path = e.excludesBelow rest := by
  rw [meets, Bool.or_eq_false_iff] at hplace
  rw [excludes, excludesBelow, formMatches_eq_below hplace.1 h, segments_below h]
  cases hglob : e.glob with
  | none => rfl
  | some g =>
    have hg := hplace.2
    rw [hglob, Option.any_some, Bool.or_eq_false_iff] at hg
    have hwhole : g.matchesText path = (g.tokens.head?.any Glob.isStar && g.matchesText rest) := by
      rw [Bool.eq_iff_iff, Bool.and_eq_true, Glob.matchesText, Glob.matchesText, h]
      exact Glob.matchTokens_below_iff hg.1
    rw [Option.any_some, Option.any_some, hwhole, List.any_append, hg.2, Bool.false_or]

/-! ## Patterns that cover a place -/

/-- **A pattern covers a place**: it takes out whatever lies below. -/
def covers (e : Exclusion) (place : String) : Bool :=
  e.text ≠ "" &&
    (formMatches (place ++ "/") e.form ||
      e.glob.any fun g =>
        (decide (g.tokens.getLast? = some .anyRun) && g.matchesText (place ++ "/")) ||
          (segments place).any g.matchesText)

theorem segments_slash : segments (place ++ "/") = segments place := by
  have htext : (place ++ "/").toList = place.toList ++ '/' :: "".toList := String.toList_append
  rw [segments_below htext]
  exact List.append_nil _

/-- What the form of a pattern matches with the slash behind a place, it matches below. -/
theorem formMatches_of_covered (hplace : formMatches (place ++ "/") form = true)
    (h : path.toList = place.toList ++ '/' :: rest.toList) : formMatches path form = true := by
  have hpre : (place ++ "/").toList <+: path.toList := ⟨rest.toList, by simp [h]⟩
  have hseg := segments_below h
  cases form with
  | name n =>
    rw [formMatches, segments_slash] at hplace
    rw [formMatches, hseg, List.contains_append, hplace, Bool.true_or]
  | tree dir segment =>
    simp only [formMatches, Bool.or_eq_true, Text.occursIn_iff, Text.isSome_after?_iff] at hplace ⊢
    rcases hplace with (hdir | hroot) | hsegment
    · exact Or.inl (Or.inl (hdir.trans hpre.isInfix))
    · exact Or.inl (Or.inr (hroot.trans hpre))
    · refine Or.inr ?_
      rw [segments_slash] at hsegment
      obtain ⟨g, hg, hany⟩ := (Option.any_eq_true _ _).1 hsegment
      obtain ⟨n, hn, hmatch⟩ := List.any_eq_true.1 hany
      rw [hg, hseg]
      exact List.any_eq_true.2 ⟨n, mem_dropLast_append hn, hmatch⟩
  | glob => cases hplace

/-- **What lies below a covered place is excluded.** -/
theorem excludes_of_covers (hplace : e.covers place = true)
    (h : path.toList = place.toList ++ '/' :: rest.toList) : e.excludes path = true := by
  rw [covers, Bool.and_eq_true, Bool.or_eq_true] at hplace
  rw [excludes, Bool.and_eq_true, Bool.or_eq_true]
  refine ⟨hplace.1, hplace.2.imp (fun hform => formMatches_of_covered hform h) fun hglob => ?_⟩
  obtain ⟨g, hg, hcovers⟩ := (Option.any_eq_true _ _).1 hglob
  rw [hg, Option.any_some, Bool.or_eq_true]
  rw [Bool.or_eq_true, Bool.and_eq_true, decide_eq_true_eq] at hcovers
  rcases hcovers with ⟨hrun, hmatch⟩ | hsegment
  · obtain ⟨us, hus⟩ := List.getLast?_eq_some_iff.1 hrun
    have hpath : path.toList = (place ++ "/").toList ++ rest.toList := by simp [h]
    rw [Glob.matchesText, hus] at hmatch
    rw [Glob.matchesText, hpath, hus]
    exact Or.inl (Glob.matchTokens_append hmatch)
  · obtain ⟨n, hn, hmatch⟩ := List.any_eq_true.1 hsegment
    rw [segments_below h]
    exact Or.inr (List.any_eq_true.2 ⟨n, List.mem_append_left _ hn, hmatch⟩)

end Exclusion

end Multilint
