import Multilint.Proofs.Text.Pieces
import Multilint.Proofs.Text.Trim
import Multilint.Text.Scan
import Mathlib.Data.List.TakeWhile
/-!
# What a scan finds

A beginning of a class of characters is the longest there is (`spanSome?_eq_some_iff`), and a beginning that may
be as short as the rest allows is one behind which the rest is accepted and before whose end none is
(`shortest_eq_some_iff`). Where a part ends is then told by a separator: a text is divided in one way by the first
separator in it, and in one way by the last (`eq_of_first`, `eq_of_last`).
-/

namespace Multilint

namespace Text

variable {α : Type} {p : Char → Bool} {accept : List Char → Option α} {s l r a b x y : List Char} {c : Char}
  {found : α}

/-! ## Beginnings -/

theorem word?_eq_some_iff {w : String} : word? w s = some r ↔ s = w.toList ++ r :=
  after?_eq_some_iff

/-- Characters of the class in front of something else are the beginning. -/
theorem spanSome?_append (hne : l ≠ []) (hl : ∀ c ∈ l, p c = true) (hr : r.head?.any p = false) :
    spanSome? p (l ++ r) = some (l, r) := by
  rw [spanSome?, List.takeWhile_append_of_pos hl, List.dropWhile_append_of_pos hl, takeWhile_of_head hr,
    dropWhile_of_head hr, List.append_nil]
  exact if_neg (mt List.isEmpty_iff.1 hne)

/-- **The longest beginning of a class** ends where something else starts. -/
theorem spanSome?_eq_some_iff : spanSome? p s = some (l, r) ↔
    s = l ++ r ∧ l ≠ [] ∧ (∀ c ∈ l, p c = true) ∧ r.head?.any p = false := by
  constructor
  · intro h
    rw [spanSome?] at h
    split at h
    · cases h
    · rename_i hne
      obtain ⟨rfl, rfl⟩ := Prod.mk.inj (Option.some.inj h)
      refine ⟨List.takeWhile_append_dropWhile.symm, mt List.isEmpty_iff.2 hne, ?_, head?_dropWhile s⟩
      exact fun c hc => List.mem_takeWhile_imp hc
  · rintro ⟨rfl, hne, hl, hr⟩
    exact spanSome?_append hne hl hr

/-- A text that starts with something else has no such beginning. -/
theorem spanSome?_of_head (hs : s.head?.any p = false) : spanSome? p s = none := by
  rw [spanSome?, takeWhile_of_head hs]
  rfl

theorem blankEnd_iff : blankEnd s = true ↔ ∀ c ∈ s, isBlank c = true :=
  List.all_eq_true

/-! ## Beginnings as short as the rest allows -/

/-- **The shortest beginning** has an accepted rest, and nothing that starts earlier is accepted. -/
theorem shortest_eq_some_iff : shortest accept s = some (l, found) ↔
    ∃ r, s = l ++ r ∧ accept r = some found ∧ ∀ v, v <:+ l → v ≠ [] → accept (v ++ r) = none := by
  induction s generalizing l with
  | nil =>
    rw [shortest, Option.map_eq_some_iff]
    constructor
    · rintro ⟨_, haccept, ⟨⟩⟩
      exact ⟨[], rfl, haccept, fun v hv hne => absurd (List.suffix_nil.1 hv) hne⟩
    · rintro ⟨r, hnil, haccept, -⟩
      obtain ⟨rfl, rfl⟩ := List.nil_eq_append_iff.1 hnil
      exact ⟨found, haccept, rfl⟩
  | cons c cs ih =>
    rw [shortest]
    -- where the whole text is accepted the beginning is empty, and otherwise its first character belongs to it
    cases hfirst : accept (c :: cs) with
    | some first =>
      constructor
      · rintro ⟨⟩
        exact ⟨c :: cs, rfl, hfirst, fun v hv hne => absurd (List.suffix_nil.1 hv) hne⟩
      · rintro ⟨r, hsplit, haccept, hnone⟩
        cases l with
        | nil =>
          rw [List.nil_append] at hsplit
          rw [← hsplit, hfirst] at haccept
          rw [Option.some.inj haccept]
        | cons d l =>
          have hearly := hnone (d :: l) (List.suffix_refl _) (List.cons_ne_nil d l)
          rw [← hsplit, hfirst] at hearly
          cases hearly
    | none =>
      rw [Option.map_eq_some_iff]
      constructor
      · rintro ⟨⟨l, b⟩, hrest, ⟨⟩⟩
        obtain ⟨r, rfl, haccept, hnone⟩ := ih.1 hrest
        refine ⟨r, rfl, haccept, fun v hv hne => ?_⟩
        rcases List.suffix_cons_iff.1 hv with rfl | hv
        · exact hfirst
        · exact hnone v hv hne
      · rintro ⟨r, hsplit, haccept, hnone⟩
        cases l with
        | nil =>
          rw [List.nil_append] at hsplit
          rw [← hsplit, hfirst] at haccept
          cases haccept
        | cons d l =>
          obtain ⟨rfl, rfl⟩ := List.cons.inj hsplit
          refine ⟨(l, found), ih.2 ⟨r, rfl, haccept, fun v hv hne => ?_⟩, rfl⟩
          exact hnone v (hv.trans (List.suffix_cons c l)) hne

/-- The same for a beginning of at least one character. -/
theorem shortestNonempty_eq_some_iff : shortestNonempty accept s = some (l, found) ↔ l ≠ [] ∧
    ∃ r, s = l ++ r ∧ accept r = some found ∧ ∀ v, v <:+ l → v ≠ [] → v ≠ l → accept (v ++ r) = none := by
  cases s with
  | nil =>
    refine iff_of_false nofun ?_
    rintro ⟨hne, r, hnil, -⟩
    exact hne (List.nil_eq_append_iff.1 hnil).1
  | cons c cs =>
    rw [shortestNonempty, Option.map_eq_some_iff]
    constructor
    · rintro ⟨⟨l, b⟩, hrest, ⟨⟩⟩
      obtain ⟨r, rfl, haccept, hnone⟩ := shortest_eq_some_iff.1 hrest
      refine ⟨List.cons_ne_nil c l, r, rfl, haccept, fun v hv hne hproper => ?_⟩
      exact hnone v ((List.suffix_cons_iff.1 hv).resolve_left hproper) hne
    · rintro ⟨hne, r, hsplit, haccept, hnone⟩
      obtain ⟨d, l, rfl⟩ := List.exists_cons_of_ne_nil hne
      obtain ⟨rfl, rfl⟩ := List.cons.inj hsplit
      refine ⟨(l, found), shortest_eq_some_iff.2 ⟨r, rfl, haccept, fun v hv hne => ?_⟩, rfl⟩
      refine hnone v (hv.trans (List.suffix_cons c l)) hne ?_
      rintro rfl
      exact absurd hv.length_le (by simp)

/-! ## The first separator and the last -/

/-- **The first separator divides a text in one way.** -/
theorem eq_of_first (h : a ++ c :: x = b ++ c :: y) (ha : c ∉ a) (hb : c ∉ b) : a = b ∧ x = y := by
  rcases List.append_eq_append_iff.1 h with ⟨m, rfl, hm⟩ | ⟨m, rfl, hm⟩
  · cases m with
    | nil => exact ⟨(List.append_nil a).symm, (List.cons.inj hm).2⟩
    | cons d m =>
      obtain ⟨rfl, -⟩ := List.cons.inj hm
      exact absurd (List.mem_append_right a List.mem_cons_self) hb
  · cases m with
    | nil => exact ⟨List.append_nil b, (List.cons.inj hm).2.symm⟩
    | cons d m =>
      obtain ⟨rfl, -⟩ := List.cons.inj hm
      exact absurd (List.mem_append_right b List.mem_cons_self) ha

/-- **The last separator divides a text in one way.** -/
theorem eq_of_last (h : a ++ c :: x = b ++ c :: y) (hx : c ∉ x) (hy : c ∉ y) : a = b ∧ x = y := by
  have hreverse : x.reverse ++ c :: a.reverse = y.reverse ++ c :: b.reverse := by
    simpa using congrArg List.reverse h
  obtain ⟨hxy, hab⟩ := eq_of_first hreverse (by simpa using hx) (by simpa using hy)
  exact ⟨List.reverse_injective hab, List.reverse_injective hxy⟩

end Text

end Multilint
