import Multilint.Version.Basic
import Mathlib.Data.List.GetD
import Mathlib.Data.Nat.Basic
import Mathlib.Order.Compare
import Mathlib.Order.PiLex
/-!
# The order of versions

Numbers are compared as if zeros went on behind them: `compares_places` says that the comparison is the
one of sequences, in lexicographic order. That order is linear, so what a comparison needs to be used as
one (its transitivity, its reverse, that it is total) is read off the order and not proved of the comparison.
-/

namespace Multilint

namespace Version

variable {a b : Nat} {as bs : List Nat}

/-- **The places of a version**: its numbers, and zeros in all places behind them. -/
def places (ns : List Nat) : Lex (ℕ → ℕ) := toLex fun i => ns.getD i 0

/-- The first place in which two versions differ decides. -/
theorem places_lt_iff : places as < places bs ↔
    ∃ i, (∀ j < i, as.getD j 0 = bs.getD j 0) ∧ as.getD i 0 < bs.getD i 0 :=
  Iff.rfl

/-- A last zero says nothing. -/
theorem places_nil : places [] = places [0] := by
  refine congrArg toLex (funext fun i => ?_)
  cases i <;> simp

/-- **The first numbers are compared first.** -/
theorem places_cons_lt_iff :
    places (a :: as) < places (b :: bs) ↔ a < b ∨ a = b ∧ places as < places bs := by
  rw [places_lt_iff, places_lt_iff]
  constructor
  · rintro ⟨i, hsame, hlt⟩
    cases i with
    | zero => exact Or.inl hlt
    | succ i =>
      refine Or.inr ⟨hsame 0 i.succ_pos, i, fun j hj => ?_, hlt⟩
      exact hsame (j + 1) (Nat.succ_lt_succ hj)
  · rintro (hlt | ⟨rfl, i, hsame, hlt⟩)
    · exact ⟨0, fun j hj => absurd hj (Nat.not_lt_zero j), hlt⟩
    · refine ⟨i + 1, fun j hj => ?_, hlt⟩
      cases j with
      | zero => rfl
      | succ j => exact hsame j (Nat.lt_of_succ_lt_succ hj)

theorem places_cons_inj : places (a :: as) = places (b :: bs) ↔ a = b ∧ places as = places bs := by
  constructor
  · intro h
    exact ⟨congrFun h 0, funext fun i => congrFun h (i + 1)⟩
  · rintro ⟨rfl, h⟩
    refine funext fun i => ?_
    cases i with
    | zero => rfl
    | succ i => exact congrFun h i

/-- Versions that start alike are in the order of what follows. -/
theorem compares_places_cons {o : Ordering} (h : o.Compares (places as) (places bs)) :
    o.Compares (places (a :: as)) (places (a :: bs)) := by
  cases o with
  | lt => exact places_cons_lt_iff.2 (Or.inr ⟨rfl, h⟩)
  | eq => exact places_cons_inj.2 ⟨rfl, h⟩
  | gt => exact places_cons_lt_iff.2 (Or.inr ⟨rfl, h⟩)

/-- **Versions are compared as sequences** that go on with zeros. -/
theorem compares_places (as bs : List Nat) :
    (compareNumbers as bs).Compares (places as) (places bs) := by
  -- a missing number is a zero, so each case compares two first numbers
  fun_induction compareNumbers as bs with
  | case1 => rfl
  | case2 bs ih => exact places_nil ▸ compares_places_cons ih
  | case3 b bs hb =>
    exact places_nil ▸ places_cons_lt_iff.2 (Or.inl (Nat.pos_of_ne_zero hb))
  | case4 as ih => exact places_nil ▸ compares_places_cons ih
  | case5 a as ha =>
    exact places_nil ▸ places_cons_lt_iff.2 (Or.inl (Nat.pos_of_ne_zero ha))
  | case6 a as b bs h => exact places_cons_lt_iff.2 (Or.inl h)
  | case7 a as b bs h h' => exact places_cons_lt_iff.2 (Or.inl h')
  | case8 a as b bs h h' ih =>
    obtain rfl : a = b := Nat.le_antisymm (Nat.le_of_not_lt h') (Nat.le_of_not_lt h)
    exact compares_places_cons ih

theorem compareNumbers_eq_lt_iff : compareNumbers as bs = .lt ↔ places as < places bs :=
  (compares_places as bs).eq_lt

/-- Two texts are compared if both start with a version. -/
theorem compareTexts?_eq_some_iff {s t : String} {o : Ordering} : compareTexts? s t = some o ↔
    ∃ v m, ofText? s = some v ∧ ofText? t = some m ∧ v.compare m = o := by
  simp only [compareTexts?, Option.bind_eq_bind, Option.bind_eq_some_iff, Option.pure_def,
    Option.some.injEq, exists_and_left]

/-! ## More and fewer numbers -/

/-- **A zero behind the last number** says nothing. -/
theorem places_concat_zero (ns : List Nat) : places (ns ++ [0]) = places ns := by
  refine congrArg toLex (funext fun i => ?_)
  rcases Nat.lt_or_ge i ns.length with hi | hi
  · exact List.getD_append _ _ _ _ hi
  · rw [List.getD_append_right _ _ _ _ hi, List.getD_eq_default _ _ hi]
    cases i - ns.length <;> simp

/-- **A version without its last numbers** is not above it. -/
theorem places_le_of_isPrefix (h : as <+: bs) : places as ≤ places bs := by
  obtain ⟨cs, rfl⟩ := h
  refine Pi.toLex_monotone fun i => ?_
  by_cases hi : i < as.length
  · rw [List.getD_append _ _ _ _ hi]
  · rw [List.getD_eq_default _ _ (Nat.le_of_not_lt hi)]
    exact Nat.zero_le _

end Version

end Multilint
