import Multilint.Scope.IgnoreFile
import Multilint.Proofs.Path.Normal
import Multilint.Proofs.Text.Pieces
/-!
# What an ignore file takes along

The names of a path below an ignored directory start with the names of the directory (`below?_append`),
and a verdict on the directory is one of those that are looked at for each path below it: nothing below it
comes back. A rule that is not negated takes nothing back in either, wherever it stands (`ignores_insert`).
-/

namespace Multilint

namespace IgnoreFile

variable {i : IgnoreFile} {p q : Path} {ms : List String} {x : List Char}

/-- The names of a path below another one go on behind its names. -/
theorem below?_append (h : q.slashed.toList = p.slashed.toList ++ '/' :: x)
    (hp : i.below? p = some ms) :
    ms ≠ [] ∧ ∃ ns, ns ≠ [] ∧ i.below? q = some (ms ++ ns) := by
  unfold below? at hp
  split at hp
  · rename_i c cs hafter
    obtain rfl := Option.some.inj hp
    have hq : Text.after? i.root.toList q.slashed.toList =
        some ('/' :: c :: (cs ++ '/' :: x)) := by
      rw [Text.after?_eq_some_iff, h, Text.after?_eq_some_iff.1 hafter]
      simp
    refine ⟨Text.pieces_ne_nil _, Text.pieces '/' (String.ofList x), Text.pieces_ne_nil _, ?_⟩
    rw [below?, hq]
    exact congrArg some (Text.pieces_append (by simp))
  · cases hp

/-- **An ignored directory takes along what is below it.** -/
theorem ignores_below {isDir : Bool} (h : q.slashed.toList = p.slashed.toList ++ '/' :: x)
    (hp : i.ignores p true = true) : i.ignores q isDir = true := by
  cases hms : i.below? p with
  | none =>
    rw [ignores, hms] at hp
    cases hp
  | some ms =>
    obtain ⟨hne, ns, hns, hq⟩ := below?_append h hms
    have hlen := List.length_pos_iff.2 hne
    have hlen' := List.length_pos_iff.2 hns
    simp only [ignores, hms, Bool.or_eq_true, List.any_eq_true, List.mem_range] at hp
    simp only [ignores, hq, Bool.or_eq_true, List.any_eq_true, List.mem_range, List.length_append]
    left
    rcases hp with ⟨k, hk, hverdict⟩ | hverdict
    · exact ⟨k, by omega, by rwa [List.take_append_of_le_length (by omega)]⟩
    · -- the last names of the directory are now in the middle
      refine ⟨ms.length - 1, by omega, ?_⟩
      rwa [Nat.sub_add_cancel hlen, List.take_left]

/-! ## One more rule -/

section Rules

variable {root : String} {rs rs' : List IgnoreRule} {r : IgnoreRule} {names : List String} {isDir : Bool}

/-- The verdict on a path after some rules, given the verdict before them. -/
def verdictAfter (rs : List IgnoreRule) (names : List String) (isDir v : Bool) : Bool :=
  rs.foldl (fun v r => if r.matchesAt names isDir then !r.negated else v) v

theorem verdictAfter_cons (v : Bool) : verdictAfter (r :: rs) names isDir v =
    verdictAfter rs names isDir (if r.matchesAt names isDir then !r.negated else v) :=
  rfl

theorem lastVerdict_append : lastVerdict ⟨root, rs ++ rs'⟩ names isDir =
    verdictAfter rs' names isDir (verdictAfter rs names isDir false) :=
  List.foldl_append

/-- What some rules ignore by themselves they do not take back in. -/
theorem verdictAfter_mono {v : Bool} (h : verdictAfter rs names isDir v = true) :
    verdictAfter rs names isDir true = true := by
  induction rs generalizing v with
  | nil => rfl
  | cons r rs ih =>
    rw [verdictAfter_cons] at h ⊢
    by_cases hr : r.matchesAt names isDir = true
    · rw [if_pos hr] at h ⊢
      exact h
    · rw [if_neg hr] at h ⊢
      exact ih h

/-- A rule that is not negated keeps what is ignored, wherever it is put. -/
theorem lastVerdict_insert (hr : r.negated = false)
    (h : lastVerdict ⟨root, rs ++ rs'⟩ names isDir = true) :
    lastVerdict ⟨root, rs ++ r :: rs'⟩ names isDir = true := by
  rw [lastVerdict_append] at h ⊢
  rw [verdictAfter_cons]
  by_cases hmatch : r.matchesAt names isDir = true
  · rw [if_pos hmatch, hr]
    exact verdictAfter_mono h
  · rwa [if_neg hmatch]

/-- **One more rule ignores more**, unless it is negated. -/
theorem ignores_insert (hr : r.negated = false) (h : ignores ⟨root, rs ++ rs'⟩ p isDir = true) :
    ignores ⟨root, rs ++ r :: rs'⟩ p isDir = true := by
  have hbelow : below? ⟨root, rs ++ r :: rs'⟩ p = below? ⟨root, rs ++ rs'⟩ p := rfl
  rw [ignores] at h ⊢
  rw [hbelow]
  cases hnames : below? ⟨root, rs ++ rs'⟩ p with
  | none =>
    rw [hnames] at h
    cases h
  | some names =>
    rw [hnames] at h
    simp only [Bool.or_eq_true, List.any_eq_true] at h ⊢
    refine h.imp (fun ⟨k, hk, hverdict⟩ => ⟨k, hk, ?_⟩) fun hverdict => ?_
    · exact lastVerdict_insert hr hverdict
    · exact lastVerdict_insert hr hverdict

end Rules

end IgnoreFile

end Multilint
