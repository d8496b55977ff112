import Multilint.Proofs.Text.Classes
import Multilint.Version.Basic
/-!
# The numbers a text starts with

`Numbered s gs rest` says how a version text is made: groups of digits with a full stop between each two,
and something behind them that no number goes on in. A text that starts with a digit is made so in exactly
one way, and its groups are those that `dotted` cuts it into (`numbered_dotted`, `Numbered.dotted_eq`); text
behind it in which the numbers do not go on leaves them as they are (`Numbered.append`).
-/

namespace Multilint

namespace Version

open Text

variable {c : Char} {r s rest ds g : List Char} {gs : List (List Char)}

/-- Groups with a full stop between each two. -/
def withStops : List (List Char) → List Char
  | [] => []
  | [g] => g
  | g :: h :: gs => g ++ '.' :: withStops (h :: gs)

theorem withStops_cons (hne : gs ≠ []) : withStops (g :: gs) = g ++ '.' :: withStops gs := by
  cases gs with
  | nil => exact absurd rfl hne
  | cons h gs => rfl

theorem withStops_concat (hne : gs ≠ []) : withStops (gs ++ [g]) = withStops gs ++ '.' :: g := by
  induction gs with
  | nil => exact absurd rfl hne
  | cons h gs ih =>
    rw [List.cons_append, withStops_cons (List.append_ne_nil_of_right_ne_nil gs (List.cons_ne_nil g []))]
    cases gs with
    | nil => rfl
    | cons k gs =>
      rw [ih (List.cons_ne_nil k gs), withStops_cons (List.cons_ne_nil k gs), List.append_assoc,
        List.cons_append]

/-- Whether the numbers in front of a text go on in it. -/
def goesOn : List Char → Bool
  | [] => false
  | c :: cs => isNumeral c || (c = '.' && cs.head?.any isNumeral)

/-- What is left of a text behind the numbers it starts with. -/
def behindNumbers : List Char → List Char
  | [] => []
  | c :: cs => if goesOn (c :: cs) then behindNumbers cs else c :: cs

/-- **A text starts with numbers**: groups of digits with full stops between them, and behind them
something in which they do not go on. -/
structure Numbered (s : List Char) (gs : List (List Char)) (rest : List Char) : Prop where
  /-- The text is what the groups write, and the rest. -/
  text : s = withStops gs ++ rest
  /-- There is a group. -/
  ne_nil : gs ≠ []
  /-- No group is empty. -/
  group_ne_nil : ∀ g ∈ gs, g ≠ []
  /-- The groups have digits only. -/
  digits : ∀ g ∈ gs, ∀ c ∈ g, isNumeral c = true
  /-- The numbers do not go on. -/
  stops : goesOn rest = false

theorem isNumeral_stop : isNumeral '.' = false := by
  decide

theorem head?_of_goesOn_eq_false (h : goesOn s = false) : s.head?.any isNumeral = false := by
  cases s with
  | nil => rfl
  | cons c s =>
    rw [goesOn, Bool.or_eq_false_iff] at h
    exact h.1

theorem goesOn_behindNumbers (s : List Char) : goesOn (behindNumbers s) = false := by
  induction s with
  | nil => rfl
  | cons c s ih =>
    rw [behindNumbers]
    split
    · exact ih
    · rename_i h
      exact Bool.eq_false_iff.2 h

/-! ## Text behind the numbers -/

/-- Numbers that do not go on in a text nor in the next one do not go on in both. -/
theorem goesOn_append (hr : goesOn r = false) (hs : goesOn s = false) : goesOn (r ++ s) = false := by
  cases r with
  | nil => exact hs
  | cons c r =>
    cases r with
    | nil =>
      rw [goesOn, Bool.or_eq_false_iff] at hr
      rw [List.cons_append, List.nil_append, goesOn, hr.1, head?_of_goesOn_eq_false hs, Bool.and_false,
        Bool.or_false]
    | cons d r => exact hr

theorem goesOn_of_isPrefix (h : r <+: s) (hs : goesOn s = false) : goesOn r = false := by
  obtain ⟨m, rfl⟩ := h
  cases r with
  | nil => rfl
  | cons c r =>
    cases r with
    | nil =>
      rw [List.cons_append, List.nil_append, goesOn, Bool.or_eq_false_iff] at hs
      rw [goesOn, hs.1]
      exact Bool.and_false _
    | cons d r => exact hs

theorem goesOn_of_blank (hs : ∀ c ∈ s, isBlank c = true) : goesOn s = false := by
  cases s with
  | nil => rfl
  | cons c s =>
    have hc : isBlank c = true := hs c List.mem_cons_self
    have hdigit : isNumeral c = false := by
      by_contra hnumeral
      rw [isBlank_of_isNumeral (by simpa using hnumeral)] at hc
      cases hc
    have hstop : c ≠ '.' := by
      rintro rfl
      cases hc
    rw [goesOn, hdigit, decide_eq_false hstop]
    rfl

/-- **Text behind the numbers leaves them as they are** where they do not go on in it. -/
theorem Numbered.append {t : List Char} (hs : Numbered s gs rest) (ht : goesOn t = false) :
    Numbered (s ++ t) gs (rest ++ t) where
  text := by rw [hs.text, List.append_assoc]
  ne_nil := hs.ne_nil
  group_ne_nil := hs.group_ne_nil
  digits := hs.digits
  stops := goesOn_append hs.stops ht

/-- One more number behind a full stop. -/
theorem Numbered.concat (hs : Numbered s gs []) (hne : g ≠ []) (hg : ∀ c ∈ g, isNumeral c = true) :
    Numbered (s ++ '.' :: g) (gs ++ [g]) [] where
  text := by rw [hs.text, List.append_nil, List.append_nil, withStops_concat hs.ne_nil]
  ne_nil := List.append_ne_nil_of_right_ne_nil gs (List.cons_ne_nil g [])
  group_ne_nil := List.forall_mem_append.2 ⟨hs.group_ne_nil, List.forall_mem_singleton.2 hne⟩
  digits := List.forall_mem_append.2 ⟨hs.digits, List.forall_mem_singleton.2 hg⟩
  stops := rfl

/-! ## Cutting a text into its numbers -/

theorem dotted_ne_nil (ds s : List Char) : dotted ds s ≠ [] := by
  fun_induction dotted ds s with
  | case1 => exact List.cons_ne_nil _ _
  | case2 ds c s _ ih => exact ih
  | case3 => exact List.cons_ne_nil _ _
  | case4 => exact List.cons_ne_nil _ _

/-- Nothing of the text is lost, the digits in front of it included. -/
theorem withStops_dotted (ds s : List Char) : ds ++ s = withStops (dotted ds s) ++ behindNumbers s := by
  fun_induction dotted ds s with
  | case1 ds => rfl
  | case2 ds c s hc ih =>
    rw [behindNumbers, if_pos (by rw [goesOn, hc, Bool.true_or]), ← ih]
    simp
  | case3 ds c s hc hstop ih =>
    have hgoes : goesOn (c :: s) = true := by rw [goesOn, hstop, Bool.or_true]
    obtain rfl : c = '.' := by simpa using (Bool.and_eq_true_iff.1 hstop).1
    rw [behindNumbers, if_pos hgoes, withStops_cons (dotted_ne_nil [] s), List.append_assoc,
      List.cons_append, ← ih, List.nil_append]
  | case4 ds c s hc hstop =>
    have hgoes : ¬ goesOn (c :: s) = true := by
      rw [goesOn, Bool.or_eq_true, not_or]
      exact ⟨hc, hstop⟩
    rw [behindNumbers, if_neg hgoes]
    rfl

theorem isNumeral_of_mem_dotted (hds : ∀ c ∈ ds, isNumeral c = true) (hg : g ∈ dotted ds s) :
    ∀ c ∈ g, isNumeral c = true := by
  fun_induction dotted ds s with
  | case1 ds => exact List.mem_singleton.1 hg ▸ hds
  | case2 ds c s hc ih =>
    refine ih (fun d hd => ?_) hg
    rcases List.mem_append.1 hd with hd | hd
    · exact hds d hd
    · exact List.mem_singleton.1 hd ▸ hc
  | case3 ds c s _ _ ih =>
    rcases List.mem_cons.1 hg with rfl | hg
    · exact hds
    · exact ih (fun d hd => absurd hd List.not_mem_nil) hg
  | case4 ds c s _ _ => exact List.mem_singleton.1 hg ▸ hds

/-- No group is empty where the first one is not. -/
theorem ne_nil_of_mem_dotted (hs : ds ≠ [] ∨ s.head?.any isNumeral = true) (hg : g ∈ dotted ds s) :
    g ≠ [] := by
  fun_induction dotted ds s with
  | case1 ds => exact List.mem_singleton.1 hg ▸ hs.resolve_right Bool.false_ne_true
  | case2 ds c s _ ih => exact ih (Or.inl (by simp)) hg
  | case3 ds c s hc hstop ih =>
    have hds : ds ≠ [] := hs.resolve_right hc
    rcases List.mem_cons.1 hg with rfl | hg
    · exact hds
    · exact ih (Or.inr (Bool.and_eq_true_iff.1 hstop).2) hg
  | case4 ds c s hc _ => exact List.mem_singleton.1 hg ▸ hs.resolve_right hc

/-- **A text that starts with a digit starts with numbers**, those it is cut into. -/
theorem numbered_dotted (hs : s.head?.any isNumeral = true) :
    Numbered s (dotted [] s) (behindNumbers s) where
  text := withStops_dotted [] s
  ne_nil := dotted_ne_nil [] s
  group_ne_nil _ hg := ne_nil_of_mem_dotted (Or.inr hs) hg
  digits _ hg := isNumeral_of_mem_dotted (fun _ hc => absurd hc List.not_mem_nil) hg
  stops := goesOn_behindNumbers s

/-! ## Only one way -/

/-- Digits are taken to those in front of them. -/
theorem dotted_append (hg : ∀ c ∈ g, isNumeral c = true) : dotted ds (g ++ s) = dotted (ds ++ g) s := by
  induction g generalizing ds with
  | nil => rw [List.nil_append, List.append_nil]
  | cons c g ih =>
    rw [List.cons_append, dotted, if_pos (hg c List.mem_cons_self),
      ih fun d hd => hg d (List.mem_cons_of_mem c hd)]
    simp

theorem dotted_of_stops (h : goesOn s = false) : dotted ds s = [ds] := by
  cases s with
  | nil => rfl
  | cons c s =>
    rw [goesOn, Bool.or_eq_false_iff] at h
    rw [dotted, if_neg (Bool.eq_false_iff.1 h.1), if_neg (Bool.eq_false_iff.1 h.2)]

namespace Numbered

/-- The text of the other groups starts with numbers again. -/
theorem tail {h : List Char} (hs : Numbered s (g :: h :: gs) rest) :
    Numbered (withStops (h :: gs) ++ rest) (h :: gs) rest where
  text := rfl
  ne_nil := List.cons_ne_nil h gs
  group_ne_nil k hk := hs.group_ne_nil k (List.mem_cons_of_mem g hk)
  digits k hk := hs.digits k (List.mem_cons_of_mem g hk)
  stops := hs.stops

/-- It starts with a digit. -/
theorem head? (hs : Numbered s gs rest) : s.head?.any isNumeral = true := by
  obtain ⟨rfl, hne, hgroup, hdigits, -⟩ := hs
  cases gs with
  | nil => exact absurd rfl hne
  | cons g gs =>
    cases g with
    | nil => exact absurd rfl (hgroup [] List.mem_cons_self)
    | cons c g =>
      have hc : isNumeral c = true := hdigits (c :: g) List.mem_cons_self c List.mem_cons_self
      cases gs <;> simpa [withStops] using hc

/-- **The groups are those that the text is cut into.** -/
theorem dotted_eq (hs : Numbered s gs rest) : dotted [] s = gs := by
  induction gs generalizing s with
  | nil => exact absurd rfl hs.ne_nil
  | cons g gs ih =>
    have hg : ∀ c ∈ g, isNumeral c = true := hs.digits g List.mem_cons_self
    cases gs with
    | nil => rw [hs.text, withStops, dotted_append hg, List.nil_append, dotted_of_stops hs.stops]
    | cons h gs =>
      have hstop :
          (decide ('.' = '.') && (withStops (h :: gs) ++ rest).head?.any isNumeral) = true := by
        rw [hs.tail.head?]
        rfl
      rw [hs.text, withStops, List.append_assoc, dotted_append hg, List.cons_append, dotted,
        if_neg (by rw [isNumeral_stop]; exact Bool.false_ne_true), if_pos hstop, ih hs.tail]
      rfl

end Numbered

end Version

end Multilint
