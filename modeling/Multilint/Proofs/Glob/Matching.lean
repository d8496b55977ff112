import Multilint.Glob.Basic
import Mathlib.Data.String.Basic
/-!
# Two kinds of patterns

A pattern without wildcards matches its own text and nothing else (`matchesText_of_plain`). A pattern
that ends with `/*` ends in a run of any characters, so what starts with a text it matches is matched
too (`matchesText_of_prefix`).
-/

namespace Multilint

namespace Glob

variable {m : Slashes} {ts us : List GlobToken} {s r x : List Char} {g : Glob}

/-! ## Patterns without wildcards -/

/-- A character that stands for itself. -/
def IsPlain (c : Char) : Prop := c ≠ '*' ∧ c ≠ '?' ∧ c ≠ '['

theorem tokensFrom_of_plain {position : Nat} {before : Option Char} {done : List GlobToken}
    (h : ∀ c ∈ s, IsPlain c) :
    tokensFrom 0 position before done s = .ok (done.reverse ++ s.map .char) := by
  induction s generalizing position before done with
  | nil => simp [tokensFrom]
  | cons c s ih =>
    obtain ⟨hstar, hquery, hbracket⟩ := h c (by simp)
    rw [tokensFrom, if_neg hquery, if_neg hstar, if_neg hbracket, ih fun d hd => h d (by simp [hd])]
    simp

theorem matchTokens_map_char {cs : List Char} :
    matchTokens m (cs.map .char) s = true ↔ s = cs := by
  induction cs generalizing s with
  | nil => simp [matchTokens]
  | cons c cs ih =>
    cases s with
    | nil => simp [matchTokens]
    | cons d s =>
      simp only [List.map_cons, matchTokens, accepts, Bool.and_eq_true, decide_eq_true_eq, ih,
        List.cons.injEq]
      exact and_congr_left fun _ => eq_comm

/-- **A pattern without wildcards** matches its own text. -/
theorem matchesText_of_plain {text t : String} (h : ∀ c ∈ text.toList, IsPlain c)
    (hg : ofText text = .ok g) : g.matchesText t = true ↔ t = text := by
  rw [ofText, tokensFrom_of_plain h] at hg
  obtain rfl : (⟨text, text.toList.map .char⟩ : Glob) = g := by simpa using hg
  rw [matchesText, matchTokens_map_char, String.toList_inj]

/-! ## Patterns that end in a star -/

/-- What is left behind the characters before a bracket starts with the bracket. -/
theorem eq_of_takeWhile_lt (h : (s.takeWhile (· ≠ ']')).length < s.length) :
    ∃ b, s = s.takeWhile (· ≠ ']') ++ ']' :: b := by
  have happ := List.takeWhile_append_dropWhile (p := (· ≠ ']')) (l := s)
  cases hd : s.dropWhile (· ≠ ']') with
  | nil =>
    rw [hd, List.append_nil] at happ
    rw [happ] at h
    exact absurd h (lt_irrefl _)
  | cons c b =>
    have hc := List.head?_dropWhile_not (· ≠ ']') s
    rw [hd] at hc
    obtain rfl : c = ']' := by simpa using hc
    exact ⟨b, by rw [← hd, happ]⟩

/-- A class takes its characters and the bracket that ends it. -/
theorem eq_of_class?_eq_some {t : GlobToken} {n : Nat} (h : class? s = some (t, n)) :
    ∃ a b, s = a ++ ']' :: b ∧ n = a.length + 1 := by
  unfold class? at h
  split at h
  · rename_i c rest
    dsimp only at h
    split at h
    · rename_i hlt
      obtain ⟨b, hb⟩ := eq_of_takeWhile_lt hlt
      simp only [Option.some.injEq, Prod.mk.injEq] at h
      exact ⟨'!' :: c :: rest.takeWhile (· ≠ ']'), b, by rw [List.cons_append, List.cons_append, ← hb],
        by simp [← h.2]⟩
    · cases h
  · cases h
  · rename_i c rest _ _
    dsimp only at h
    split at h
    · rename_i hlt
      obtain ⟨b, hb⟩ := eq_of_takeWhile_lt hlt
      simp only [Option.some.injEq, Prod.mk.injEq] at h
      exact ⟨c :: rest.takeWhile (· ≠ ']'), b, by rw [List.cons_append, ← hb], by simp [← h.2]⟩
    · cases h
  · cases h

/-- A class in front of `/*` leaves the slash alone. -/
theorem le_length_of_class?_eq_some {cs : List Char} {t : GlobToken} {n : Nat}
    (h : class? (cs ++ ['/', '*']) = some (t, n)) : n ≤ cs.length + 1 := by
  obtain ⟨a, b, hs, rfl⟩ := eq_of_class?_eq_some h
  have hlen := congrArg List.length hs
  have hlast := congrArg List.getLast? hs
  cases b with
  | nil => simp at hlast
  | cons c b =>
    simp only [List.length_append, List.length_cons, List.length_nil] at hlen
    omega

/-- **What ends with `/*`** is read as tokens that end in a run. -/
theorem tokensFrom_star {skip position : Nat} {before : Option Char} {done : List GlobToken}
    {cs : List Char} (hskip : skip ≤ cs.length + 1)
    (h : tokensFrom skip position before done (cs ++ ['/', '*']) = .ok ts) :
    ∃ us, ts = us ++ [.anyRun] := by
  induction cs generalizing skip position before done with
  | nil =>
    have hstar : ∀ position before done, tokensFrom 0 position before done ['*'] = .ok ts →
        ∃ us, ts = us ++ [.anyRun] := by
      intro position before done h
      obtain rfl : done.reverse ++ [.anyRun] = ts := by simpa [tokensFrom] using h
      exact ⟨done.reverse, rfl⟩
    match skip, hskip with
    | 0, _ => exact hstar (position + 1) (some '/') (.char '/' :: done) (by simpa [tokensFrom] using h)
    | 1, _ => exact hstar (position + 1) (some '/') done (by simpa [tokensFrom] using h)
  | cons c cs ih =>
    rw [List.cons_append] at h
    match skip, hskip with
    | skip + 1, hskip =>
      rw [tokensFrom] at h
      exact ih (by simpa using hskip) h
    | 0, _ =>
      rw [tokensFrom] at h
      split at h
      · exact ih (by omega) h
      · split at h
        · split at h
          · exact ih (by omega) h
          · rename_i hone
            split at h
            · -- the second star is behind the first one, so `cs` is not empty
              cases cs with
              | nil => simp at hone
              | cons d cs =>
                simp only [List.cons_append, List.drop_succ_cons, List.drop_zero] at h
                split at h
                · exact ih (by simp) h
                · split at h
                  · exact ih (by simp) h
                  · cases h
            · cases h
          · cases h
        · split at h
          · split at h
            · rename_i hclass
              exact ih (le_length_of_class?_eq_some hclass) h
            · cases h
          · exact ih (by omega) h

theorem mem_runRests_plain : r ∈ runRests .plain s ↔ r <:+ s := by
  induction s with
  | nil => simp [runRests]
  | cons c s ih => simp [runRests, ih, List.suffix_cons_iff]

theorem nil_mem_dirRests (s : List Char) : [] ∈ dirRests s := by
  fun_induction dirRests s <;> simp_all

theorem mem_dirRests : r ∈ dirRests s ↔ r = [] ∨ ∃ a, s = a ++ '/' :: r := by
  fun_induction dirRests s with
  | case1 => simp
  | case2 s ih =>
    rw [List.mem_cons, ih]
    constructor
    · rintro (rfl | rfl | ⟨a, rfl⟩)
      · exact Or.inr ⟨[], rfl⟩
      · exact Or.inl rfl
      · exact Or.inr ⟨'/' :: a, rfl⟩
    · rintro (rfl | ⟨a, ha⟩)
      · exact Or.inr (Or.inl rfl)
      · cases a with
        | nil => exact Or.inl (by simpa using ha.symm)
        | cons c a => exact Or.inr (Or.inr ⟨a, (List.cons.inj ha).2⟩)
  | case3 c s hc ih =>
    rw [ih]
    refine or_congr_right ⟨fun ⟨a, ha⟩ => ⟨c :: a, by rw [ha, List.cons_append]⟩, fun ⟨a, ha⟩ => ?_⟩
    cases a with
    | nil => exact absurd (List.cons.inj ha).1 hc
    | cons d a => exact ⟨a, (List.cons.inj ha).2⟩

/-- A token of one character takes the first one. -/
theorem matchTokens_cons {t : GlobToken} {c : Char} (hrun : t ≠ .anyRun) (hdirs : t ≠ .anyDirs) :
    matchTokens m (t :: ts) (c :: s) = (accepts m t c && matchTokens m ts s) := by
  cases t with
  | anyRun => exact absurd rfl hrun
  | anyDirs => exact absurd rfl hdirs
  | char d => rfl
  | anyChar => rfl
  | within rs => rfl
  | outside rs => rfl

theorem matchTokens_cons_nil {t : GlobToken} (hrun : t ≠ .anyRun) (hdirs : t ≠ .anyDirs) :
    matchTokens m (t :: ts) [] = false := by
  cases t with
  | anyRun => exact absurd rfl hrun
  | anyDirs => exact absurd rfl hdirs
  | char d => rfl
  | anyChar => rfl
  | within rs => rfl
  | outside rs => rfl

/-- **A run at the end takes in whatever follows.** -/
theorem matchTokens_append (h : matchTokens .plain (us ++ [.anyRun]) s = true) :
    matchTokens .plain (us ++ [.anyRun]) (s ++ x) = true := by
  induction us generalizing s with
  | nil =>
    simp only [List.nil_append, matchTokens, List.any_eq_true] at h ⊢
    exact ⟨[], mem_runRests_plain.2 List.nil_suffix, rfl⟩
  | cons t us ih =>
    rw [List.cons_append] at h ⊢
    by_cases hrun : t = .anyRun
    · subst hrun
      simp only [matchTokens, List.any_eq_true] at h ⊢
      obtain ⟨r, hr, h⟩ := h
      obtain ⟨a, rfl⟩ := mem_runRests_plain.1 hr
      exact ⟨r ++ x, mem_runRests_plain.2 ⟨a, by simp⟩, ih h⟩
    by_cases hdirs : t = .anyDirs
    · subst hdirs
      simp only [matchTokens, Bool.or_eq_true, List.any_eq_true] at h ⊢
      rcases h with h | ⟨r, hr, h⟩
      · exact Or.inl (ih h)
      · -- leaving nothing stays possible, so this rest is not made longer
        rcases mem_dirRests.1 hr with rfl | ⟨a, rfl⟩
        · exact Or.inr ⟨[], nil_mem_dirRests _, h⟩
        · exact Or.inr ⟨r ++ x, mem_dirRests.2 (Or.inr ⟨a, by simp⟩), ih h⟩
    cases s with
    | nil =>
      rw [matchTokens_cons_nil hrun hdirs] at h
      cases h
    | cons c s =>
      rw [matchTokens_cons hrun hdirs, Bool.and_eq_true] at h
      rw [List.cons_append, matchTokens_cons hrun hdirs, Bool.and_eq_true]
      exact ⟨h.1, ih h.2⟩

/-- **A pattern that ends with `/*`** matches what starts with a text it matches. -/
theorem matchesText_of_prefix {text t u : String} (hstar : ['/', '*'] <:+ text.toList)
    (hg : ofText text = .ok g) (h : g.matchesText t = true) (hpre : t.toList <+: u.toList) :
    g.matchesText u = true := by
  obtain ⟨cs, hcs⟩ := hstar
  obtain ⟨x, hx⟩ := hpre
  rw [ofText, ← hcs] at hg
  split at hg
  · rename_i ts hts
    obtain ⟨us, rfl⟩ := tokensFrom_star (by omega) hts
    obtain rfl := Except.ok.inj hg
    rw [matchesText, ← hx]
    exact matchTokens_append h
  · cases hg

end Glob

end Multilint
