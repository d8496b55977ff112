import Multilint.Proofs.Glob.Matching
import Mathlib.Data.List.Infix
/-!
# Patterns over two parts of a text

A text is the path of a directory, up to a slash, and what lies below it. A pattern that matches it is
divided there: its first tokens match the directory and its last ones the rest, and one star may take part
in both (`split_of_matchTokens`). So where the pattern itself does not begin in the directory, only stars
can stand for it, and the pattern says as much about the rest alone (`matchTokens_below_iff`).
-/

namespace Multilint

namespace Glob

variable {ts us vs : List GlobToken} {s a : List Char}

/-- A token that matches texts of any length. -/
def isStar : GlobToken → Bool
  | .anyRun | .anyDirs => true
  | _ => false

/-- **A pattern begins in a text**: some beginning of it that is not all stars matches the text. -/
def beginsIn (g : Glob) (s : List Char) : Bool :=
  g.tokens.inits.any fun us => us.any (!isStar ·) && matchTokens .plain us s

/-! ## What a star may match -/

theorem matchTokens_anyRun : matchTokens .plain (.anyRun :: ts) s = true ↔
    ∃ r, r <:+ s ∧ matchTokens .plain ts r = true := by
  simp only [matchTokens, List.any_eq_true, mem_runRests_plain]

theorem matchTokens_anyDirs : matchTokens .plain (.anyDirs :: ts) s = true ↔
    matchTokens .plain ts s = true ∨ matchTokens .plain ts [] = true ∨
      ∃ a r, s = a ++ '/' :: r ∧ matchTokens .plain ts r = true := by
  simp only [matchTokens, Bool.or_eq_true, List.any_eq_true, mem_dirRests]
  refine or_congr_right ?_
  constructor
  · rintro ⟨r, rfl | ⟨a, ha⟩, hr⟩
    · exact Or.inl hr
    · exact Or.inr ⟨a, r, ha, hr⟩
  · rintro (hr | ⟨a, r, ha, hr⟩)
    · exact ⟨[], Or.inl rfl, hr⟩
    · exact ⟨r, Or.inr ⟨a, ha⟩, hr⟩

/-- A star in front may match nothing. -/
theorem matchTokens_star_cons {t : GlobToken} (ht : isStar t = true)
    (h : matchTokens .plain ts s = true) : matchTokens .plain (t :: ts) s = true := by
  cases t with
  | anyRun => exact matchTokens_anyRun.2 ⟨s, List.suffix_rfl, h⟩
  | anyDirs => exact matchTokens_anyDirs.2 (Or.inl h)
  | char c => cases ht
  | anyChar => cases ht
  | within rs => cases ht
  | outside rs => cases ht

/-- So may several. -/
theorem matchTokens_stars_append (hus : us.any (!isStar ·) = false)
    (h : matchTokens .plain ts s = true) : matchTokens .plain (us ++ ts) s = true := by
  induction us with
  | nil => exact h
  | cons u us ih =>
    rw [List.any_cons, Bool.or_eq_false_iff, Bool.not_eq_false'] at hus
    exact matchTokens_star_cons hus.1 (ih hus.2)

/-- A star in front of a pattern that starts with a star takes in a directory. -/
theorem matchTokens_star_append {t : GlobToken} (ht : isStar t = true)
    (h : matchTokens .plain (t :: ts) s = true) :
    matchTokens .plain (t :: ts) (a ++ '/' :: s) = true := by
  cases t with
  | anyRun =>
    obtain ⟨r, hr, h⟩ := matchTokens_anyRun.1 h
    exact matchTokens_anyRun.2 ⟨r, hr.trans ((List.suffix_cons _ _).trans (List.suffix_append _ _)), h⟩
  | anyDirs =>
    refine matchTokens_anyDirs.2 (Or.inr ?_)
    rcases matchTokens_anyDirs.1 h with hs | hnil | ⟨b, r, rfl, hr⟩
    · exact Or.inr ⟨a, s, rfl, hs⟩
    · exact Or.inl hnil
    · exact Or.inr ⟨a ++ '/' :: b, r, by simp, hr⟩
  | char c => cases ht
  | anyChar => cases ht
  | within rs => cases ht
  | outside rs => cases ht

/-! ## Dividing a pattern -/

/-- **A pattern is divided** between two parts of a text: between two of its tokens, or at a star that
takes part in both. -/
inductive Divided (ts : List GlobToken) (s r : List Char) : Prop
  /-- It is divided between tokens. -/
  | between (us vs : List GlobToken) : ts = us ++ vs → matchTokens .plain us s = true →
      matchTokens .plain vs r = true → Divided ts s r
  /-- It is divided at a star. -/
  | star (us : List GlobToken) (t : GlobToken) (vs : List GlobToken) : ts = us ++ t :: vs →
      isStar t = true → matchTokens .plain (us ++ [t]) s = true →
      matchTokens .plain (t :: vs) r = true → Divided ts s r

/-- A token in front that takes the first part further keeps a pattern divided. -/
theorem Divided.cons {t : GlobToken} {s s' r : List Char} (h : Divided ts s r)
    (ht : ∀ us, matchTokens .plain us s = true → matchTokens .plain (t :: us) s' = true) :
    Divided (t :: ts) s' r := by
  cases h with
  | between us vs hts hus hvs => exact .between (t :: us) vs (by rw [hts]; rfl) (ht us hus) hvs
  | star us u vs hts hu hus hvs =>
    exact .star (t :: us) u vs (by rw [hts]; rfl) hu (ht (us ++ [u]) hus) hvs

/-- What is left of a directory and what lies below it starts in the directory, or below it. -/
theorem append_slash_cases {x r a s : List Char} (h : x ++ r = a ++ '/' :: s) :
    (∃ b, a = x ++ b ∧ r = b ++ '/' :: s) ∨ ∃ c, x = a ++ '/' :: c ∧ s = c ++ r := by
  rcases List.append_eq_append_iff.1 h with ⟨b, ha, hr⟩ | ⟨c, hx, hs⟩
  · exact Or.inl ⟨b, ha, hr⟩
  · cases c with
    | nil => exact Or.inl ⟨[], by simpa using hx.symm, hs.symm⟩
    | cons d c =>
      obtain ⟨rfl, hrest⟩ := List.cons.inj hs
      exact Or.inr ⟨c, hx, hrest⟩

/-- A run in front divides a pattern. -/
theorem split_of_anyRun {a s : List Char}
    (ih : ∀ {a}, matchTokens .plain ts (a ++ '/' :: s) = true → Divided ts (a ++ ['/']) s)
    (h : matchTokens .plain (.anyRun :: ts) (a ++ '/' :: s) = true) :
    Divided (.anyRun :: ts) (a ++ ['/']) s := by
  obtain ⟨r, ⟨x, hx⟩, hr⟩ := matchTokens_anyRun.1 h
  rcases append_slash_cases hx with ⟨b, rfl, rfl⟩ | ⟨c, -, rfl⟩
  · exact (ih hr).cons fun us hus => matchTokens_anyRun.2 ⟨_, ⟨x, by simp⟩, hus⟩
  · exact .star [] .anyRun ts rfl rfl (matchTokens_anyRun.2 ⟨[], List.nil_suffix, rfl⟩)
      (matchTokens_anyRun.2 ⟨r, List.suffix_append _ _, hr⟩)

/-- So does a star over directories. -/
theorem split_of_anyDirs {a s : List Char}
    (ih : ∀ {a}, matchTokens .plain ts (a ++ '/' :: s) = true → Divided ts (a ++ ['/']) s)
    (h : matchTokens .plain (.anyDirs :: ts) (a ++ '/' :: s) = true) :
    Divided (.anyDirs :: ts) (a ++ ['/']) s := by
  have hwhole : matchTokens .plain ([] ++ [.anyDirs]) (a ++ ['/']) = true :=
    matchTokens_anyDirs.2 (Or.inr (Or.inl rfl))
  rcases matchTokens_anyDirs.1 h with h | hnil | ⟨x, r, hx, hr⟩
  · exact (ih h).cons fun us hus => matchTokens_anyDirs.2 (Or.inl hus)
  · exact .star [] .anyDirs ts rfl rfl hwhole (matchTokens_anyDirs.2 (Or.inr (Or.inl hnil)))
  · have hx' : (x ++ ['/']) ++ r = a ++ '/' :: s := by rw [hx, List.append_assoc]; rfl
    rcases append_slash_cases hx' with ⟨b, rfl, rfl⟩ | ⟨c, hc, rfl⟩
    · refine (ih hr).cons fun us hus => matchTokens_anyDirs.2 (Or.inr (Or.inr ⟨x, _, ?_, hus⟩))
      simp
    · refine .star [] .anyDirs ts rfl rfl hwhole (matchTokens_anyDirs.2 ?_)
      -- what the star takes of the rest is nothing, or ends with a slash
      rcases List.eq_nil_or_concat c with rfl | ⟨c, d, rfl⟩
      · exact Or.inl hr
      · have hlast := congrArg List.getLast? hc
        obtain rfl : d = '/' := by simpa [List.getLast?_cons] using hlast.symm
        exact Or.inr (Or.inr ⟨c, r, by simp, hr⟩)

/-- **A pattern that matches a directory and what lies below it is divided** at the slash between them. The
induction is on the tokens, for every directory. -/
theorem split_of_matchTokens {a s : List Char} (h : matchTokens .plain ts (a ++ '/' :: s) = true) :
    Divided ts (a ++ ['/']) s := by
  induction ts generalizing a with
  | nil => simp [matchTokens] at h
  | cons t ts ih =>
    by_cases hrun : t = .anyRun
    · subst hrun
      exact split_of_anyRun ih h
    by_cases hdirs : t = .anyDirs
    · subst hdirs
      exact split_of_anyDirs ih h
    cases a with
    | nil =>
      rw [List.nil_append, matchTokens_cons hrun hdirs, Bool.and_eq_true] at h
      refine .between [t] ts rfl ?_ h.2
      rw [List.nil_append, matchTokens_cons hrun hdirs, h.1]
      rfl
    | cons c a =>
      rw [List.cons_append, matchTokens_cons hrun hdirs, Bool.and_eq_true] at h
      refine (ih h.2).cons fun us hus => ?_
      rw [List.cons_append, matchTokens_cons hrun hdirs, h.1, hus]
      rfl

/-- **A pattern that does not begin in a directory** matches what lies below it exactly if it starts with a
star and matches it alone. -/
theorem matchTokens_below_iff {g : Glob} (hg : g.beginsIn (a ++ ['/']) = false) :
    matchTokens .plain g.tokens (a ++ '/' :: s) = true ↔
      g.tokens.head?.any isStar = true ∧ matchTokens .plain g.tokens s = true := by
  have hstars : ∀ us vs, g.tokens = us ++ vs → matchTokens .plain us (a ++ ['/']) = true →
      us.any (!isStar ·) = false := by
    intro us vs htokens hus
    have hnot := List.any_eq_false.1 hg us (List.mem_inits _ _ |>.2 ⟨vs, htokens.symm⟩)
    rw [hus, Bool.and_true, Bool.not_eq_true] at hnot
    exact hnot
  constructor
  · intro h
    rcases split_of_matchTokens h with ⟨us, vs, htokens, hus, hvs⟩ | ⟨us, t, vs, htokens, ht, hus, hvs⟩
    · have hall := hstars us vs htokens hus
      cases us with
      | nil => simp [matchTokens] at hus
      | cons u us =>
        rw [htokens]
        refine ⟨?_, matchTokens_stars_append hall hvs⟩
        rw [List.any_cons, Bool.or_eq_false_iff, Bool.not_eq_false'] at hall
        exact hall.1
    · have hall := hstars (us ++ [t]) vs (by rw [htokens]; simp) hus
      rw [List.any_append, Bool.or_eq_false_iff] at hall
      rw [htokens]
      refine ⟨?_, matchTokens_stars_append hall.1 hvs⟩
      cases us with
      | nil => exact ht
      | cons u us =>
        rw [List.any_cons, Bool.or_eq_false_iff, Bool.not_eq_false'] at hall
        exact hall.1.1
  · rintro ⟨hfirst, h⟩
    cases htokens : g.tokens with
    | nil =>
      rw [htokens] at hfirst
      cases hfirst
    | cons t ts =>
      rw [htokens] at hfirst h
      exact matchTokens_star_append hfirst h

end Glob

end Multilint
