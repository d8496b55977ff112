import Multilint.Text.Basic
import Mathlib.Data.List.TakeWhile
import Mathlib.Data.String.Basic
/-!
# Texts that say something

A text with a character that is not blank is not trimmed away (`trimmed_ne_empty`), and the lines of a
joined text say what the first of them says.
-/

namespace Multilint

namespace Text

variable {s : List Char} {c : Char}

theorem mem_dropWhile {p : Char → Bool} (hc : c ∈ s) (hp : p c = false) : c ∈ s.dropWhile p := by
  rw [← List.takeWhile_append_dropWhile (p := p) (l := s), List.mem_append] at hc
  rcases hc with hc | hc
  · have := List.mem_takeWhile_imp hc
    rw [hp] at this
    cases this
  · exact hc

/-- Trimming leaves every character that is not blank. -/
theorem mem_trim (hc : c ∈ s) (hb : isBlank c = false) : c ∈ trim s := by
  rw [trim, trimEnd, List.mem_reverse]
  exact mem_dropWhile (List.mem_reverse.2 (mem_dropWhile hc hb)) hb

theorem trimmed_ne_empty {t : String} (hc : c ∈ t.toList) (hb : isBlank c = false) :
    trimmed t ≠ "" := by
  intro h
  have hmem := mem_trim hc hb
  rw [← String.toList_ofList (l := trim t.toList)] at hmem
  rw [trimmed] at h
  rw [h] at hmem
  cases hmem

/-! ## Texts that are left as they are -/

/-- Nothing is taken off a text that starts with no character of a class. -/
theorem takeWhile_of_head {p : Char → Bool} (hs : s.head?.any p = false) : s.takeWhile p = [] := by
  cases s with
  | nil => rfl
  | cons d s => exact List.takeWhile_cons_of_neg (Bool.eq_false_iff.1 hs)

/-- It is left as it is. -/
theorem dropWhile_of_head {p : Char → Bool} (hs : s.head?.any p = false) : s.dropWhile p = s := by
  cases s with
  | nil => rfl
  | cons d s => exact List.dropWhile_cons_of_neg (Bool.eq_false_iff.1 hs)

/-- What is left starts with nothing of the class. -/
theorem head?_dropWhile {α : Type} {p : α → Bool} (s : List α) : (s.dropWhile p).head?.any p = false := by
  cases hs : s.dropWhile p with
  | nil => rfl
  | cons d r =>
    have hhead := List.head_dropWhile_not p (l := s) (hs ▸ List.cons_ne_nil d r)
    simpa [hs] using hhead

theorem trimStart_eq_self_iff : trimStart s = s ↔ s.head?.any isBlank = false :=
  ⟨fun h => h ▸ head?_dropWhile s, dropWhile_of_head⟩

theorem trimEnd_eq_self_iff : trimEnd s = s ↔ s.getLast?.any isBlank = false := by
  rw [← List.head?_reverse, ← trimStart_eq_self_iff, trimEnd, trimStart, ← List.reverse_inj, List.reverse_reverse]

theorem trimEnd_isPrefix (s : List Char) : trimEnd s <+: s := by
  have hsuffix := List.reverse_prefix.2 (List.dropWhile_suffix isBlank (l := s.reverse))
  rwa [List.reverse_reverse] at hsuffix

/-- **A text is left as it is** if it neither starts nor ends with a blank. -/
theorem trim_eq_self_iff :
    trim s = s ↔ s.head?.any isBlank = false ∧ s.getLast?.any isBlank = false := by
  constructor
  · intro h
    have hlength : (trim s).length ≤ (trimStart s).length := (trimEnd_isPrefix _).length_le
    have hstart : trimStart s = s :=
      (List.dropWhile_suffix isBlank).eq_of_length_le (by rwa [h] at hlength)
    rw [trim, hstart] at h
    exact ⟨trimStart_eq_self_iff.1 hstart, trimEnd_eq_self_iff.1 h⟩
  · rintro ⟨hhead, hlast⟩
    rw [trim, trimStart_eq_self_iff.2 hhead, trimEnd_eq_self_iff.2 hlast]

/-- A text without blanks is left as it is. -/
theorem trim_of_not_blank (h : ∀ d ∈ s, isBlank d = false) : trim s = s := by
  rw [trim_eq_self_iff, Option.any_eq_false_iff_get, Option.any_eq_false_iff_get]
  exact ⟨fun _ => h _ (List.mem_of_head? (Option.some_get _).symm),
    fun _ => h _ (List.mem_of_getLast? (Option.some_get _).symm)⟩

/-! ## Joined texts -/

/-- **A text of blanks is trimmed away**, and no other one is. -/
theorem trim_eq_nil_iff : trim s = [] ↔ ∀ d ∈ s, isBlank d = true := by
  constructor
  · intro h d hd
    by_contra hb
    have hmem := mem_trim hd (Bool.eq_false_iff.2 hb)
    rw [h] at hmem
    cases hmem
  · intro h
    rw [trim, trimStart, List.dropWhile_eq_nil_iff.2 h]
    rfl

theorem trimmed_eq_empty_iff {t : String} : trimmed t = "" ↔ trim t.toList = [] := by
  rw [trimmed, ← String.ofList_nil, String.ofList_inj]

variable {t : List Char}

theorem trimStart_append (h : ¬ ∀ d ∈ s, isBlank d = true) :
    trimStart (s ++ t) = trimStart s ++ t := by
  have hne : s.dropWhile isBlank ≠ [] := mt List.dropWhile_eq_nil_iff.1 h
  rw [trimStart, List.dropWhile_append, if_neg (mt List.isEmpty_iff.1 hne)]
  rfl

theorem trimEnd_append (h : ¬ ∀ d ∈ t, isBlank d = true) : trimEnd (s ++ t) = s ++ trimEnd t := by
  have hne : t.reverse.dropWhile isBlank ≠ [] := by
    rw [Ne, List.dropWhile_eq_nil_iff]
    simpa using h
  rw [trimEnd, List.reverse_append, List.dropWhile_append, if_neg (mt List.isEmpty_iff.1 hne),
    List.reverse_append, List.reverse_reverse]
  rfl

theorem trimEnd_append_of_blank (h : ∀ d ∈ t, isBlank d = true) : trimEnd (s ++ t) = trimEnd s := by
  have hnil : t.reverse.dropWhile isBlank = [] :=
    List.dropWhile_eq_nil_iff.2 fun d hd => h d (List.mem_reverse.1 hd)
  rw [trimEnd, List.reverse_append, List.dropWhile_append, hnil]
  rfl

/-- Blanks behind a text are trimmed away. -/
theorem trim_append_of_blank (ht : trim t = []) : trim (s ++ t) = trim s := by
  rw [trim_eq_nil_iff] at ht
  by_cases hs : ∀ d ∈ s, isBlank d = true
  · rw [trim_eq_nil_iff.2 hs, trim_eq_nil_iff]
    exact List.forall_mem_append.2 ⟨hs, ht⟩
  · rw [trim, trimStart_append hs, trimEnd_append_of_blank ht]
    rfl

/-- So are blanks in front of it. -/
theorem trim_append_of_blank_left (hs : trim s = []) : trim (s ++ t) = trim t := by
  have hnil : s.dropWhile isBlank = [] := List.dropWhile_eq_nil_iff.2 (trim_eq_nil_iff.1 hs)
  rw [trim, trimStart, List.dropWhile_append, hnil]
  rfl

/-- What is trimmed away at the end of a text are blanks. -/
theorem exists_trimStart_eq (s : List Char) : ∃ bs, trim bs = [] ∧ trimStart s = trim s ++ bs := by
  refine ⟨((trimStart s).reverse.takeWhile isBlank).reverse, ?_, ?_⟩
  · rw [trim_eq_nil_iff]
    exact fun d hd => List.mem_takeWhile_imp (List.mem_reverse.1 hd)
  · rw [trim, trimEnd, ← List.reverse_append, List.takeWhile_append_dropWhile, List.reverse_reverse]

/-- A text that starts with no blank is trimmed at its end only. -/
theorem trim_cons (hc : isBlank c = false) : trim (c :: s) = trimEnd (c :: s) := by
  rw [trim, trimStart, List.dropWhile_cons_of_neg (Bool.eq_false_iff.1 hc)]

/-- It starts with the same character then. -/
theorem head?_trim_cons (hc : isBlank c = false) : (trim (c :: s)).head? = some c := by
  have hmem : c ∈ trim (c :: s) := mem_trim List.mem_cons_self hc
  obtain ⟨m, hm⟩ := trimEnd_isPrefix (c :: s)
  rw [trim_cons hc] at hmem ⊢
  obtain ⟨d, q, hq⟩ := List.exists_cons_of_ne_nil (List.ne_nil_of_mem hmem)
  rw [hq] at hm ⊢
  exact congrArg some (List.cons.inj hm).1

/-- **A text goes on behind one that says something**: what was trimmed away between them is not where the
second one says something too. -/
theorem trim_append (hs : trim s ≠ []) (t : List Char) : ∃ bs, trim bs = [] ∧
    trim (s ++ t) = trim s ++ if trim t = [] then [] else bs ++ trimEnd t := by
  obtain ⟨bs, hbs, hstart⟩ := exists_trimStart_eq s
  refine ⟨bs, hbs, ?_⟩
  by_cases ht : trim t = []
  · rw [if_pos ht, List.append_nil, trim_append_of_blank ht]
  · rw [Ne, trim_eq_nil_iff] at hs
    rw [if_neg ht, trim, trimStart_append hs, trimEnd_append (mt trim_eq_nil_iff.2 ht), hstart,
      List.append_assoc]

/-- **Two texts that say something**: the trimmed text goes on behind the first of them. -/
theorem exists_trim_append (hs : trim s ≠ []) (ht : trim t ≠ []) :
    ∃ m, trim (s ++ t) = trim s ++ m ∧ ∃ d ∈ m, isBlank d = false := by
  obtain ⟨bs, -, htrim⟩ := trim_append hs t
  rw [if_neg ht] at htrim
  refine ⟨bs ++ trimEnd t, htrim, ?_⟩
  obtain ⟨d, hd, hb⟩ : ∃ d ∈ t, isBlank d = false := by
    simpa [trim_eq_nil_iff] using ht
  refine ⟨d, List.mem_append_right _ ?_, hb⟩
  exact List.mem_reverse.2 (mem_dropWhile (List.mem_reverse.2 hd) hb)

/-- A joined text starts with its first part. -/
theorem mem_intercalate_cons {sep t : String} {ts : List String} (hc : c ∈ t.toList) :
    c ∈ (sep.intercalate (t :: ts)).toList := by
  cases ts with
  | nil => rwa [String.intercalate_singleton]
  | cons u us =>
    rw [String.intercalate_cons_of_ne_nil (List.cons_ne_nil u us), String.toList_append,
      String.toList_append]
    exact List.mem_append_left _ (List.mem_append_left _ hc)

end Text

end Multilint
