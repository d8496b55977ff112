import Multilint.Proofs.Sequence
import Multilint.Proofs.Text.Trim
import Multilint.Proofs.Version.Extraction
/-!
# A version text that is read out of an output

A version text starts with numbers, perhaps behind a `v`, and all of them are compared. How many of them are
read when the text is found in an output is told by `readGroups`. Where that is none (a `v` in front of the
first number, or a word character directly behind it), the first number is passed over and the text behind
it is read (`extract?_of_readGroups_eq_zero`); otherwise the first numbers are read, those and no others
(`extract?_of_readGroups_ne_zero`, `ofText?_readPart`).
-/

namespace Multilint

namespace Version

open Text

variable {s rest g : List Char} {gs : List (List Char)} {token : String} {v : Version} {ns : List Nat}
  {n : Nat}

/-- **How many numbers are read** of a version text: none if it does not start with a digit. -/
def readGroups (s : List Char) : ℕ :=
  if s.head?.any isNumeral then readCount 4 (dotted [] s) (behindNumbers s) else 0

/-- The numbers that are read, as the text writes them. -/
def readPart (s : List Char) : List Char :=
  withStops ((dotted [] s).take (readGroups s))

/-- What stands behind the first number of a version text. -/
def behindFirst (s : List Char) : List Char :=
  (behindMark s).dropWhile isNumeral

/-! ## The numbers of a version text -/

/-- **A group is a number** if it has ASCII digits only and what they write has at most 64 bits. -/
theorem digits64?_eq_some_iff : Numeral.digits64? g = some n ↔
    (g ≠ [] ∧ ∀ c ∈ g, Numeral.isDigit c = true) ∧ n = Numeral.value g ∧ n < Numeral.bound64 := by
  have hdigits : (g.isEmpty || !g.all Numeral.isDigit) = false ↔
      g ≠ [] ∧ ∀ c ∈ g, Numeral.isDigit c = true := by
    simp
  rw [Numeral.digits64?, ← hdigits]
  cases g.isEmpty || !g.all Numeral.isDigit with
  | true => simp
  | false =>
    rw [if_neg Bool.false_ne_true, and_iff_right rfl]
    by_cases hbound : Numeral.value g < Numeral.bound64
    · rw [if_pos hbound, Option.some.injEq]
      exact ⟨fun h => ⟨h.symm, h ▸ hbound⟩, fun h => h.1.symm⟩
    · rw [if_neg hbound]
      refine iff_of_false (by simp) ?_
      rintro ⟨rfl, h⟩
      exact hbound h

theorem isDigit_of_digits64? (h : Numeral.digits64? g = some n) :
    g ≠ [] ∧ ∀ c ∈ g, Numeral.isDigit c = true :=
  (digits64?_eq_some_iff.1 h).1

theorem isNumeral_mark {m : Char} (hm : m = 'v' ∨ m = 'V') : isNumeral m = false := by
  rcases hm with rfl | rfl <;> decide

theorem isBlank_mark {m : Char} (hm : m = 'v' ∨ m = 'V') : isBlank m = false := by
  rcases hm with rfl | rfl <;> decide

theorem isWord_mark {m : Char} (hm : m = 'v' ∨ m = 'V') : isWord m = true := by
  rcases hm with rfl | rfl <;> decide

/-- A text has a mark in front, or it has none. -/
theorem behindMark_cases (s : List Char) :
    behindMark s = s ∨ ∃ m, (m = 'v' ∨ m = 'V') ∧ s = m :: behindMark s := by
  fun_cases behindMark s with
  | case1 => exact Or.inr ⟨'v', Or.inl rfl, rfl⟩
  | case2 => exact Or.inr ⟨'V', Or.inr rfl, rfl⟩
  | case3 => exact Or.inl rfl

theorem behindMark_of_numeral (hs : s.head?.any isNumeral = true) : behindMark s = s := by
  rcases behindMark_cases s with h | ⟨m, hm, h⟩
  · exact h
  · have hnot := isNumeral_mark hm
    rw [h] at hs
    rw [show isNumeral m = true from hs] at hnot
    cases hnot

theorem ne_nil_of_numbered (hs : Numbered (behindMark s) gs rest) : s ≠ [] := by
  rintro rfl
  exact absurd hs.head? Bool.false_ne_true

theorem behindMark_append (hs : s ≠ []) (t : List Char) :
    behindMark (s ++ t) = behindMark s ++ t := by
  fun_cases behindMark s with
  | case1 => rfl
  | case2 => rfl
  | case3 _ hv hV =>
    obtain ⟨c, s, rfl⟩ := List.exists_cons_of_ne_nil hs
    rw [List.cons_append, behindMark]
    · exact fun cs h => hv s (by rw [(List.cons.inj h).1])
    · exact fun cs h => hV s (by rw [(List.cons.inj h).1])

theorem mem_withStops {c : Char} (hc : c ∈ withStops gs) : c = '.' ∨ ∃ g ∈ gs, c ∈ g := by
  fun_induction withStops gs with
  | case1 => cases hc
  | case2 g => exact Or.inr ⟨g, List.mem_cons_self, hc⟩
  | case3 g h gs ih =>
    rcases List.mem_append.1 hc with hc | hc
    · exact Or.inr ⟨g, List.mem_cons_self, hc⟩
    · rcases List.mem_cons.1 hc with rfl | hc
      · exact Or.inl rfl
      · refine (ih hc).imp_right fun ⟨k, hk, hck⟩ => ?_
        exact ⟨k, List.mem_cons_of_mem g hk, hck⟩

/-- A text made of numbers only has no blanks. -/
theorem not_blank_of_numbered (hs : Numbered (behindMark s) gs []) : ∀ c ∈ s, isBlank c = false := by
  have hnumbers : ∀ c ∈ behindMark s, isBlank c = false := by
    intro c hc
    rw [hs.text, List.append_nil] at hc
    rcases mem_withStops hc with rfl | ⟨g, hg, hc⟩
    · decide
    · exact isBlank_of_isNumeral (hs.digits g hg c hc)
  rcases behindMark_cases s with h | ⟨m, hm, h⟩
  · rwa [h] at hnumbers
  · rw [h]
    exact List.forall_mem_cons.2 ⟨isBlank_mark hm, hnumbers⟩

/-- **A text is a version text** if it starts with numbers behind blanks and a mark, all in ASCII digits. -/
theorem ofText?_eq_some_iff_trim : ofText? token = some v ↔
    (behindMark (trim token.toList)).head?.any isNumeral = true ∧
      List.Forall₂ (fun g n => Numeral.digits64? g = some n)
        (dotted [] (behindMark (trim token.toList))) v.numbers := by
  rw [ofText?, ← Sequence.mapM_eq_some_iff]
  by_cases hhead : (behindMark (trim token.toList)).head?.any isNumeral = true
  · rw [if_pos hhead, and_iff_right hhead, Option.map_eq_some_iff]
    constructor
    · rintro ⟨ns, hns, rfl⟩
      exact hns
    · intro hns
      exact ⟨v.numbers, hns, rfl⟩
  · rw [if_neg hhead]
    exact iff_of_false (by simp) fun h => hhead h.1

/-- The same of a text made of numbers: its groups write the numbers of the version. -/
theorem ofText?_eq_some_iff_numbered : ofText? token = some v ↔
    ∃ gs rest, Numbered (behindMark (trim token.toList)) gs rest ∧
      List.Forall₂ (fun g n => Numeral.digits64? g = some n) gs v.numbers := by
  rw [ofText?_eq_some_iff_trim]
  constructor
  · rintro ⟨hhead, hns⟩
    exact ⟨_, _, numbered_dotted hhead, hns⟩
  · rintro ⟨gs, rest, hs, hns⟩
    exact ⟨hs.head?, hs.dotted_eq ▸ hns⟩

/-- **A word is a version text** if it starts with numbers behind a mark, all in ASCII digits. -/
theorem ofText?_eq_some_iff (hblank : ∀ c ∈ token.toList, isBlank c = false) :
    ofText? token = some v ↔
      (behindMark token.toList).head?.any isNumeral = true ∧
        List.Forall₂ (fun g n => Numeral.digits64? g = some n)
          (dotted [] (behindMark token.toList)) v.numbers := by
  rw [ofText?_eq_some_iff_trim, trim_of_not_blank hblank]

/-- A version has a number. -/
theorem numbers_ne_nil (hblank : ∀ c ∈ token.toList, isBlank c = false) (hv : ofText? token = some v) :
    v.numbers ≠ [] := by
  have hns := ((ofText?_eq_some_iff hblank).1 hv).2
  intro hnone
  rw [hnone, List.forall₂_nil_right_iff] at hns
  exact dotted_ne_nil [] _ hns

/-- Numbers written out are a version text, and the version has these numbers. -/
theorem ofText?_withStops (hne : gs ≠ [])
    (hns : List.Forall₂ (fun g n => Numeral.digits64? g = some n) gs ns) :
    ofText? (String.ofList (withStops gs)) = some ⟨ns⟩ := by
  have hdigit : ∀ g ∈ gs, g ≠ [] ∧ ∀ c ∈ g, Numeral.isDigit c = true := by
    intro g hg
    obtain ⟨n, -, hn⟩ := Sequence.exists_of_mem_right hns.flip hg
    exact isDigit_of_digits64? hn
  have hnumbered : Numbered (withStops gs) gs [] :=
    { text := (List.append_nil _).symm
      ne_nil := hne
      group_ne_nil := fun g hg => (hdigit g hg).1
      digits := fun g hg c hc => isNumeral_of_isDigit ((hdigit g hg).2 c hc)
      stops := rfl }
  have hmark : behindMark (withStops gs) = withStops gs := behindMark_of_numeral hnumbered.head?
  have hblank : ∀ c ∈ withStops gs, isBlank c = false :=
    not_blank_of_numbered (hmark.symm ▸ hnumbered)
  refine (ofText?_eq_some_iff (by rwa [String.toList_ofList])).2 ?_
  rw [String.toList_ofList, hmark, hnumbered.dotted_eq]
  exact ⟨hnumbered.head?, hns⟩

/-- The first group, and what stands behind it: a full stop and the other groups, or the rest. -/
theorem Numbered.exists_append (hs : Numbered s (g :: gs) rest) :
    ∃ r, s = g ++ r ∧ r.head?.any isNumeral = false ∧
      (gs = [] ∧ r = rest ∨ gs ≠ [] ∧ ∃ q, r = '.' :: q) := by
  cases gs with
  | nil =>
    exact ⟨rest, hs.text, head?_of_goesOn_eq_false hs.stops, Or.inl ⟨rfl, rfl⟩⟩
  | cons h gs =>
    refine ⟨'.' :: (withStops (h :: gs) ++ rest), ?_, isNumeral_stop, Or.inr ⟨by simp, _, rfl⟩⟩
    rw [hs.text, withStops, List.append_assoc, List.cons_append]

/-- The first group is all the digits that the text starts with. -/
theorem Numbered.takeWhile_eq (hs : Numbered s (g :: gs) rest) : s.takeWhile isNumeral = g := by
  obtain ⟨r, rfl, hr, -⟩ := hs.exists_append
  rw [List.takeWhile_append_of_pos (hs.digits g List.mem_cons_self), takeWhile_of_head hr,
    List.append_nil]

/-- Behind the first group there is a full stop if there are others. -/
theorem Numbered.dropWhile_eq (hs : Numbered s (g :: gs) rest) :
    gs = [] ∧ s.dropWhile isNumeral = rest ∨ gs ≠ [] ∧ ∃ q, s.dropWhile isNumeral = '.' :: q := by
  obtain ⟨r, rfl, hr, hbehind⟩ := hs.exists_append
  rw [List.dropWhile_append_of_pos (hs.digits g List.mem_cons_self), dropWhile_of_head hr]
  exact hbehind

/-! ## What is read -/

/-- **Some numbers are read exactly if the first one is a word**: it stands at the start, and no word
character directly behind it. -/
theorem readGroups_ne_zero_iff : readGroups s ≠ 0 ↔
    s.head?.any isNumeral = true ∧ endsWord (s.dropWhile isNumeral) = true := by
  by_cases hs : s.head?.any isNumeral = true
  · rw [readGroups, if_pos hs, and_iff_right hs]
    have hnumbered := numbered_dotted hs
    obtain ⟨g, gs, hgs⟩ := List.exists_cons_of_ne_nil hnumbered.ne_nil
    rw [hgs] at hnumbered ⊢
    -- of several groups the first is always read, because a full stop ends a word
    rcases hnumbered.dropWhile_eq with ⟨rfl, hrest⟩ | ⟨hne, q, hq⟩
    · have hmost : ¬ 4 < [g].length := by simp
      rw [hrest, readCount, if_neg hmost]
      cases endsWord (behindNumbers s) <;> simp
    · obtain ⟨h, gs, rfl⟩ := List.exists_cons_of_ne_nil hne
      rw [hq, endsWord_stop, readCount_cons]
      simp
  · exact iff_of_false (fun h => h (if_neg hs)) fun h => hs h.1

/-- What is read at the start of a text: the first of its numbers, if any are. -/
theorem groups?_eq_readPart (hs : s.head?.any isNumeral = true) :
    groups? 3 s = if readGroups s = 0 then none else some (readPart s) := by
  rw [groups?_of_numbered (numbered_dotted hs), readPart, readGroups, if_pos hs]

/-- **The first numbers are read** where any are. -/
theorem extract?_of_readGroups_ne_zero (h : readGroups token.toList ≠ 0) :
    extract? token none = some (String.ofList (readPart token.toList)) := by
  have hs := (readGroups_ne_zero_iff.1 h).1
  have hfound : findPlain? none token.toList = some (readPart token.toList) := by
    have hgroups := groups?_eq_readPart hs
    rw [if_neg h] at hgroups
    cases htext : token.toList with
    | nil => rw [htext] at hs; cases hs
    | cons c cs =>
      rw [htext] at hgroups
      rw [findPlain?, if_neg (by simp), hgroups, Option.some_or]
  exact congrArg (Option.map String.ofList) hfound

/-- The numbers that are read are the first ones of the version. -/
theorem ofText?_readPart (hblank : ∀ c ∈ token.toList, isBlank c = false)
    (hv : ofText? token = some v) (h : readGroups token.toList ≠ 0) :
    ofText? (String.ofList (readPart token.toList)) =
      some ⟨v.numbers.take (readGroups token.toList)⟩ := by
  have hmark := behindMark_of_numeral (readGroups_ne_zero_iff.1 h).1
  have hns := ((ofText?_eq_some_iff hblank).1 hv).2
  rw [hmark] at hns
  refine ofText?_withStops ?_ (List.forall₂_take _ hns)
  rw [Ne, List.take_eq_nil_iff, not_or]
  exact ⟨h, dotted_ne_nil [] token.toList⟩

/-- A first number that no version starts at is passed over: its digits are word characters, and where no
version starts at the first of them, none starts at the others. -/
theorem findPlain?_of_readGroups_eq_zero (hhead : (behindMark s).head?.any isNumeral = true)
    (hfirst : ∀ c ∈ (behindMark s).takeWhile isNumeral, isWord c = true) (h : readGroups s = 0) :
    findPlain? none s = findPlain? none (behindFirst s) := by
  rw [behindFirst]
  rcases behindMark_cases s with hmark | ⟨m, hm, hmark⟩
  · rw [hmark] at hhead hfirst ⊢
    have hgroups := groups?_eq_readPart hhead
    rw [if_pos h] at hgroups
    cases s with
    | nil => rfl
    | cons c s =>
      have hc : isNumeral c = true := hhead
      rw [List.takeWhile_cons_of_pos hc, List.forall_mem_cons] at hfirst
      have hword : (some c).any isWord = true := hfirst.1
      rw [findPlain?, hgroups, ite_self, Option.none_or, List.dropWhile_cons_of_pos hc,
        findPlain?_behind_word hword hfirst.2]
  · -- the mark is a word character in front of the number
    generalize behindMark s = cs at hmark hfirst
    subst hmark
    have hnone : groups? 3 (m :: cs) = none := groups?_of_not_numeral (isNumeral_mark hm)
    have hword : (some m).any isWord = true := isWord_mark hm
    rw [findPlain?, hnone, ite_self, Option.none_or, findPlain?_behind_word hword hfirst]

/-- **All numbers are read** if there are four at most and no word character directly behind the last. -/
theorem readGroups_eq_length (hblank : ∀ c ∈ token.toList, isBlank c = false)
    (hv : ofText? token = some v) (hs : token.toList.head?.any isNumeral = true)
    (hmost : v.numbers.length ≤ 4) (hend : endsWord (behindNumbers token.toList) = true) :
    readGroups token.toList = v.numbers.length := by
  have hns := ((ofText?_eq_some_iff hblank).1 hv).2
  rw [behindMark_of_numeral hs] at hns
  rw [← hns.length_eq] at hmost ⊢
  rw [readGroups, if_pos hs, readCount, if_neg (Nat.not_lt.2 hmost), if_pos hend]

/-- **A first number that is not read is passed over**, and what stands behind it is read. -/
theorem extract?_of_readGroups_eq_zero (hblank : ∀ c ∈ token.toList, isBlank c = false)
    (hv : ofText? token = some v) (h : readGroups token.toList = 0) :
    extract? token none = extract? (String.ofList (behindFirst token.toList)) none := by
  obtain ⟨hhead, hns⟩ := (ofText?_eq_some_iff hblank).1 hv
  have hfirst : ∀ c ∈ (behindMark token.toList).takeWhile isNumeral, isWord c = true := by
    have hnumbered := numbered_dotted hhead
    obtain ⟨g, gs, hgs⟩ := List.exists_cons_of_ne_nil hnumbered.ne_nil
    rw [hgs] at hnumbered hns
    rw [hnumbered.takeWhile_eq]
    obtain ⟨n, -, hn⟩ := Sequence.exists_of_mem_right hns.flip List.mem_cons_self
    exact fun c hc => isWord_of_isDigit ((isDigit_of_digits64? hn).2 c hc)
  rw [extract?, extract?, String.toList_ofList]
  exact congrArg (Option.map String.ofList) (findPlain?_of_readGroups_eq_zero hhead hfirst h)

end Version

end Multilint
