import Multilint.Proofs.Text.Scan
import Multilint.Proofs.Version.Numbers
import Multilint.Version.Extraction
import Mathlib.Data.List.TakeWhile
import Mathlib.Data.String.Basic
/-!
# What is read of a version

Of the numbers that a text starts with, as many are read as `readCount` says (`groups?_of_numbered`): at most
a given number, and the last of them only if no word character follows it. A version is looked for from left
to right; text without digits is passed over, and so are digits that stand behind a word character
(`findPlain?_behind_word`). Where all the digits of an output stand in one word of it, the output is read as
that word alone (`extract?_of_digitsIn`).
-/

namespace Multilint

namespace Version

open Text

variable {before : Option Char} {s r rest after g : List Char} {gs : List (List Char)} {n : ℕ}

/-! ## Groups -/

theorem groups?_of_not_numeral (hs : s.head?.any isNumeral = false) : groups? n s = none := by
  cases n <;> rw [groups?, spanSome?_of_head hs] <;> rfl

/-- A last group is read if the word ends behind it. -/
theorem groups?_zero_append (hne : g ≠ []) (hg : ∀ c ∈ g, isNumeral c = true)
    (hr : r.head?.any isNumeral = false) :
    groups? 0 (g ++ r) = if endsWord r then some g else none := by
  rw [groups?, spanSome?_append hne hg hr]
  rfl

/-- **A group is read with those behind it**, or else like a last one. -/
theorem groups?_succ_append (hne : g ≠ []) (hg : ∀ c ∈ g, isNumeral c = true)
    (hr : r.head?.any isNumeral = false) :
    groups? (n + 1) (g ++ r) =
      match (after? ['.'] r).bind (groups? n) with
      | some l => some (g ++ '.' :: l)
      | none => if endsWord r then some g else none := by
  rw [groups?, spanSome?_append hne hg hr]
  rfl

/-- **How many groups are read**: at most a given number, and the last of them only if no word character
follows it. -/
def readCount (most : ℕ) (gs : List (List Char)) (rest : List Char) : ℕ :=
  if most < gs.length then most
  else if endsWord rest then gs.length else gs.length - 1

/-- Behind a group that others follow, one place less is left. -/
theorem readCount_cons {h : List Char} :
    readCount (n + 1) (g :: h :: gs) rest = readCount n (h :: gs) rest + 1 := by
  simp only [readCount, List.length_cons, Nat.add_lt_add_iff_right]
  by_cases hmost : n < gs.length + 1
  · rw [if_pos hmost, if_pos hmost]
  · rw [if_neg hmost, if_neg hmost]
    split <;> rfl

theorem endsWord_stop (s : List Char) : endsWord ('.' :: s) = true := by
  have hstop : isWord '.' = false := by decide
  rw [endsWord, List.head?_cons, Option.any_some, hstop]
  rfl

/-- A single group is read if the word ends behind it, whatever else may be read. -/
theorem groups?_of_numbered_singleton (hs : Numbered s [g] rest) :
    groups? n s = if endsWord rest then some g else none := by
  have hne : g ≠ [] := hs.group_ne_nil g List.mem_cons_self
  have hg : ∀ c ∈ g, isNumeral c = true := hs.digits g List.mem_cons_self
  have hrest : rest.head?.any isNumeral = false := head?_of_goesOn_eq_false hs.stops
  have htext : s = g ++ rest := hs.text
  cases n with
  | zero => rw [htext, groups?_zero_append hne hg hrest]
  | succ n =>
    -- behind a full stop the numbers do not go on
    have hnone : (after? ['.'] rest).bind (groups? n) = none := by
      rw [Option.bind_eq_none_iff]
      intro r hr
      obtain rfl : rest = '.' :: r := after?_eq_some_iff.1 hr
      exact groups?_of_not_numeral (by simpa [goesOn, isNumeral_stop] using hs.stops)
    rw [htext, groups?_succ_append hne hg hrest, hnone]

/-- **The groups that are read** of a text that starts with numbers. -/
theorem groups?_of_numbered (hs : Numbered s gs rest) :
    groups? n s =
      if readCount (n + 1) gs rest = 0 then none
      else some (withStops (gs.take (readCount (n + 1) gs rest))) := by
  induction gs generalizing s n with
  | nil => exact absurd rfl hs.ne_nil
  | cons g gs ih =>
    have hne : g ≠ [] := hs.group_ne_nil g List.mem_cons_self
    have hg : ∀ c ∈ g, isNumeral c = true := hs.digits g List.mem_cons_self
    -- behind the first group there is the rest, or a full stop and the other groups
    cases gs with
    | nil =>
      have hmost : ¬ n + 1 < [g].length := by simp
      rw [groups?_of_numbered_singleton hs, readCount, if_neg hmost]
      cases endsWord rest <;> rfl
    | cons h gs =>
      have htext : s = g ++ '.' :: (withStops (h :: gs) ++ rest) := by
        rw [hs.text, withStops, List.append_assoc, List.cons_append]
      have hstop : ('.' :: (withStops (h :: gs) ++ rest)).head?.any isNumeral = false :=
        isNumeral_stop
      cases n with
      | zero =>
        rw [htext, groups?_zero_append hne hg hstop, endsWord_stop, readCount, if_pos (by simp)]
        rfl
      | succ n =>
        have hafter : after? ['.'] ('.' :: (withStops (h :: gs) ++ rest)) =
            some (withStops (h :: gs) ++ rest) := rfl
        rw [htext, groups?_succ_append hne hg hstop, hafter, Option.bind_some, ih hs.tail,
          endsWord_stop, readCount_cons, if_neg (Nat.succ_ne_zero _), List.take_succ_cons]
        by_cases hzero : readCount (n + 1) (h :: gs) rest = 0
        · rw [if_pos hzero, hzero]
          rfl
        · obtain ⟨k, hk⟩ := Nat.exists_eq_succ_of_ne_zero hzero
          rw [if_neg hzero, hk, List.take_succ_cons, withStops]

/-! ## Where the version is found -/

/-- A text is searched alike behind any two characters that are not word characters, or that both are. -/
theorem findPlain?_congr {p q : Option Char} (h : p.any isWord = q.any isWord) :
    findPlain? p s = findPlain? q s := by
  cases s with
  | nil => rfl
  | cons c s => rw [findPlain?, findPlain?, h]

/-- What stands before a text that does not start with a digit does not matter. -/
theorem findPlain?_of_not_numeral {p q : Option Char} (hs : s.head?.any isNumeral = false) :
    findPlain? p s = findPlain? q s := by
  cases s with
  | nil => rfl
  | cons c s => rw [findPlain?, findPlain?, groups?_of_not_numeral hs, ite_self, ite_self]

/-- **Text without digits is passed over.** -/
theorem findPlain?_append_of_no_numeral {p : Option Char} {b : List Char}
    (hb : ∀ c ∈ b, isNumeral c = false) :
    findPlain? p (b ++ s) = findPlain? (b.getLast?.or p) s := by
  induction b generalizing p with
  | nil => rfl
  | cons c b ih =>
    have hc : (c :: (b ++ s)).head?.any isNumeral = false := hb c List.mem_cons_self
    rw [List.cons_append, findPlain?, groups?_of_not_numeral hc, ite_self, Option.none_or,
      ih fun d hd => hb d (List.mem_cons_of_mem c hd), List.getLast?_cons]
    cases b.getLast? <;> rfl

/-- **Word characters behind a word character** start no version. -/
theorem findPlain?_append_of_word {p : Option Char} (hp : p.any isWord = true)
    (hg : ∀ c ∈ g, isWord c = true) : findPlain? p (g ++ s) = findPlain? p s := by
  induction g generalizing p with
  | nil => rfl
  | cons c g ih =>
    have hc : (some c).any isWord = true := hg c List.mem_cons_self
    rw [List.cons_append, findPlain?, if_pos hp, Option.none_or,
      ih hc fun d hd => hg d (List.mem_cons_of_mem c hd)]
    exact findPlain?_congr (hc.trans hp.symm)

/-- Behind a word character the first number of a text is passed over. -/
theorem findPlain?_behind_word {p : Option Char} (hp : p.any isWord = true)
    (hg : ∀ c ∈ s.takeWhile isNumeral, isWord c = true) :
    findPlain? p s = findPlain? none (s.dropWhile isNumeral) := by
  have hhead : (s.dropWhile isNumeral).head?.any isNumeral = false := by
    have := List.head?_dropWhile_not isNumeral s
    cases h : (s.dropWhile isNumeral).head? with
    | none => rfl
    | some c => simpa [h] using this
  calc findPlain? p s
      = findPlain? p (s.takeWhile isNumeral ++ s.dropWhile isNumeral) := by
        rw [List.takeWhile_append_dropWhile]
    _ = findPlain? p (s.dropWhile isNumeral) := findPlain?_append_of_word hp hg
    _ = findPlain? none (s.dropWhile isNumeral) := findPlain?_of_not_numeral hhead

/-! ## Text behind the version -/

/-- A text in which no version goes on: it starts with no digit, no full stop and no word character. -/
structure Closing (after : List Char) : Prop where
  /-- No digit. -/
  not_numeral : after.head?.any isNumeral = false
  /-- No full stop. -/
  not_stop : after? ['.'] after = none
  /-- No word character. -/
  endsWord : endsWord after = true

theorem spanSome?_append_right (ha : after.head?.any isNumeral = false) :
    spanSome? isNumeral (s ++ after) = (spanSome? isNumeral s).map fun (ds, r) => (ds, r ++ after) := by
  have hsplit : (s ++ after).takeWhile isNumeral = s.takeWhile isNumeral ∧
      (s ++ after).dropWhile isNumeral = s.dropWhile isNumeral ++ after := by
    induction s with
    | nil => exact ⟨takeWhile_of_head ha, dropWhile_of_head ha⟩
    | cons c s ih =>
      cases hc : isNumeral c with
      | true => simp [hc, ih]
      | false => simp [hc]
  rw [spanSome?, spanSome?, hsplit.1, hsplit.2]
  split <;> rfl

theorem after?_stop_append (ha : Closing after) :
    after? ['.'] (r ++ after) = (after? ['.'] r).map (· ++ after) := by
  cases r with
  | nil => exact ha.not_stop
  | cons c r =>
    simp only [List.cons_append, after?]
    split <;> rfl

theorem endsWord_append (ha : Closing after) : endsWord (r ++ after) = endsWord r := by
  cases r with
  | nil => exact ha.endsWord
  | cons c r => rfl

/-- No group is read in the text behind, and none is lost to it. -/
theorem groups?_append_right (ha : Closing after) : groups? n (s ++ after) = groups? n s := by
  induction n generalizing s with
  | zero =>
    rw [groups?, groups?, spanSome?_append_right ha.not_numeral]
    cases spanSome? isNumeral s with
    | none => rfl
    | some dr => exact congrArg (fun e => if e then some dr.1 else none) (endsWord_append ha)
  | succ n ih =>
    rw [groups?, groups?, spanSome?_append_right ha.not_numeral]
    cases spanSome? isNumeral s with
    | none => rfl
    | some dr =>
      have hbind : (after? ['.'] (dr.2 ++ after)).bind (groups? n) =
          (after? ['.'] dr.2).bind (groups? n) := by
        rw [after?_stop_append ha]
        cases after? ['.'] dr.2 with
        | none => rfl
        | some q => exact ih
      simp only [Option.map_some, Option.bind_eq_bind, Option.bind_some, hbind, endsWord_append ha]

/-- **Text without digits behind a version** changes nothing. -/
theorem findPlain?_append_right {p : Option Char} (ha : Closing after)
    (hno : ∀ c ∈ after, isNumeral c = false) : findPlain? p (s ++ after) = findPlain? p s := by
  induction s generalizing p with
  | nil =>
    have hskip : findPlain? p (after ++ []) = findPlain? (after.getLast?.or p) [] :=
      findPlain?_append_of_no_numeral hno
    rw [List.append_nil] at hskip
    exact hskip
  | cons c s ih =>
    rw [List.cons_append, findPlain?, findPlain?, ih, ← List.cons_append, groups?_append_right ha]

/-! ## A word of the output -/

/-- **All the digits of an output stand in one word of it.** -/
structure DigitsIn (token output : String) (before after : List Char) : Prop where
  /-- The word, with something before and behind it. -/
  text : output.toList = before ++ (token.toList ++ after)
  /-- It has no blank. -/
  token_blank : ∀ c ∈ token.toList, isBlank c = false
  /-- There is a blank before it, or nothing. -/
  before_blank : before.getLast?.all isBlank = true
  /-- There is a blank behind it, or nothing. -/
  after_blank : after.head?.all isBlank = true
  /-- There is no digit before it. -/
  before_numeral : ∀ c ∈ before, isNumeral c = false
  /-- There is no digit behind it. -/
  after_numeral : ∀ c ∈ after, isNumeral c = false

theorem digitsIn_iff {token output : String} {b a : List Char} : DigitsIn token output b a ↔
    output.toList = b ++ (token.toList ++ a) ∧ token.toList.all (fun c => !isBlank c) = true ∧
      b.getLast?.all isBlank = true ∧ a.head?.all isBlank = true ∧
      b.all (fun c => !isNumeral c) = true ∧ a.all (fun c => !isNumeral c) = true := by
  simp only [List.all_eq_true, Bool.not_eq_true']
  constructor
  · rintro ⟨htext, htoken, hbefore, hafter, hbefore', hafter'⟩
    exact ⟨htext, htoken, hbefore, hafter, hbefore', hafter'⟩
  · rintro ⟨htext, htoken, hbefore, hafter, hbefore', hafter'⟩
    exact ⟨htext, htoken, hbefore, hafter, hbefore', hafter'⟩

instance {token output : String} {b a : List Char} : Decidable (DigitsIn token output b a) :=
  decidable_of_iff _ digitsIn_iff.symm

/-- A text that starts with a blank closes a version. -/
theorem closing_of_blank (hblank : after.head?.all isBlank = true)
    (hno : ∀ c ∈ after, isNumeral c = false) : Closing after := by
  cases after with
  | nil => exact ⟨rfl, rfl, rfl⟩
  | cons c after =>
    have hblank : isBlank c = true := hblank
    refine ⟨hno c List.mem_cons_self, ?_, ?_⟩
    · have hstop : '.' ≠ c := by
        rintro rfl
        exact absurd hblank (by decide)
      rw [after?, if_neg hstop]
    · rw [endsWord, List.head?_cons, Option.any_some, isWord_of_isBlank hblank]
      rfl

/-- **Only the word with the digits counts.** -/
theorem extract?_of_digitsIn {token output : String} {b a : List Char}
    (h : DigitsIn token output b a) : extract? output none = extract? token none := by
  have hlast : (b.getLast?.or none).any isWord = (none : Option Char).any isWord := by
    have := h.before_blank
    cases hb : b.getLast? with
    | none => rfl
    | some c =>
      rw [hb] at this
      exact isWord_of_isBlank this
  have hclosing := closing_of_blank h.after_blank h.after_numeral
  have hfound : findPlain? none output.toList = findPlain? none token.toList :=
    calc findPlain? none output.toList
        = findPlain? (b.getLast?.or none) (token.toList ++ a) := by
          rw [h.text, findPlain?_append_of_no_numeral h.before_numeral]
      _ = findPlain? none (token.toList ++ a) := findPlain?_congr hlast
      _ = findPlain? none token.toList := findPlain?_append_right hclosing h.after_numeral
  exact congrArg (Option.map String.ofList) hfound

end Version

end Multilint
