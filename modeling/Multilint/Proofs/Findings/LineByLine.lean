import Multilint.Proofs.Findings.CompilerLines
import Multilint.Proofs.Findings.LevelLines
/-!
# Lines without influence on each other

Where a line is a finding or none by itself, the findings of a text behind ended lines are those of the lines in
front and then its own (`LineByLine`), so no banner and no summary hides a finding or changes it. Colour sequences
are taken out of a text before it is cut into lines, but none of them reaches over a line feed
(`dropColours_append`), not even one that is begun in front of it and could be ended behind it.
-/

namespace Multilint

open Text

namespace Findings

variable {s a b : List Char} {c : Char} {n : ℕ}

/-! ## Colour sequences -/

/-- A character of the numbers in a colour sequence. -/
def isColourChar (c : Char) : Bool :=
  Numeral.isDigit c || c == ';'

/-- A bracket, numbers, and an `m` behind them are a colour sequence. -/
theorem colourLength?_bracket (r : List Char) : colourLength? ('[' :: r) =
    if (r.drop (r.takeWhile isColourChar).length).head? = some 'm' then
      some ((r.takeWhile isColourChar).length + 2)
    else none :=
  rfl

theorem colourLength?_of_ne (hc : c ≠ '[') (r : List Char) : colourLength? (c :: r) = none := by
  rw [colourLength?]
  rintro r' ⟨⟩
  exact hc rfl

/-- **A colour sequence ends before the line does**, or it is none. -/
theorem colourLength?_append_feed (s b : List Char) : colourLength? (s ++ '\n' :: b) = colourLength? s := by
  cases s with
  | nil => rfl
  | cons c r =>
    by_cases hc : c = '['
    · subst hc
      have hnumbers : (r ++ '\n' :: b).takeWhile isColourChar = r.takeWhile isColourChar := by
        rw [List.takeWhile_append]
        split
        · rename_i hall
          rw [List.takeWhile_cons_of_neg (by decide), List.append_nil]
          exact ((List.takeWhile_prefix _).eq_of_length hall).symm
        · rfl
      -- what stands behind the numbers is in the line, or it is the line feed
      have hend : ∀ k ≤ r.length, ((r ++ '\n' :: b).drop k).head? = some 'm' ↔ (r.drop k).head? = some 'm' := by
        intro k hk
        rw [List.drop_append_of_le_length hk, List.head?_append]
        cases (r.drop k).head? with
        | none => simp
        | some d => rfl
      have hlength : (r.takeWhile isColourChar).length ≤ r.length := (List.takeWhile_prefix _).length_le
      rw [List.cons_append, colourLength?_bracket, colourLength?_bracket, hnumbers]
      simp only [hend _ hlength]
    · rw [List.cons_append, colourLength?_of_ne hc, colourLength?_of_ne hc]

/-- A colour sequence is no longer than the text it is in. -/
theorem colourLength?_le (h : colourLength? s = some n) : n ≤ s.length := by
  cases s with
  | nil => cases h
  | cons c r =>
    by_cases hc : c = '['
    · rw [hc, colourLength?_bracket] at h
      split at h
      · rename_i hend
        obtain rfl := Option.some.inj h
        have hlt : (r.takeWhile isColourChar).length < r.length := by
          by_contra hge
          rw [List.drop_eq_nil_of_le (Nat.le_of_not_lt hge)] at hend
          cases hend
        rw [List.length_cons]
        omega
      · cases h
    · rw [colourLength?_of_ne hc] at h
      cases h

/-- The induction is on the characters in front of the line feed, and a sequence that is being dropped ends among
them. -/
theorem dropColoursAfter_append (hn : n ≤ a.length) :
    dropColoursAfter n (a ++ '\n' :: b) = dropColoursAfter n a ++ '\n' :: dropColours b := by
  fun_induction dropColoursAfter n a with
  | case1 n =>
    obtain rfl : n = 0 := Nat.le_zero.1 hn
    rfl
  | case2 n c cs ih => exact ih (Nat.le_of_succ_le_succ hn)
  | case3 cs m hm ih =>
    have hdrop : dropColoursAfter 0 ('\x1b' :: (cs ++ '\n' :: b)) = dropColoursAfter m (cs ++ '\n' :: b) := by
      rw [dropColoursAfter, if_pos rfl, colourLength?_append_feed, hm]
    rw [List.cons_append, hdrop]
    exact ih (colourLength?_le hm)
  | case4 cs hnone ih =>
    have hkeep : dropColoursAfter 0 ('\x1b' :: (cs ++ '\n' :: b)) =
        '\x1b' :: dropColoursAfter 0 (cs ++ '\n' :: b) := by
      rw [dropColoursAfter, if_pos rfl, colourLength?_append_feed, hnone]
    rw [List.cons_append, hkeep, ih (Nat.zero_le _)]
    rfl
  | case5 c cs hc ih =>
    have hkeep : dropColoursAfter 0 (c :: (cs ++ '\n' :: b)) = c :: dropColoursAfter 0 (cs ++ '\n' :: b) := by
      rw [dropColoursAfter, if_neg hc]
    rw [List.cons_append, hkeep, ih (Nat.zero_le _)]
    rfl

/-- **No colour sequence reaches over a line feed.** -/
theorem dropColours_append (a b : List Char) :
    dropColours (a ++ '\n' :: b) = dropColours a ++ '\n' :: dropColours b :=
  dropColoursAfter_append (Nat.zero_le _)

/-! ## Readers of lines -/

/-- **A reader on which lines have no influence on each other.** -/
structure LineByLine (read : String → List Finding) : Prop where
  /-- Behind ended lines a text is read as it is alone. -/
  append : ∀ a b : String, EndsLine a.toList → read (a ++ b) = read a ++ read b
  /-- The line feed at the end of a text says nothing. -/
  feed : ∀ s, read (s ++ "\n") = read s

variable {read : String → List Finding} {line? : List Char → Option Finding}

/-- **A line is read as it is alone**, whatever stands in front of it and behind it. -/
theorem LineByLine.between (h : LineByLine read) {a : String} (ha : EndsLine a.toList) (l b : String) :
    read (a ++ l ++ "\n" ++ b) = read a ++ read l ++ read b := by
  have hline : EndsLine (l ++ "\n").toList := by
    rw [String.toList_append]
    exact endsLine_concat l.toList
  calc read (a ++ l ++ "\n" ++ b) = read (a ++ (l ++ "\n" ++ b)) := by simp only [String.append_assoc]
    _ = read a ++ read (l ++ "\n" ++ b) := h.append a _ ha
    _ = read a ++ (read (l ++ "\n") ++ read b) := by rw [h.append _ b hline]
    _ = read a ++ read l ++ read b := by rw [h.feed, List.append_assoc]

namespace ReadsLines

/-- The line feed at the end of a text ends its last line, or it adds an empty one. -/
theorem filterMap_feed (h : ReadsLines line?) (s : List Char) :
    (lines (s ++ ['\n'])).filterMap line? = (lines s).filterMap line? := by
  obtain ⟨front, last, rfl, hfront, hlast⟩ := exists_last_line s
  rw [List.append_assoc, lines_append_of_endsLine hfront, lines_append_of_endsLine hfront, List.filterMap_append,
    List.filterMap_append, h.filterMap_line hlast, h.filterMap_last hlast]

theorem lineByLine (h : ReadsLines line?) : LineByLine (ofLines line?) where
  append a b ha := by
    rw [ofLines, String.toList_append, lines_append_of_endsLine ha, List.filterMap_append]
    rfl
  feed s := by
    rw [ofLines, String.toList_append]
    exact h.filterMap_feed s.toList

end ReadsLines

theorem trim_return : trim ['\r'] = [] := by
  decide

theorem readsLines_reformatLine? : ReadsLines reformatLine? where
  nil := by decide
  ending l := by rw [reformatLine?, reformatLine?, trim_append_of_blank trim_return]

theorem readsLines_warnLine? : ReadsLines warnLine? where
  nil := rfl
  ending l := by rw [warnLine?, warnLine?, trim_append_of_blank trim_return]

theorem readsLines_diffLine? : ReadsLines diffLine? where
  nil := rfl
  ending l := by rw [diffLine?, diffLine?, trimEnd_append_of_blank (blankEnd_iff.1 (by decide))]

/-- **Taking out colours first changes nothing about that**, since it is done line by line too. -/
theorem lineByLine_ofWarnOutput : LineByLine ofWarnOutput where
  append a b ha := by
    by_cases hne : a.toList = []
    · obtain rfl : a = "" := String.toList_inj.1 hne
      rw [String.empty_append]
      rfl
    · obtain ⟨front, hfront⟩ := ha.exists_concat hne
      have hab : dropColours (a.toList ++ b.toList) = dropColours a.toList ++ dropColours b.toList := by
        rw [hfront, List.append_assoc, List.singleton_append, dropColours_append, dropColours_append front []]
        simp [dropColours, dropColoursAfter]
      have hends : EndsLine (dropColours a.toList) := by
        rw [hfront, dropColours_append front []]
        exact endsLine_concat _
      rw [ofWarnOutput, String.toList_append, hab, lines_append_of_endsLine hends, List.filterMap_append]
      rfl
  feed s := by
    have hfeed : dropColours (s ++ "\n").toList = dropColours s.toList ++ ['\n'] := by
      rw [String.toList_append]
      exact dropColours_append s.toList []
    rw [ofWarnOutput, hfeed]
    exact readsLines_warnLine?.filterMap_feed _

/-- The readers of formats in which a line is one finding or none. -/
def lineReaders : List (String → List Finding) :=
  [ofCompilerOutput, ofLevelOutput, ofReformatOutput, ofWarnOutput, ofDiffOutput]

/-- **No line changes another one.** Behind ended lines a text is read as it is alone, and so is a line that stands
between others. -/
theorem lines_read_apart (hread : read ∈ lineReaders) {a : String} (ha : EndsLine a.toList) (b : String) :
    read (a ++ b) = read a ++ read b ∧ ∀ l, read (a ++ l ++ "\n" ++ b) = read a ++ read l ++ read b := by
  have hlines : LineByLine read := by
    simp only [lineReaders, List.mem_cons, List.not_mem_nil, or_false] at hread
    rcases hread with rfl | rfl | rfl | rfl | rfl
    · exact readsLines_compilerLine?.lineByLine
    · exact readsLines_levelLine?.lineByLine
    · exact readsLines_reformatLine?.lineByLine
    · exact lineByLine_ofWarnOutput
    · exact readsLines_diffLine?.lineByLine
  exact ⟨hlines.append a b ha, fun l => hlines.between ha l b⟩

/-- A list of warnings in colours, with a colour sequence that is begun at the end of a line. -/
def colouredOutput : String :=
  "Checking formatting...\r\n[\x1b[33mwarn\x1b[39m] a.js\n\x1b[3\n"

/-- What ends the sequence stands on the next line, where it is no part of it. -/
theorem lines_read_apart_coloured : ofWarnOutput ∈ lineReaders ∧ EndsLine colouredOutput.toList ∧
    ofWarnOutput (colouredOutput ++ "[warn] b.ts 12ms\r" ++ "\n" ++ "m[warn] c.css") =
      [unformatted "a.js".toList "File needs formatting" none,
        unformatted "b.ts".toList "File needs formatting" none] := by
  have hread : ofWarnOutput ∈ lineReaders := by simp [lineReaders]
  have hends : EndsLine colouredOutput.toList := by decide
  refine ⟨hread, hends, ?_⟩
  rw [(lines_read_apart hread hends "m[warn] c.css").2]
  decide +kernel

end Findings

end Multilint
