import Multilint.Proofs.Findings.Lines
import Mathlib.Data.List.Infix
/-!
# Lines with a bracketed level read back

Some tools write a finding as `file:line:column: [level] message`, with a rule in parentheses behind it if there is
one. Nothing but the first bracket tells where the file ends: a file may hold colons and numbers, but a place that
starts in the file has more colons in front of the bracket than a place has (`placeAndLevel?_append_place`). The
message goes up to the last parentheses or to the end (`ruleAtEnd?_append_rule`), so it may hold others. So what
was written on a line is what is read of it (`levelLine?_levelText`).
-/

namespace Multilint

open Text

namespace Findings

variable {s r row column level row' column' level' rule : List Char}

/-! ## Places and levels -/

/-- **A place and a level**, with the rest of the line behind them. -/
def levelPlace (row column level r : List Char) : List Char :=
  ':' :: (row ++ ':' :: (column ++ ':' :: ' ' :: '[' :: (level ++ ']' :: ' ' :: r)))

/-- **The parts of a place and a level**: two numbers and a word. -/
structure IsLevelPlace (row column level : List Char) : Prop where
  /-- The line is a number. -/
  row : IsNumberPart row
  /-- So is the column. -/
  column : IsNumberPart column
  /-- The level is a word. -/
  level : level ≠ [] ∧ ∀ c ∈ level, isWord c = true

/-- **What is read as a place and a level is one.** -/
theorem placeAndLevel?_eq_some_iff : placeAndLevel? s = some (row, column, level, r) ↔
    IsLevelPlace row column level ∧ s = levelPlace row column level r := by
  constructor
  · intro h
    simp only [placeAndLevel?, Option.bind_eq_bind, Option.bind_eq_some_iff, Prod.exists] at h
    obtain ⟨r₁, hfirst, row, r₂, hread, r₃, hsecond, column, r₄, hread', r₅, hopen, level, r₆, hword, r, hclose,
      heq⟩ := h
    cases heq
    obtain rfl := word?_eq_some_iff.1 hfirst
    obtain ⟨rfl, hrow, hdigits, -⟩ := spanSome?_eq_some_iff.1 hread
    obtain rfl := word?_eq_some_iff.1 hsecond
    obtain ⟨rfl, hcolumn, hdigits', -⟩ := spanSome?_eq_some_iff.1 hread'
    obtain rfl := word?_eq_some_iff.1 hopen
    obtain ⟨rfl, hlevel, hchars, -⟩ := spanSome?_eq_some_iff.1 hword
    obtain rfl := word?_eq_some_iff.1 hclose
    exact ⟨⟨⟨hrow, hdigits⟩, ⟨hcolumn, hdigits'⟩, ⟨hlevel, hchars⟩⟩, rfl⟩
  · rintro ⟨⟨hrow, hcolumn, hlevel⟩, rfl⟩
    have hcolon : ∀ t : List Char, word? ":" (':' :: t) = some t := fun t => word?_eq_some_iff.2 rfl
    have hopen : ∀ t : List Char, word? ": [" (':' :: ' ' :: '[' :: t) = some t := fun t => word?_eq_some_iff.2 rfl
    have hclose : word? "] " (']' :: ' ' :: r) = some r := word?_eq_some_iff.2 rfl
    have hbracket : isWord ']' = false := by decide
    have hword : spanSome? isWord (level ++ ']' :: ' ' :: r) = some (level, ']' :: ' ' :: r) :=
      spanSome?_append hlevel.1 hlevel.2 hbracket
    have hsecond := hcolumn.spanSome? (r := ':' :: ' ' :: '[' :: (level ++ ']' :: ' ' :: r)) rfl
    have hfirst := hrow.spanSome? (r := ':' :: (column ++ ':' :: ' ' :: '[' :: (level ++ ']' :: ' ' :: r))) rfl
    simp only [placeAndLevel?, levelPlace, hcolon, hfirst, hsecond, hopen, hword, hclose, Option.bind_eq_bind,
      Option.bind_some]
    rfl

/-- The colons in front of the bracket of a place. -/
theorem count_colon_place (h : IsLevelPlace row column level) :
    (':' :: (row ++ ':' :: (column ++ [':', ' ']))).count ':' = 3 := by
  have hcolon : isNumeral ':' = false := by decide
  simp [List.count_eq_zero.2 (h.row.not_mem hcolon), List.count_eq_zero.2 (h.column.not_mem hcolon)]

/-- There is no other one in front of it. -/
theorem bracket_not_mem_place (h : IsLevelPlace row column level) :
    '[' ∉ ':' :: (row ++ ':' :: (column ++ [':', ' '])) := by
  have hbracket : isNumeral '[' = false := by decide
  simp [h.row.not_mem hbracket, h.column.not_mem hbracket]

theorem levelPlace_eq (row column level r : List Char) : levelPlace row column level r =
    ':' :: (row ++ ':' :: (column ++ [':', ' '])) ++ '[' :: (level ++ ']' :: ' ' :: r) := by
  simp [levelPlace]

/-- **No place starts before the last one** in front of the first bracket: it would have too many colons. -/
theorem placeAndLevel?_append_place (hne : s ≠ []) (hs : '[' ∉ s) (h : IsLevelPlace row column level) :
    placeAndLevel? (s ++ levelPlace row column level r) = none := by
  by_contra hread
  obtain ⟨⟨row', column', level', r'⟩, hread⟩ := Option.ne_none_iff_exists'.1 hread
  obtain ⟨h', heq⟩ := placeAndLevel?_eq_some_iff.1 hread
  rw [levelPlace_eq, levelPlace_eq, ← List.append_assoc] at heq
  have hbracket : '[' ∉ s ++ ':' :: (row ++ ':' :: (column ++ [':', ' '])) := fun hmem =>
    (List.mem_append.1 hmem).elim hs (bracket_not_mem_place h)
  obtain ⟨hfront, -⟩ := eq_of_first heq hbracket (bracket_not_mem_place h')
  have hcount := congrArg (List.count ':') hfront
  rw [List.count_append, count_colon_place h, count_colon_place h'] at hcount
  -- both have three colons, so what stands in front of the place has none, but it starts with one
  obtain ⟨c, s, rfl⟩ := List.exists_cons_of_ne_nil hne
  obtain ⟨rfl, -⟩ := List.cons.inj hfront
  have hcolon : 0 < (':' :: s).count ':' := List.count_pos_iff.2 List.mem_cons_self
  omega

/-! ## Rules in parentheses -/

/-- A character of a rule. -/
def isRuleChar (c : Char) : Bool :=
  isWord c || c == '-'

/-- **A text that ends as if with a rule**: in parentheses behind a space, with one or more characters of rules
between them. -/
def EndsInParentheses (s : List Char) : Prop :=
  ∃ front rule, (rule ≠ [] ∧ ∀ c ∈ rule, isRuleChar c = true) ∧ s = front ++ ' ' :: '(' :: (rule ++ [')'])

/-- A rule at the end is read as the rule. -/
theorem ruleAtEnd?_of_rule (hrule : rule ≠ []) (hchars : ∀ c ∈ rule, isRuleChar c = true) :
    ruleAtEnd? (' ' :: '(' :: (rule ++ [')'])) = some (some rule) := by
  have hopen : word? " (" (' ' :: '(' :: (rule ++ [')'])) = some (rule ++ [')']) := word?_eq_some_iff.2 rfl
  have hparenthesis : isRuleChar ')' = false := by decide
  have hread : spanSome? (fun c => isWord c || c == '-') (rule ++ [')']) = some (rule, [')']) :=
    spanSome?_append hrule hchars hparenthesis
  have hclose : word? ")" [')'] = some [] := word?_eq_some_iff.2 rfl
  simp only [ruleAtEnd?, hopen, hread, hclose, Option.bind_eq_bind, Option.bind_some]
  rfl

/-- **Nothing but a rule is read** at the end. -/
theorem rule_or_nil (h : ruleAtEnd? s ≠ none) :
    (∃ rule, (rule ≠ [] ∧ ∀ c ∈ rule, isRuleChar c = true) ∧ s = ' ' :: '(' :: (rule ++ [')'])) ∨ s = [] := by
  rw [ruleAtEnd?] at h
  dsimp only at h
  split at h
  · rename_i rule hrule
    simp only [Option.bind_eq_bind, Option.bind_eq_some_iff, Prod.exists] at hrule
    obtain ⟨r, hopen, rule', r', hread, after, hclose, hend⟩ := hrule
    obtain rfl := word?_eq_some_iff.1 hopen
    obtain ⟨rfl, hne, hchars, -⟩ := spanSome?_eq_some_iff.1 hread
    obtain rfl := word?_eq_some_iff.1 hclose
    split at hend
    · rename_i hafter
      rw [List.isEmpty_iff] at hafter
      exact .inl ⟨rule', ⟨hne, hchars⟩, by rw [hafter]; rfl⟩
    · cases hend
  · split at h
    · rename_i hempty
      exact .inr (List.isEmpty_iff.1 hempty)
    · exact absurd rfl h

/-- **Where a text does not end as if with a rule, none is read** at its end. -/
theorem ruleAtEnd?_of_not_endsInParentheses (hne : s ≠ []) (hends : ¬ EndsInParentheses s) :
    ruleAtEnd? s = none := by
  by_contra hread
  rcases rule_or_nil hread with ⟨rule, hrule, rfl⟩ | hnil
  · exact hends ⟨[], rule, hrule, rfl⟩
  · exact hne hnil

/-- Parentheses at the end are read as a rule by the reader of the end. -/
theorem endsInParentheses_iff :
    EndsInParentheses s ↔ ∃ t ∈ s.tails, ((ruleAtEnd? t).bind id).isSome = true := by
  constructor
  · rintro ⟨front, rule, hrule, rfl⟩
    refine ⟨' ' :: '(' :: (rule ++ [')']), (List.mem_tails _ _).2 (List.suffix_append _ _), ?_⟩
    rw [ruleAtEnd?_of_rule hrule.1 hrule.2]
    rfl
  · rintro ⟨t, ht, hread⟩
    obtain ⟨front, rfl⟩ := (List.mem_tails _ _).1 ht
    have hne : ruleAtEnd? t ≠ none := by
      intro hnone
      rw [hnone] at hread
      cases hread
    rcases rule_or_nil hne with ⟨rule, hrule, rfl⟩ | rfl
    · exact ⟨front, rule, hrule, rfl⟩
    · cases hread

instance : DecidablePred EndsInParentheses :=
  fun _ => decidable_of_iff _ endsInParentheses_iff.symm

/-- **In front of the last rule no other one is read.** -/
theorem ruleAtEnd?_append_rule (hne : s ≠ []) (hrule : ∀ c ∈ rule, isRuleChar c = true) :
    ruleAtEnd? (s ++ ' ' :: '(' :: (rule ++ [')'])) = none := by
  have hparenthesis : ∀ rule : List Char, (∀ c ∈ rule, isRuleChar c = true) → '(' ∉ rule ++ [')'] := by
    intro rule hrule hmem
    rcases List.mem_append.1 hmem with hmem | hmem
    · exact absurd (hrule '(' hmem) (by decide)
    · cases List.mem_singleton.1 hmem
  by_contra hread
  rcases rule_or_nil hread with ⟨rule', ⟨-, hrule'⟩, heq⟩ | hnil
  · have hsplit : (s ++ [' ']) ++ '(' :: (rule ++ [')']) = [' '] ++ '(' :: (rule' ++ [')']) := by
      simpa using heq
    obtain ⟨hfront, -⟩ := eq_of_last hsplit (hparenthesis rule hrule) (hparenthesis rule' hrule')
    have hlength := congrArg List.length hfront
    rw [List.length_append] at hlength
    exact hne (List.eq_nil_of_length_eq_zero (by simpa using hlength))
  · exact List.append_ne_nil_of_right_ne_nil s (List.cons_ne_nil _ _) hnil

end Findings

namespace Finding

open Findings

variable {f : Finding}

/-! ## Lines with a level -/

/-- The line `file:line:column: [level] message (rule)`; there are no parentheses without a rule. -/
def levelText (f : Finding) : String :=
  f.file ++ placePart f.line ++ placePart f.column ++ ": [" ++ f.severity.name ++ "] " ++
    f.message ++ (if f.code = "" then "" else " (" ++ f.code ++ ")")

/-- **A finding that fits on a line with a level**: the line shows all there is of it. -/
structure FitsLevelLine (f : Finding) : Prop where
  /-- There is a file. -/
  file_ne : f.file ≠ ""
  /-- It has no opening bracket. -/
  file_bracket : '[' ∉ f.file.toList
  /-- It is on one line. -/
  file_feed : '\n' ∉ f.file.toList
  /-- There is a line number of 64 bits. -/
  line : ∃ n < Numeral.bound64, f.line = some n
  /-- There is a column of 64 bits. -/
  column : ∃ n < Numeral.bound64, f.column = some n
  /-- The message is on one line. -/
  message_feed : '\n' ∉ f.message.toList
  /-- A rule has letters, digits, underscores and hyphens. -/
  code : ∀ c ∈ f.code.toList, isRuleChar c = true
  /-- Without a rule there is a message, it does not end with a blank, and it does not end as if with a rule. -/
  code_only : f.code = "" → f.message ≠ "" ∧ trimEnd f.message.toList = f.message.toList ∧
    ¬ EndsInParentheses f.message.toList
  /-- The line does not say that the tool can mend it. -/
  fixable : f.fixable = false

theorem isLevelPlace_written (n m : ℕ) (v : Severity) :
    IsLevelPlace n.repr.toList m.repr.toList v.name.toList where
  row := isNumberPart_repr n
  column := isNumberPart_repr m
  level := ⟨by cases v <;> decide, List.all_eq_true.1 (by cases v <;> decide)⟩

theorem ofLabel_name (v : Severity) : Severity.ofLabel v.name = v := by
  cases v <;> decide

/-- The line of a finding, part by part. -/
theorem toList_levelText {n m : ℕ} (hn : f.line = some n) (hm : f.column = some m) : f.levelText.toList =
    f.file.toList ++ levelPlace n.repr.toList m.repr.toList f.severity.name.toList
      (f.message.toList ++ f.endPart " (" ")") := by
  simp only [levelText, endPart, levelPlace, hn, hm, String.toList_append, toList_placePart_some,
    List.append_assoc, List.cons_append]
  rfl

namespace FitsLevelLine

/-- **The message ends where it was written to end**, whatever it says. -/
theorem shortest_message (hf : f.FitsLevelLine) : shortest ruleAtEnd? (f.message.toList ++ f.endPart " (" ")") =
    some (f.message.toList, f.code?) := by
  refine shortest_eq_some_iff.2 ⟨_, rfl, ?_, fun v hv hne => ?_⟩
  · by_cases hcode : f.code = ""
    · rw [endPart_of_none hcode, code?, if_pos hcode]
      rfl
    · rw [endPart_of_code hcode, code?, if_neg hcode]
      exact ruleAtEnd?_of_rule (fun h => hcode (String.toList_inj.1 h)) hf.code
  · -- a rest that starts earlier starts with an end of the message
    by_cases hcode : f.code = ""
    · obtain ⟨u, hu⟩ := hv
      rw [endPart_of_none hcode, List.append_nil]
      refine ruleAtEnd?_of_not_endsInParentheses hne ?_
      rintro ⟨front, rule, hrule, rfl⟩
      exact (hf.code_only hcode).2.2 ⟨u ++ front, rule, hrule, by rw [← hu, List.append_assoc]⟩
    · rw [endPart_of_code hcode]
      exact ruleAtEnd?_append_rule hne hf.code

/-- **The file ends where it was written to end**, whatever colons it has. -/
theorem shortestNonempty_file (hf : f.FitsLevelLine) {row column level r : List Char}
    (h : IsLevelPlace row column level) :
    shortestNonempty placeAndLevel? (f.file.toList ++ levelPlace row column level r) =
      some (f.file.toList, row, column, level, r) := by
  refine shortestNonempty_eq_some_iff.2 ⟨fun hnil => hf.file_ne (String.toList_inj.1 hnil), _, rfl,
    placeAndLevel?_eq_some_iff.2 ⟨h, rfl⟩, fun v hv hne _ => ?_⟩
  exact placeAndLevel?_append_place hne (fun hmem => hf.file_bracket (hv.mem hmem)) h

/-- Nothing is trimmed off the line. -/
theorem trimEnd_levelText (hf : f.FitsLevelLine) : trimEnd f.levelText.toList = f.levelText.toList := by
  obtain ⟨front, hfront⟩ : ∃ front, f.levelText.toList = front ++ (f.message.toList ++ f.endPart " (" ")") :=
    ⟨_, by rw [levelText, String.toList_append, String.toList_append, List.append_assoc]; rfl⟩
  rw [trimEnd_eq_self_iff, hfront]
  by_cases hcode : f.code = ""
  · obtain ⟨hmessage, htrim, -⟩ := hf.code_only hcode
    rw [endPart_of_none hcode, List.append_nil,
      List.getLast?_append_of_ne_nil front fun hnil => hmessage (String.toList_inj.1 hnil)]
    exact trimEnd_eq_self_iff.1 htrim
  · have hblank : isBlank ')' = false := by decide
    rw [endPart_of_code hcode, ← List.append_assoc, ← List.append_assoc, ← List.append_assoc]
    exact (congrArg (Option.any isBlank) (List.getLast?_concat ..)).trans hblank

/-- The line is one line. -/
theorem feed_not_mem (hf : f.FitsLevelLine) : '\n' ∉ f.levelText.toList := by
  have hplace : ∀ n, '\n' ∉ (placePart n).toList := fun n h => absurd (mem_placePart h) (by decide)
  have hlevel : '\n' ∉ f.severity.name.toList := by
    cases f.severity <;> decide
  have hrule : '\n' ∉ f.endPart " (" ")" :=
    not_mem_endPart (fun h => absurd (hf.code _ h) (by decide)) (by decide) (by decide)
  rw [endPart] at hrule
  simp only [levelText, String.toList_append, List.mem_append, hf.file_feed, hplace, hlevel, hf.message_feed, hrule]
  decide

end FitsLevelLine

/-- **A finding is read back from the line it is written on**, whatever its file and its message say. -/
theorem levelLine?_levelText (hf : f.FitsLevelLine) : levelLine? f.levelText.toList = some f := by
  obtain ⟨n, hn, hline⟩ := hf.line
  obtain ⟨m, hm, hcolumn⟩ := hf.column
  have htrim := hf.trimEnd_levelText.trans (toList_levelText hline hcolumn)
  have hfile := hf.shortestNonempty_file (r := f.message.toList ++ f.endPart " (" ")")
    (isLevelPlace_written n m f.severity)
  simp only [levelLine?, htrim, hfile, hf.shortest_message, Option.bind_eq_bind, Option.bind_some]
  rw [ofList_code?, number?_repr hn, number?_repr hm, ← hline, ← hcolumn, String.ofList_toList,
    String.ofList_toList, String.ofList_toList, ofLabel_name]
  rw [← hf.fixable]
  rfl

end Finding

namespace Findings

theorem readsLines_levelLine? : ReadsLines levelLine? where
  nil := rfl
  ending l := by rw [levelLine?, levelLine?, trimEnd_append_of_blank (blankEnd_iff.1 (by decide))]

/-- **What is written with levels is read back.** Of findings that fit on such lines the reader finds each, in order
and as it was. -/
theorem ofLevelOutput_lines {fs : List Finding} {ending : String} (hfits : ∀ f ∈ fs, f.FitsLevelLine)
    (hending : ending = "" ∨ ending = "\n") :
    ofLevelOutput ("\n".intercalate (fs.map Finding.levelText) ++ ending) = fs := by
  have hfeed : ∀ l ∈ fs.map Finding.levelText, '\n' ∉ l.toList := by
    rw [List.forall_mem_map]
    exact fun f hf => (hfits f hf).feed_not_mem
  rw [ofLevelOutput, readsLines_levelLine?.ofLines_intercalate hfeed hending, List.map_map, List.filterMap_map]
  refine (List.filterMap_congr fun f hf => ?_).trans List.filterMap_some
  exact Finding.levelLine?_levelText (hfits f hf)

/-- Findings in a file with a place in its name, whose messages hold parentheses, brackets and places. -/
def placedFindings : List Finding :=
  [{ file := "a:1:2: b.yml", message := "too long (90 > 80) (see:4:5: [error] x)", line := some 4, column := some 81,
     code := "line-length" },
   { file := "a:1:2: b.yml", message := "", line := some 0, column := some 1, code := "truthy", severity := .warning },
   { file := "c.yml", message := "no start (of text)", line := some 1, column := some 1, severity := .warning }]

theorem ofLevelOutput_lines_placed : (∀ f ∈ placedFindings, f.FitsLevelLine) ∧
    ofLevelOutput ("a:1:2: b.yml:4:81: [error] too long (90 > 80) (see:4:5: [error] x) (line-length)\n" ++
      "a:1:2: b.yml:0:1: [warning]  (truthy)\nc.yml:1:1: [warning] no start (of text)\n") = placedFindings := by
  have hline : ∀ f ∈ placedFindings, f.line = some 4 ∨ f.line = some 0 ∨ f.line = some 1 := by decide
  have hcolumn : ∀ f ∈ placedFindings, f.column = some 81 ∨ f.column = some 1 := by decide
  have hcode : ∀ f ∈ placedFindings, f.code.toList.all isRuleChar = true := by decide
  have hfits : ∀ f ∈ placedFindings, f.FitsLevelLine := by
    intro f hf
    refine ⟨?_, ?_, ?_, ?line, ?column, ?_, List.all_eq_true.1 (hcode f hf), ?_, ?_⟩
    case line => rcases hline f hf with hn | hn | hn <;> exact ⟨_, by decide, hn⟩
    case column => rcases hcolumn f hf with hn | hn <;> exact ⟨_, by decide, hn⟩
    all_goals
      revert f
      decide
  have htext : "\n".intercalate (placedFindings.map Finding.levelText) ++ "\n" =
      "a:1:2: b.yml:4:81: [error] too long (90 > 80) (see:4:5: [error] x) (line-length)\n" ++
        "a:1:2: b.yml:0:1: [warning]  (truthy)\nc.yml:1:1: [warning] no start (of text)\n" := by
    decide +kernel
  refine ⟨hfits, ?_⟩
  rw [← htext]
  exact ofLevelOutput_lines hfits (.inr rfl)

end Findings

end Multilint
