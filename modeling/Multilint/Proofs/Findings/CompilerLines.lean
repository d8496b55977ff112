import Multilint.Proofs.Findings.Lines
import Mathlib.Data.List.Infix
/-!
# Compiler lines read back

A compiler writes a finding as `file:line[:column]: severity: message`, with a code in brackets behind it if there
is one. The reader of such lines looks at the first colons and at the end, so a message may hold colons, brackets
and severities of its own (`compilerLine?_compilerText`): of a text that ends in a code the last brackets are the
code, and of one without a code only brackets behind a blank at the very end could be taken for one. A line that
does not start with a file and a number is passed over (`isSome_compilerLine?_iff`).
-/

namespace Multilint

open Text

namespace Findings

variable {s file row line rest body message code : List Char}

/-! ## Codes in brackets -/

/-- **A code in brackets** behind blanks, and nothing but blanks behind it. -/
def Bracketed (code s : List Char) : Prop :=
  ∃ before after, (before ≠ [] ∧ ∀ c ∈ before, isBlank c = true) ∧ (∀ c ∈ after, isBlank c = true) ∧
    (code ≠ [] ∧ ∀ c ∈ code, isCodeChar c = true) ∧ s = before ++ '[' :: (code ++ ']' :: after)

/-- **A text that ends as if with a code**: in brackets behind a blank, with one or more characters of codes
between them. -/
def EndsInBrackets (s : List Char) : Prop :=
  ∃ front b code, isBlank b = true ∧ (code ≠ [] ∧ ∀ c ∈ code, isCodeChar c = true) ∧
    s = front ++ b :: '[' :: (code ++ [']'])

theorem isBlank_bracket : isBlank '[' = false ∧ isBlank ']' = false := by
  decide

theorem isCodeChar_bracket : isCodeChar '[' = false ∧ isCodeChar ']' = false := by
  decide

/-- A code in brackets is read as the code. -/
theorem codeAtEnd?_of_bracketed (h : Bracketed code s) : codeAtEnd? s = some (some code) := by
  obtain ⟨before, after, ⟨hbefore, hblanks⟩, hafter, ⟨hcode, hchars⟩, rfl⟩ := h
  have hspan : spanSome? isBlank (before ++ '[' :: (code ++ ']' :: after)) =
      some (before, '[' :: (code ++ ']' :: after)) :=
    spanSome?_append hbefore hblanks isBlank_bracket.1
  have hopen : word? "[" ('[' :: (code ++ ']' :: after)) = some (code ++ ']' :: after) :=
    word?_eq_some_iff.2 rfl
  have hread : spanSome? isCodeChar (code ++ ']' :: after) = some (code, ']' :: after) :=
    spanSome?_append hcode hchars isCodeChar_bracket.2
  have hclose : word? "]" (']' :: after) = some after := word?_eq_some_iff.2 rfl
  simp [codeAtEnd?, hspan, hopen, hread, hclose, blankEnd_iff.2 hafter]

/-- **Nothing but a code in brackets and blanks is read** at the end. -/
theorem bracketed_or_blank (h : codeAtEnd? s ≠ none) :
    (∃ code, Bracketed code s) ∨ ∀ c ∈ s, isBlank c = true := by
  rw [codeAtEnd?] at h
  dsimp only at h
  split at h
  · rename_i code hcode
    simp only [Option.bind_eq_bind, Option.bind_eq_some_iff, Prod.exists] at hcode
    obtain ⟨before, r, hspan, r', hopen, code', r'', hread, after, hclose, hend⟩ := hcode
    obtain ⟨rfl, hbefore, hblanks, -⟩ := spanSome?_eq_some_iff.1 hspan
    obtain rfl := word?_eq_some_iff.1 hopen
    obtain ⟨rfl, hne, hchars, -⟩ := spanSome?_eq_some_iff.1 hread
    obtain rfl := word?_eq_some_iff.1 hclose
    split at hend
    · rename_i hafter
      exact .inl ⟨code', before, after, ⟨hbefore, hblanks⟩, blankEnd_iff.1 hafter, ⟨hne, hchars⟩, rfl⟩
    · cases hend
  · split at h
    · rename_i hblank
      exact .inr (blankEnd_iff.1 hblank)
    · exact absurd rfl h

/-- A text that ends with no blank does not go on with blanks. -/
theorem eq_nil_of_blanks {after : List Char} (h : (s ++ after).getLast?.any isBlank = false)
    (hafter : ∀ c ∈ after, isBlank c = true) : after = [] := by
  rcases List.eq_nil_or_concat' after with rfl | ⟨bs, b, rfl⟩
  · rfl
  · have hb : isBlank b = true := hafter b (by simp)
    rw [← List.append_assoc, List.getLast?_concat, Option.any_some, hb] at h
    cases h

/-- It is no text of blanks. -/
theorem not_blank_of_last (hne : s ≠ []) (hlast : s.getLast?.any isBlank = false) :
    ¬ ∀ c ∈ s, isBlank c = true :=
  fun hblank => hne (eq_nil_of_blanks (s := []) hlast hblank)

/-- So a code in brackets at its end is followed by nothing. -/
theorem Bracketed.exists_before (h : Bracketed code s) (hlast : s.getLast?.any isBlank = false) :
    ∃ before, (before ≠ [] ∧ ∀ c ∈ before, isBlank c = true) ∧ (code ≠ [] ∧ ∀ c ∈ code, isCodeChar c = true) ∧
      s = before ++ '[' :: (code ++ [']']) := by
  obtain ⟨before, after, hbefore, hafter, hcode, rfl⟩ := h
  have hend : (before ++ '[' :: (code ++ [']']) ++ after).getLast?.any isBlank = false := by
    simpa using hlast
  rw [eq_nil_of_blanks hend hafter]
  exact ⟨before, hbefore, hcode, rfl⟩

/-- **Where a text does not end as if with a code, none is read** at its end. -/
theorem codeAtEnd?_of_not_endsInBrackets (hne : s ≠ []) (hlast : s.getLast?.any isBlank = false)
    (hends : ¬ EndsInBrackets s) : codeAtEnd? s = none := by
  by_contra hread
  obtain ⟨code, hbracketed⟩ := (bracketed_or_blank hread).resolve_right (not_blank_of_last hne hlast)
  obtain ⟨before, ⟨hbefore, hblanks⟩, hcode, rfl⟩ := hbracketed.exists_before hlast
  obtain ⟨front, b, rfl⟩ := (List.eq_nil_or_concat' before).resolve_left hbefore
  exact hends ⟨front, b, code, hblanks b (by simp), hcode, by simp⟩

/-- Brackets at the end are read as a code by the reader of the end. -/
theorem endsInBrackets_iff : EndsInBrackets s ↔
    s.getLast? = some ']' ∧ ∃ t ∈ s.tails, ((codeAtEnd? t).bind id).isSome = true := by
  constructor
  · rintro ⟨front, b, code, hb, hcode, rfl⟩
    refine ⟨by rw [← List.cons_append, ← List.cons_append, ← List.append_assoc, List.getLast?_concat], ?_⟩
    refine ⟨b :: '[' :: (code ++ [']']), (List.mem_tails _ _).2 (List.suffix_append _ _), ?_⟩
    have hcoded : Bracketed code (b :: '[' :: (code ++ [']'])) :=
      ⟨[b], [], ⟨List.cons_ne_nil _ _, by simpa using hb⟩, List.forall_mem_nil _, hcode, rfl⟩
    rw [codeAtEnd?_of_bracketed hcoded]
    rfl
  · rintro ⟨hlast, t, ht, hread⟩
    obtain ⟨front, rfl⟩ := (List.mem_tails _ _).1 ht
    have hne : t ≠ [] := by
      rintro rfl
      cases hread
    rw [List.getLast?_append_of_ne_nil front hne] at hlast
    have hends : EndsInBrackets t := by
      by_contra hends
      rw [codeAtEnd?_of_not_endsInBrackets hne (by rw [hlast]; exact isBlank_bracket.2) hends] at hread
      cases hread
    obtain ⟨front', b, code, hb, hcode, rfl⟩ := hends
    exact ⟨front ++ front', b, code, hb, hcode, (List.append_assoc ..).symm⟩

instance : DecidablePred EndsInBrackets :=
  fun _ => decidable_of_iff _ endsInBrackets_iff.symm

/-- **In front of the last code no other one is read.** -/
theorem codeAtEnd?_append_code (hne : s ≠ []) (hlast : s.getLast?.any isBlank = false)
    (hcode : ∀ c ∈ code, isCodeChar c = true) : codeAtEnd? (s ++ ' ' :: ' ' :: '[' :: (code ++ [']'])) = none := by
  have hbracket : ∀ {code : List Char}, (∀ c ∈ code, isCodeChar c = true) → '[' ∉ code ++ [']'] := by
    intro code hcode hmem
    rcases List.mem_append.1 hmem with hmem | hmem
    · exact absurd (hcode '[' hmem) (by simp [isCodeChar_bracket.1])
    · cases List.mem_singleton.1 hmem
  have hend : (s ++ ' ' :: ' ' :: '[' :: (code ++ [']'])).getLast?.any isBlank = false := by
    rw [← List.cons_append, ← List.cons_append, ← List.cons_append, ← List.append_assoc, List.getLast?_concat,
      Option.any_some, isBlank_bracket.2]
  by_contra hread
  obtain ⟨code', hcode'⟩ := (bracketed_or_blank hread).resolve_right
    (not_blank_of_last (List.append_ne_nil_of_left_ne_nil hne _) hend)
  obtain ⟨before, ⟨-, hblanks⟩, ⟨-, hchars⟩, heq⟩ := hcode'.exists_before hend
  -- both codes stand behind the last bracket, so there are only blanks in front of it
  have hsplit : (s ++ [' ', ' ']) ++ '[' :: (code ++ [']']) = before ++ '[' :: (code' ++ [']']) := by
    simpa using heq
  obtain ⟨rfl, -⟩ := eq_of_last hsplit (hbracket hcode) (hbracket hchars)
  exact not_blank_of_last hne hlast fun c hc => hblanks c (List.mem_append_left _ hc)

/-! ## Parts of a line -/

/-- **A file** as a compiler writes it: without colons, and with no blank at its start. -/
def IsFilePart (file : List Char) : Prop :=
  file ≠ [] ∧ ':' ∉ file ∧ file.head?.any isBlank = false

/-- **A line that looks like a finding**: a file and a number, each with a colon behind it. -/
def LooksCompiled (line : List Char) : Prop :=
  ∃ file row rest, IsFilePart file ∧ IsNumberPart row ∧ trimEnd line = file ++ ':' :: (row ++ ':' :: rest)

/-- Up to a colon a file is read. -/
theorem spanSome?_file (hfile : IsFilePart file) (r : List Char) :
    spanSome? (· ≠ ':') (file ++ ':' :: r) = some (file, ':' :: r) := by
  refine spanSome?_append hfile.1 (fun c hc => ?_) rfl
  simpa using fun h : c = ':' => hfile.2.1 (h ▸ hc)

/-- **Only behind a colon there is a column, or none.** -/
theorem exists_columnAndBody?_iff :
    (∃ column body, columnAndBody? s = some (column, body)) ↔ ∃ rest, s = ':' :: rest := by
  constructor
  · rintro ⟨column, body, h⟩
    rw [columnAndBody?, Option.bind_eq_bind, Option.bind_eq_some_iff] at h
    obtain ⟨rest, hcolon, -⟩ := h
    exact ⟨rest, word?_eq_some_iff.1 hcolon⟩
  · rintro ⟨rest, rfl⟩
    have hcolon : word? ":" (':' :: rest) = some rest := word?_eq_some_iff.2 rfl
    rw [columnAndBody?, hcolon, Option.bind_eq_bind, Option.bind_some]
    dsimp only
    split
    · exact ⟨_, _, rfl⟩
    · exact ⟨_, _, rfl⟩

/-- A message ends somewhere. -/
theorem exists_shortest_codeAtEnd? (s : List Char) : ∃ message code, shortest codeAtEnd? s = some (message, code) := by
  induction s with
  | nil => exact ⟨[], none, rfl⟩
  | cons c s ih =>
    obtain ⟨message, code, h⟩ := ih
    rw [shortest]
    split
    · exact ⟨_, _, rfl⟩
    · exact ⟨c :: message, code, by rw [h]; rfl⟩

/-- **What is read of a line**, part by part. -/
theorem compilerLine?_eq {column code : Option (List Char)} {label : Option String} {said : List Char}
    (hfile : IsFilePart file) (hrow : IsNumberPart row) (hline : trimEnd line = file ++ ':' :: (row ++ rest))
    (hcolumn : columnAndBody? rest = some (column, body)) (hlabel : severityAndMessage body = (label, said))
    (hmessage : shortest codeAtEnd? said = some (message, code)) :
    compilerLine? line = some {
      file := String.ofList (trim file)
      message := String.ofList (trim message)
      line := number? row
      column := column.bind number?
      code := String.ofList (code.getD [])
      severity := (label.map Severity.ofLabel).getD .error } := by
  have hspan := spanSome?_file hfile (row ++ rest)
  have hcolon : word? ":" (':' :: (row ++ rest)) = some (row ++ rest) := word?_eq_some_iff.2 rfl
  have hread : spanSome? isNumeral (row ++ rest) = some (row, rest) := by
    obtain ⟨r, rfl⟩ := exists_columnAndBody?_iff.1 ⟨column, body, hcolumn⟩
    exact hrow.spanSome? rfl
  simp only [compilerLine?, hline, hspan, hfile.2.2, hcolon, hread, hcolumn, hlabel, hmessage,
    Option.bind_eq_bind, Option.bind_some, Bool.false_eq_true, if_false]
  rfl

/-- **A line is a finding exactly if it looks like one.** -/
theorem isSome_compilerLine?_iff : (compilerLine? line).isSome = true ↔ LooksCompiled line := by
  constructor
  · intro h
    obtain ⟨f, hf⟩ := Option.isSome_iff_exists.1 h
    simp only [compilerLine?, Option.bind_eq_bind, Option.bind_eq_some_iff, Prod.exists] at hf
    obtain ⟨file, r, hspan, hf⟩ := hf
    split at hf
    · cases hf
    · rename_i hhead
      simp only [Option.bind_eq_some_iff, Prod.exists] at hf
      obtain ⟨r₁, hcolon, row, r₂, hread, column, body, hcolumn, -⟩ := hf
      obtain ⟨hline, hfile, hcolons, -⟩ := spanSome?_eq_some_iff.1 hspan
      obtain rfl := word?_eq_some_iff.1 hcolon
      obtain ⟨rfl, hrow⟩ := spanSome?_eq_some_iff.1 hread
      obtain ⟨rest, rfl⟩ := exists_columnAndBody?_iff.1 ⟨column, body, hcolumn⟩
      refine ⟨file, row, rest, ⟨hfile, fun hmem => ?_, Bool.eq_false_iff.2 hhead⟩, ⟨hrow.1, hrow.2.1⟩, hline⟩
      simpa using hcolons ':' hmem
  · rintro ⟨file, row, rest, hfile, hrow, hline⟩
    obtain ⟨column, body, hcolumn⟩ := exists_columnAndBody?_iff.2 ⟨rest, rfl⟩
    obtain ⟨message, code, hmessage⟩ := exists_shortest_codeAtEnd? (severityAndMessage body).2
    rw [compilerLine?_eq hfile hrow hline hcolumn rfl hmessage]
    rfl

instance : DecidablePred LooksCompiled :=
  fun _ => decidable_of_iff _ isSome_compilerLine?_iff

/-! ## Parts that are written -/

/-- The column is read as it is written, and so is that there is none. -/
theorem columnAndBody?_placePart (column : Option ℕ) (r : List Char) :
    columnAndBody? ((Finding.placePart column).toList ++ ':' :: ' ' :: r) =
      some (column.map fun n => n.repr.toList, ' ' :: r) := by
  cases column with
  | none =>
    have hcolon : word? ":" (':' :: ' ' :: r) = some (' ' :: r) := word?_eq_some_iff.2 rfl
    have hblank : isNumeral ' ' = false := by decide
    have hnone : spanSome? isNumeral (' ' :: r) = none := spanSome?_of_head hblank
    change columnAndBody? (':' :: ' ' :: r) = _
    simp only [columnAndBody?, hcolon, hnone, Option.bind_eq_bind, Option.bind_some, Option.bind_none, Option.map_none]
  | some n =>
    have hcolon : word? ":" (':' :: (n.repr.toList ++ ':' :: ' ' :: r)) = some (n.repr.toList ++ ':' :: ' ' :: r) :=
      word?_eq_some_iff.2 rfl
    have hread : spanSome? isNumeral (n.repr.toList ++ ':' :: ' ' :: r) = some (n.repr.toList, ':' :: ' ' :: r) :=
      (isNumberPart_repr n).spanSome? rfl
    have hend : word? ":" (':' :: ' ' :: r) = some (' ' :: r) := word?_eq_some_iff.2 rfl
    rw [Finding.toList_placePart_some, List.cons_append]
    simp only [columnAndBody?, hcolon, hread, hend, Option.bind_eq_bind, Option.bind_some, Option.map_some]

end Findings

namespace Finding

open Findings

variable {f : Finding}

/-! ## Lines of a compiler -/

/-- The word that a compiler writes for a severity. -/
def compilerWord : Severity → String
  | .error => "error"
  | .warning => "warning"
  | .info => "note"

/-- The line `file:line[:column]: severity: message  [code]`; there are no brackets without a code. -/
def compilerText (f : Finding) : String :=
  f.file ++ placePart f.line ++ placePart f.column ++ ": " ++ compilerWord f.severity ++ ": " ++
    f.message ++ (if f.code = "" then "" else "  [" ++ f.code ++ "]")

/-- **A finding that fits on a line of a compiler**: the line shows all there is of it. -/
structure FitsCompilerLine (f : Finding) : Prop where
  /-- There is a file. -/
  file_ne : f.file ≠ ""
  /-- It has no colons. -/
  file_colon : ':' ∉ f.file.toList
  /-- It is on one line. -/
  file_feed : '\n' ∉ f.file.toList
  /-- It neither starts nor ends with a blank. -/
  file_trimmed : trimmed f.file = f.file
  /-- There is a line number of 64 bits. -/
  line : ∃ n < Numeral.bound64, f.line = some n
  /-- A column has 64 bits. -/
  column : ∀ n ∈ f.column, n < Numeral.bound64
  /-- There is a message. -/
  message_ne : f.message ≠ ""
  /-- It is on one line. -/
  message_feed : '\n' ∉ f.message.toList
  /-- It neither starts nor ends with a blank. -/
  message_trimmed : trimmed f.message = f.message
  /-- A code has letters, digits, and some signs. -/
  code : ∀ c ∈ f.code.toList, isCodeChar c = true
  /-- Without a code the message does not end as if with one. -/
  code_only : f.code = "" → ¬ EndsInBrackets f.message.toList
  /-- The line does not say that the tool can mend it. -/
  fixable : f.fixable = false

/-- A severity is read from its word, and the message behind it is left. -/
theorem severityAndMessage_compilerWord (v : Severity) {r : List Char} (hr : r.head?.any isBlank = false) :
    severityAndMessage (' ' :: ((compilerWord v).toList ++ ':' :: ' ' :: r)) = (some (compilerWord v), r) := by
  have hword : severityAndMessage (' ' :: ((compilerWord v).toList ++ ':' :: ' ' :: r)) =
      (some (compilerWord v), trimStart r) := by
    cases v <;> rfl
  rw [hword, trimStart_eq_self_iff.2 hr]

theorem ofLabel_compilerWord (v : Severity) : Severity.ofLabel (compilerWord v) = v := by
  cases v <;> decide

namespace FitsCompilerLine

theorem message_head (hf : f.FitsCompilerLine) : f.message.toList.head?.any isBlank = false := by
  have htrim : trim f.message.toList = f.message.toList := by
    simpa [trimmed] using congrArg String.toList hf.message_trimmed
  exact (trim_eq_self_iff.1 htrim).1

theorem message_last (hf : f.FitsCompilerLine) : f.message.toList.getLast?.any isBlank = false := by
  have htrim : trim f.message.toList = f.message.toList := by
    simpa [trimmed] using congrArg String.toList hf.message_trimmed
  exact (trim_eq_self_iff.1 htrim).2

theorem message_toList_ne (hf : f.FitsCompilerLine) : f.message.toList ≠ [] :=
  fun h => hf.message_ne (String.toList_inj.1 h)

/-- **The message ends where it was written to end**, whatever it says. -/
theorem shortest_message (hf : f.FitsCompilerLine) :
    shortest codeAtEnd? (f.message.toList ++ f.endPart "  [" "]") = some (f.message.toList, f.code?) := by
  refine shortest_eq_some_iff.2 ⟨_, rfl, ?_, fun v hv hne => ?_⟩
  · by_cases hcode : f.code = ""
    · rw [endPart_of_none hcode, code?, if_pos hcode]
      rfl
    · rw [endPart_of_code hcode, code?, if_neg hcode]
      refine codeAtEnd?_of_bracketed ⟨[' ', ' '], [], ⟨List.cons_ne_nil _ _, ?_⟩, List.forall_mem_nil _, ?_, rfl⟩
      · exact blankEnd_iff.1 (by decide)
      · exact ⟨fun h => hcode (String.toList_inj.1 h), hf.code⟩
  · -- a rest that starts earlier starts with an end of the message
    obtain ⟨u, hu⟩ := hv
    have hlast : v.getLast?.any isBlank = false := by
      rw [← List.getLast?_append_of_ne_nil u hne, hu]
      exact hf.message_last
    by_cases hcode : f.code = ""
    · rw [endPart_of_none hcode, List.append_nil]
      refine codeAtEnd?_of_not_endsInBrackets hne hlast ?_
      rintro ⟨front, b, code, hb, hcode', rfl⟩
      exact hf.code_only hcode ⟨u ++ front, b, code, hb, hcode', by rw [← hu, List.append_assoc]⟩
    · rw [endPart_of_code hcode]
      exact codeAtEnd?_append_code hne hlast hf.code

/-- The line of a finding, part by part. -/
theorem toList_compilerText {n : ℕ} (hn : f.line = some n) : f.compilerText.toList =
    f.file.toList ++ ':' :: (n.repr.toList ++ ((placePart f.column).toList ++ ':' :: ' ' ::
      ((compilerWord f.severity).toList ++ ':' :: ' ' :: (f.message.toList ++ f.endPart "  [" "]")))) := by
  simp only [compilerText, endPart, hn, String.toList_append, toList_placePart_some, List.append_assoc,
    List.cons_append]
  rfl

theorem said_head (hf : f.FitsCompilerLine) :
    (f.message.toList ++ f.endPart "  [" "]").head?.any isBlank = false := by
  rw [List.head?_append_of_ne_nil _ hf.message_toList_ne]
  exact hf.message_head

theorem said_last (hf : f.FitsCompilerLine) :
    (f.message.toList ++ f.endPart "  [" "]").getLast?.any isBlank = false := by
  by_cases hcode : f.code = ""
  · rw [endPart_of_none hcode, List.append_nil]
    exact hf.message_last
  · rw [endPart_of_code hcode, ← List.append_assoc, ← List.append_assoc]
    exact (congrArg (Option.any isBlank) (List.getLast?_concat ..)).trans isBlank_bracket.2

/-- Nothing is trimmed off the line. -/
theorem trimEnd_compilerText (hf : f.FitsCompilerLine) : trimEnd f.compilerText.toList = f.compilerText.toList := by
  obtain ⟨front, hfront⟩ : ∃ front, f.compilerText.toList = front ++ (f.message.toList ++ f.endPart "  [" "]") :=
    ⟨_, by rw [compilerText, String.toList_append, String.toList_append, List.append_assoc]; rfl⟩
  rw [trimEnd_eq_self_iff, hfront,
    List.getLast?_append_of_ne_nil front (List.append_ne_nil_of_left_ne_nil hf.message_toList_ne _)]
  exact hf.said_last

end FitsCompilerLine

/-- A column is read from its digits. -/
theorem bind_number?_column {column : Option ℕ} (hcolumn : ∀ n ∈ column, n < Numeral.bound64) :
    (column.map fun n => n.repr.toList).bind number? = column := by
  cases column with
  | none => rfl
  | some n => exact number?_repr (hcolumn n rfl)

/-- **A finding is read back from the line it is written on**, whatever its message says. -/
theorem compilerLine?_compilerText (hf : f.FitsCompilerLine) : compilerLine? f.compilerText.toList = some f := by
  obtain ⟨n, hbound, hn⟩ := hf.line
  have hfile : trim f.file.toList = f.file.toList := by
    simpa [trimmed] using congrArg String.toList hf.file_trimmed
  have hmessage : trim f.message.toList = f.message.toList :=
    trim_eq_self_iff.2 ⟨hf.message_head, hf.message_last⟩
  have hfilepart : IsFilePart f.file.toList :=
    ⟨fun h => hf.file_ne (String.toList_inj.1 h), hf.file_colon, (trim_eq_self_iff.1 hfile).1⟩
  have hline := hf.trimEnd_compilerText.trans (FitsCompilerLine.toList_compilerText hn)
  rw [compilerLine?_eq hfilepart (isNumberPart_repr n) hline (columnAndBody?_placePart f.column _)
    (severityAndMessage_compilerWord f.severity hf.said_head) hf.shortest_message]
  rw [hfile, hmessage, ofList_code?, number?_repr hbound, ← hn, bind_number?_column hf.column, Option.map_some,
    Option.getD_some, ofLabel_compilerWord, String.ofList_toList, String.ofList_toList]
  rw [← hf.fixable]

/-- The line is one line. -/
theorem FitsCompilerLine.feed_not_mem (hf : f.FitsCompilerLine) : '\n' ∉ f.compilerText.toList := by
  obtain ⟨n, -, hn⟩ := hf.line
  have hdigits : '\n' ∉ n.repr.toList := fun h => absurd (Numeral.isDigit_of_mem_repr h) (by decide)
  have hcolumn : '\n' ∉ (placePart f.column).toList := fun h => absurd (mem_placePart h) (by decide)
  have hword : '\n' ∉ (compilerWord f.severity).toList := by
    cases f.severity <;> decide
  have hcode : '\n' ∉ f.endPart "  [" "]" :=
    not_mem_endPart (fun h => absurd (hf.code _ h) (by decide)) (by decide) (by decide)
  rw [FitsCompilerLine.toList_compilerText hn]
  simp only [List.mem_append, List.mem_cons, hf.file_feed, hdigits, hcolumn, hword, hf.message_feed, hcode]
  decide

end Finding

namespace Findings

theorem readsLines_compilerLine? : ReadsLines compilerLine? where
  nil := rfl
  ending l := by rw [compilerLine?, compilerLine?, trimEnd_append_of_blank (blankEnd_iff.1 (by decide))]

/-- **What a compiler writes is read back.** Of findings that fit on lines and of other lines between them, which
do not look like findings, the reader finds the findings, in order and as they were. -/
theorem ofCompilerOutput_lines {es : List (Finding ⊕ String)} {ending : String}
    (hfound : ∀ f, .inl f ∈ es → f.FitsCompilerLine)
    (hother : ∀ l, .inr l ∈ es → '\n' ∉ l.toList ∧ ¬ LooksCompiled l.toList)
    (hending : ending = "" ∨ ending = "\n") :
    ofCompilerOutput ("\n".intercalate (es.map (Sum.elim Finding.compilerText id)) ++ ending) =
      es.filterMap Sum.getLeft? := by
  have hline : ∀ e ∈ es, compilerLine? (Sum.elim Finding.compilerText id e).toList = e.getLeft? := by
    rintro (f | l) he
    · exact Finding.compilerLine?_compilerText (hfound f he)
    · exact Option.not_isSome_iff_eq_none.1 (mt isSome_compilerLine?_iff.1 (hother l he).2)
  have hfeed : ∀ l ∈ es.map (Sum.elim Finding.compilerText id), '\n' ∉ l.toList := by
    rw [List.forall_mem_map]
    rintro (f | l) he
    · exact (hfound f he).feed_not_mem
    · exact (hother l he).1
  rw [ofCompilerOutput, readsLines_compilerLine?.ofLines_intercalate hfeed hending, List.map_map, List.filterMap_map]
  exact List.filterMap_congr hline

/-- Findings whose messages hold colons, brackets and severities, one with a column and a code and one without. -/
def bracketedFindings : List Finding :=
  [{ file := "a b.py", message := "error: [x] is no y [int]", line := some 3, column := some 17,
     code := "arg-type", severity := .warning },
   { file := "c.py", message := "warning: 7: see d[0]", line := some 0, severity := .info }]

theorem fits_bracketedFindings : ∀ f ∈ bracketedFindings, f.FitsCompilerLine := by
  have hline : ∀ f ∈ bracketedFindings, f.line = some 3 ∨ f.line = some 0 := by decide
  have hcode : ∀ f ∈ bracketedFindings, f.code.toList.all isCodeChar = true := by decide
  intro f hf
  refine ⟨?_, ?_, ?_, ?_, ?line, ?_, ?_, ?_, ?_, List.all_eq_true.1 (hcode f hf), ?_, ?_⟩
  case line => rcases hline f hf with hn | hn <;> exact ⟨_, by decide, hn⟩
  all_goals
    revert f
    decide

/-- The findings with a summary between them. -/
def bracketedEntries : List (Finding ⊕ String) :=
  (bracketedFindings.map .inl).insertIdx 1 (.inr "Found 2 errors: see [docs]")

theorem ofCompilerOutput_lines_bracketed :
    (∀ f, .inl f ∈ bracketedEntries → f.FitsCompilerLine) ∧
    (∀ l, .inr l ∈ bracketedEntries → '\n' ∉ l.toList ∧ ¬ LooksCompiled l.toList) ∧
    ofCompilerOutput ("a b.py:3:17: warning: error: [x] is no y [int]  [arg-type]\n" ++
      "Found 2 errors: see [docs]\nc.py:0: note: warning: 7: see d[0]\n") = bracketedFindings := by
  have hfound : ∀ f, .inl f ∈ bracketedEntries → f.FitsCompilerLine := by
    intro f hf
    refine fits_bracketedFindings f ?_
    simpa [bracketedEntries, bracketedFindings] using hf
  have hother : ∀ l, .inr l ∈ bracketedEntries → '\n' ∉ l.toList ∧ ¬ LooksCompiled l.toList := by
    intro l hl
    obtain rfl : l = "Found 2 errors: see [docs]" := by
      simpa [bracketedEntries, bracketedFindings] using hl
    decide
  have htext : "\n".intercalate (bracketedEntries.map (Sum.elim Finding.compilerText id)) ++ "\n" =
      "a b.py:3:17: warning: error: [x] is no y [int]  [arg-type]\n" ++
        "Found 2 errors: see [docs]\nc.py:0: note: warning: 7: see d[0]\n" := by
    decide +kernel
  refine ⟨hfound, hother, ?_⟩
  rw [← htext]
  exact ofCompilerOutput_lines hfound hother (.inr rfl)

end Findings

end Multilint
