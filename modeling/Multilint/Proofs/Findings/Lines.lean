import Multilint.Findings.Lines
import Multilint.Proofs.Text.Classes
import Multilint.Proofs.Text.Scan
import Mathlib.Data.List.Induction
/-!
# Lines read one by one

A line feed divides the lines of a text wherever it stands (`lines_append`), so what follows an ended line is lines
of its own (`lines_append_of_endsLine`), and a line is what stands in front of its line feed, but for a carriage
return at its end. So a reader of lines to which that carriage return says nothing reads a text of lines line by
line (`ReadsLines.ofLines_intercalate`).
-/

namespace Multilint

namespace Text

variable {s l : List Char} {c : Char}

/-! ## Lines -/

/-- A character that is no part of an ending goes to the first line. -/
theorem lines_cons (hfeed : c ≠ '\n') (hreturn : c = '\r' → s.head? ≠ some '\n') :
    lines (c :: s) = consLine c (lines s) := by
  rw [lines]
  · rintro rfl
    exact absurd rfl hfeed
  · rintro _ rfl rfl
    exact hreturn rfl rfl

theorem consLine_append (c : Char) {ls : List (List Char)} (hls : ls ≠ []) (ms : List (List Char)) :
    consLine c (ls ++ ms) = consLine c ls ++ ms := by
  obtain ⟨l, ls, rfl⟩ := List.exists_cons_of_ne_nil hls
  rfl

theorem lines_ne_nil (hs : s ≠ []) : lines s ≠ [] := by
  fun_cases lines s with
  | case1 => exact absurd rfl hs
  | case2 s => exact List.cons_ne_nil _ _
  | case3 s => exact List.cons_ne_nil _ _
  | case4 c s _ _ => cases lines s <;> exact List.cons_ne_nil _ _

/-- **A line feed divides the lines of a text**, wherever it stands. -/
theorem lines_append (a b : List Char) : lines (a ++ '\n' :: b) = lines (a ++ ['\n']) ++ lines b := by
  fun_induction lines a with
  | case1 => rfl
  | case2 s ih => exact congrArg ([] :: ·) ih
  | case3 s ih => exact congrArg ([] :: ·) ih
  | case4 c s hfeed hreturn ih =>
    cases s with
    | nil =>
      -- a carriage return at the end of the first text is part of the ending
      by_cases hc : c = '\r'
      · rw [hc]
        rfl
      · have hline : ∀ t : List Char, lines (c :: t) = consLine c (lines t) := fun t =>
          lines_cons (fun h => hfeed h) fun h => absurd h hc
        rw [List.cons_append, List.cons_append, List.nil_append, List.nil_append, hline, hline]
        rfl
    | cons d s =>
      have hline : ∀ t : List Char, lines (c :: (d :: s ++ t)) = consLine c (lines (d :: s ++ t)) := by
        intro t
        refine lines_cons (fun h => hfeed h) fun h hd => ?_
        exact hreturn s h (congrArg (· :: s) (Option.some.inj hd))
      have hcut : ∀ t : List Char, c :: d :: s ++ t = c :: (d :: s ++ t) := fun _ => rfl
      rw [hcut, hcut, hline, hline, ih, consLine_append]
      exact lines_ne_nil (List.cons_ne_nil _ _)

/-- **A text whose last line is ended**: there is none, or a line feed ends it. -/
def EndsLine (s : List Char) : Prop :=
  s = [] ∨ s.getLast? = some '\n'

instance : DecidablePred EndsLine :=
  fun _ => inferInstanceAs (Decidable (_ ∨ _))

theorem endsLine_concat (s : List Char) : EndsLine (s ++ ['\n']) :=
  .inr List.getLast?_concat

/-- Where there is a last line, it stands in front of its line feed. -/
theorem EndsLine.exists_concat (hs : EndsLine s) (hne : s ≠ []) : ∃ front, s = front ++ ['\n'] :=
  ⟨s.dropLast, (List.dropLast_append_getLast? _ (hs.resolve_left hne)).symm⟩

/-- **The lines behind an ended line** are lines of their own. -/
theorem lines_append_of_endsLine {a : List Char} (ha : EndsLine a) (b : List Char) :
    lines (a ++ b) = lines a ++ lines b := by
  by_cases hne : a = []
  · rw [hne]
    rfl
  · obtain ⟨front, rfl⟩ := ha.exists_concat hne
    rw [List.append_assoc, List.singleton_append, lines_append]

/-- **A text is ended lines and a last one** that is not ended, or is empty. -/
theorem exists_last_line (s : List Char) :
    ∃ front last, s = front ++ last ∧ EndsLine front ∧ '\n' ∉ last := by
  induction s using List.reverseRecOn with
  | nil => exact ⟨[], [], rfl, .inl rfl, List.not_mem_nil⟩
  | append_singleton s c ih =>
    by_cases hc : c = '\n'
    · exact ⟨s ++ [c], [], (List.append_nil _).symm, hc ▸ endsLine_concat s, List.not_mem_nil⟩
    · obtain ⟨front, last, rfl, hfront, hlast⟩ := ih
      refine ⟨front, last ++ [c], List.append_assoc .., hfront, ?_⟩
      simp [hlast, Ne.symm hc]

/-- What stands in front of the one line feed at the end is a line. -/
theorem exists_lines_line (hl : '\n' ∉ l) : ∃ m, lines (l ++ ['\n']) = [m] ∧ (l = m ∨ l = m ++ ['\r']) := by
  induction l with
  | nil => exact ⟨[], rfl, .inl rfl⟩
  | cons c l ih =>
    rw [List.mem_cons, not_or] at hl
    by_cases hend : c = '\r' ∧ l = []
    · obtain ⟨rfl, rfl⟩ := hend
      exact ⟨[], rfl, .inr rfl⟩
    · obtain ⟨m, hm, hlm⟩ := ih hl.2
      have hline : lines (c :: (l ++ ['\n'])) = consLine c (lines (l ++ ['\n'])) := by
        refine lines_cons (Ne.symm hl.1) fun hc hhead => ?_
        cases l with
        | nil => exact hend ⟨hc, rfl⟩
        | cons d l => exact hl.2 (Option.some.inj hhead ▸ List.mem_cons_self)
      refine ⟨c :: m, by rw [List.cons_append, hline, hm]; rfl, ?_⟩
      exact hlm.imp (congrArg (c :: ·)) (congrArg (c :: ·))

/-- A text without line feeds is one line. -/
theorem lines_of_not_mem (hne : l ≠ []) (hl : '\n' ∉ l) : lines l = [l] := by
  induction l with
  | nil => exact absurd rfl hne
  | cons c l ih =>
    rw [List.mem_cons, not_or] at hl
    have hline : lines (c :: l) = consLine c (lines l) := by
      refine lines_cons (Ne.symm hl.1) fun _ hhead => ?_
      exact hl.2 (List.mem_of_head? hhead)
    rw [hline]
    by_cases hnil : l = []
    · rw [hnil]
      rfl
    · rw [ih hnil hl.2]
      rfl

end Text

namespace Findings

open Text

variable {line? : List Char → Option Finding} {l : List Char} {ls : List String} {ending : String}

/-! ## Readers of lines -/

/-- **A reader of lines**: it finds nothing on an empty line, and a carriage return at the end of a line says
nothing to it. -/
structure ReadsLines (line? : List Char → Option Finding) : Prop where
  /-- An empty line has no finding. -/
  nil : line? [] = none
  /-- A line is read as it is without the carriage return. -/
  ending : ∀ l, line? (l ++ ['\r']) = line? l

namespace ReadsLines

theorem filterMap_line (h : ReadsLines line?) (hl : '\n' ∉ l) :
    (lines (l ++ ['\n'])).filterMap line? = [l].filterMap line? := by
  obtain ⟨m, hm, rfl | rfl⟩ := exists_lines_line hl
  · rw [hm]
  · rw [hm, List.filterMap_cons, List.filterMap_cons, h.ending]

theorem filterMap_last (h : ReadsLines line?) (hl : '\n' ∉ l) :
    (lines l).filterMap line? = [l].filterMap line? := by
  by_cases hne : l = []
  · rw [hne, List.filterMap_cons_none h.nil]
    rfl
  · rw [lines_of_not_mem hne hl]

/-- **A text of lines is read line by line**, with a line feed behind the last of them or without. -/
theorem ofLines_intercalate (h : ReadsLines line?) (hls : ∀ l ∈ ls, '\n' ∉ l.toList)
    (hending : ending = "" ∨ ending = "\n") :
    ofLines line? ("\n".intercalate ls ++ ending) = (ls.map String.toList).filterMap line? := by
  induction ls with
  | nil =>
    rcases hending with rfl | rfl
    · rfl
    · exact (h.filterMap_line List.not_mem_nil).trans (List.filterMap_cons_none h.nil)
  | cons l ls ih =>
    rw [List.forall_mem_cons] at hls
    by_cases hrest : ls = []
    · rw [hrest, String.intercalate_singleton, ofLines, String.toList_append]
      rcases hending with rfl | rfl
      · rw [String.toList_empty, List.append_nil, h.filterMap_last hls.1]
        rfl
      · exact h.filterMap_line hls.1
    · have htext : ("\n".intercalate (l :: ls) ++ ending).toList =
          l.toList ++ '\n' :: ("\n".intercalate ls ++ ending).toList := by
        rw [String.intercalate_cons_of_ne_nil hrest]
        simp
      rw [ofLines, htext, lines_append, List.filterMap_append, h.filterMap_line hls.1, ← ofLines, ih hls.2]
      exact List.filterMap_append.symm

end ReadsLines

/-! ## Numbers on a line -/

/-- **A number** in the digits of any script. -/
def IsNumberPart (row : List Char) : Prop :=
  row ≠ [] ∧ ∀ c ∈ row, isNumeral c = true

/-- A number is read up to something else. -/
theorem IsNumberPart.spanSome? {row r : List Char} (hrow : IsNumberPart row) (hr : r.head?.any isNumeral = false) :
    Text.spanSome? isNumeral (row ++ r) = some (row, r) :=
  spanSome?_append hrow.1 hrow.2 hr

/-- What is no digit is in no number. -/
theorem IsNumberPart.not_mem {row : List Char} {c : Char} (hrow : IsNumberPart row) (hc : isNumeral c = false) :
    c ∉ row := by
  intro hmem
  rw [hrow.2 c hmem] at hc
  cases hc

theorem isNumberPart_repr (n : ℕ) : IsNumberPart n.repr.toList :=
  ⟨Numeral.toList_repr_ne_nil n, fun _ hc => Numeral.isNumeral_of_mem_repr hc⟩

/-- A number of 64 bits is read from its digits. -/
theorem number?_repr {n : ℕ} (hn : n < Numeral.bound64) : number? n.repr.toList = some n :=
  Numeral.digits64?_repr hn

end Findings

namespace Finding

variable {f : Finding} {c : Char} {opening closing : String}

/-! ## What is written on a line -/

/-- A number behind a colon, where there is one. -/
def placePart (n : Option Nat) : String :=
  match n with
  | some n => ":" ++ toString n
  | none => ""

theorem toList_placePart_some (n : ℕ) : (placePart (some n)).toList = ':' :: n.repr.toList := by
  rw [placePart, String.toList_append]
  rfl

theorem mem_placePart {n : Option ℕ} (hc : c ∈ (placePart n).toList) : c = ':' ∨ Numeral.isDigit c = true := by
  cases n with
  | none => cases hc
  | some n =>
    rw [toList_placePart_some, List.mem_cons] at hc
    exact hc.imp_right Numeral.isDigit_of_mem_repr

/-- **The code behind the message** between two texts; nothing where there is no code. -/
def endPart (f : Finding) (opening closing : String) : List Char :=
  (if f.code = "" then "" else opening ++ f.code ++ closing).toList

theorem endPart_of_none (hcode : f.code = "") : f.endPart opening closing = [] := by
  rw [endPart, if_pos hcode]
  rfl

theorem endPart_of_code (hcode : f.code ≠ "") :
    f.endPart opening closing = opening.toList ++ (f.code.toList ++ closing.toList) := by
  rw [endPart, if_neg hcode, String.toList_append, String.toList_append, List.append_assoc]

theorem not_mem_endPart (hcode : c ∉ f.code.toList) (hopening : c ∉ opening.toList) (hclosing : c ∉ closing.toList) :
    c ∉ f.endPart opening closing := by
  rw [endPart]
  split
  · exact List.not_mem_nil
  · simp [hcode, hopening, hclosing]

/-- The code that is read back. -/
def code? (f : Finding) : Option (List Char) :=
  if f.code = "" then none else some f.code.toList

theorem ofList_code? (f : Finding) : String.ofList (f.code?.getD []) = f.code := by
  rw [code?]
  split
  · rename_i hcode
    rw [hcode]
    rfl
  · exact String.ofList_toList

end Finding

end Multilint
