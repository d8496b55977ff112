import Multilint.Findings.Blocks
import Multilint.Proofs.Findings.Lines
import Mathlib.Data.List.Infix
/-!
# Blocks of lines without influence on each other

A header opens a block, and what follows it belongs to the block up to a line that cannot: `Blocks` is the division
of lines into such blocks, and the reader of messages of several lines follows it (`blocks_iff`), each block being
taken whole before the next line is looked at. Below the name of a file a finding belongs to the last name above it
(`findingsBelow_eq`). So what stands in front of a line that opens something says nothing about the lines behind
it (`blocks_read_apart`).
-/

namespace Multilint

open Text

namespace Findings

variable {l file : List Char} {ls ms more : List (List Char)} {f : Finding} {fs gs : List Finding}

/-! ## Messages of several lines -/

/-- **The findings of lines, block by block.** A line that is no header is passed over; a header takes with it all
the lines that go on with its message, and is one finding. -/
inductive Blocks : List (List Char) → List Finding → Prop
  /-- No lines, no findings. -/
  | nil : Blocks [] []
  /-- A line that belongs to no block. -/
  | other {l : List Char} {ls : List (List Char)} {fs : List Finding} :
      header? l = none → Blocks ls fs → Blocks (l :: ls) fs
  /-- A header, the lines that go on with its message, and no line that does. -/
  | block {l : List Char} {more ls : List (List Char)} {f : Finding} {fs : List Finding} :
      header? l = some f → (∀ m ∈ more, isContinuation m = true) → ls.head?.any isContinuation = false →
      Blocks ls fs → Blocks (l :: (more ++ ls)) (more.foldl continued f :: fs)

/-- **An open block** takes the lines that go on with its message, and the rest is read without it. -/
theorem messagesBelow_open (hmore : ∀ m ∈ more, isContinuation m = true)
    (hls : ls.head?.any isContinuation = false) :
    messagesBelow (some f) (more ++ ls) = more.foldl continued f :: messagesBelow none ls := by
  induction more generalizing f with
  | nil =>
    cases ls with
    | nil => rfl
    | cons l ls =>
      have hend : ¬ isContinuation l = true := Bool.eq_false_iff.1 hls
      rw [List.nil_append, messagesBelow, if_neg hend]
      rfl
  | cons m more ih =>
    rw [List.forall_mem_cons] at hmore
    rw [List.cons_append, messagesBelow, if_pos hmore.1]
    exact ih hmore.2

namespace Blocks

/-- The reader finds what stands in the blocks. -/
theorem eq (h : Blocks ls fs) : messagesBelow none ls = fs := by
  induction h with
  | nil => rfl
  | other hl _ ih => rw [messagesBelow, hl, ih]
  | block hl hmore hls _ ih => rw [messagesBelow, hl, messagesBelow_open hmore hls, ih]

/-- **Blocks behind blocks**: the first line behind does not go on with the last block. -/
theorem append (h : Blocks ls fs) (h' : Blocks ms gs) (hms : ms.head?.any isContinuation = false) :
    Blocks (ls ++ ms) (fs ++ gs) := by
  induction h with
  | nil => exact h'
  | other hl _ ih => exact .other hl ih
  | @block l more ls f fs hl hmore hls _ ih =>
    have hhead : (ls ++ ms).head?.any isContinuation = false := by
      cases ls with
      | nil => exact hms
      | cons l ls => exact hls
    rw [List.cons_append, List.append_assoc, List.cons_append]
    exact .block hl hmore hhead ih

end Blocks

/-- **Lines are divided into blocks.** The induction is on their number: a header and the lines that go on with its
message are taken off together, so that fewer are left and none of them is looked at again. -/
theorem blocks_messagesBelow (ls : List (List Char)) : Blocks ls (messagesBelow none ls) := by
  induction hn : ls.length using Nat.strong_induction_on generalizing ls with
  | _ n ih =>
    cases ls with
    | nil => exact .nil
    | cons l ls =>
      rw [List.length_cons] at hn
      cases hl : header? l with
      | none =>
        rw [messagesBelow, hl]
        exact .other hl (ih ls.length (by omega) ls rfl)
      | some f =>
        have hmore : ∀ m ∈ ls.takeWhile isContinuation, isContinuation m = true := fun m hm =>
          List.mem_takeWhile_imp hm
        have hrest : (ls.dropWhile isContinuation).head?.any isContinuation = false := head?_dropWhile ls
        have hfewer : (ls.dropWhile isContinuation).length ≤ ls.length := (List.dropWhile_suffix _).length_le
        have hblock := Blocks.block hl hmore hrest
          (ih (ls.dropWhile isContinuation).length (by omega) (ls.dropWhile isContinuation) rfl)
        rw [← messagesBelow_open hmore hrest, List.takeWhile_append_dropWhile] at hblock
        rw [messagesBelow, hl]
        exact hblock

/-- **There is one division into blocks**, and the reader follows it. -/
theorem blocks_iff : Blocks ls fs ↔ messagesBelow none ls = fs :=
  ⟨Blocks.eq, fun h => h ▸ blocks_messagesBelow ls⟩

/-- **A text whose first line opens a block or none**: it does not go on with the message above it. -/
def OpensBlock (s : String) : Prop :=
  (lines s.toList).head?.any isContinuation = false

instance : DecidablePred OpensBlock :=
  fun _ => inferInstanceAs (Decidable (_ = _))

/-! ## Findings below their file -/

/-- A line that names a file: it starts with no blank. -/
def namesFile (l : List Char) : Bool :=
  l.head?.any fun c => !isBlank c

/-- **The file that lines below others are about**: the last of them that names one says which, and a given one is it
where none does. -/
def fileBelow (file : List Char) (above : List (List Char)) : List Char :=
  ((above.filter namesFile).getLast?.map trim).getD file

/-- The finding of an indented line, in a file. -/
def indentedFinding? (file line : List Char) : Option Finding :=
  (indentedLine? line).map fun (row, code, message) =>
    { file := String.ofList file
      message := String.ofList (trim message)
      line := number? row
      code := String.ofList code
      severity := .warning }

theorem fileBelow_append (file : List Char) (ls ms : List (List Char)) :
    fileBelow file (ls ++ ms) = fileBelow (fileBelow file ls) ms := by
  rw [fileBelow, fileBelow, List.filter_append, List.getLast?_append]
  cases (ms.filter namesFile).getLast? with
  | none => rfl
  | some l => rfl

/-- Below a line that names a file the lines are in this one, whatever was given. -/
theorem fileBelow_of_namesFile (hl : namesFile l = true) : fileBelow file [l] = trim l := by
  rw [fileBelow, List.filter_cons_of_pos hl]
  rfl

theorem fileBelow_of_not_namesFile (hl : namesFile l = false) : fileBelow file [l] = file := by
  rw [fileBelow, List.filter_cons_of_neg (Bool.eq_false_iff.1 hl)]
  rfl

/-- A line that names a file is no finding. -/
theorem indentedLine?_of_namesFile (hl : namesFile l = true) : indentedLine? l = none := by
  have hhead : l.head?.any isBlank = false := by
    cases l with
    | nil => rfl
    | cons c cs => simpa [namesFile] using hl
  rw [indentedLine?, spanSome?_of_head hhead]
  rfl

/-- Nor is a line of blanks. -/
theorem indentedLine?_of_blank (hl : ∀ c ∈ l, isBlank c = true) : indentedLine? l = none := by
  cases l with
  | nil => rfl
  | cons c cs =>
    have hspan : spanSome? isBlank (c :: cs) = some (c :: cs, []) := by
      simpa using spanSome?_append (r := []) (List.cons_ne_nil c cs) hl rfl
    rw [indentedLine?, hspan]
    rfl

theorem indentedFinding?_eq_none (hl : indentedLine? l = none) : indentedFinding? file l = none := by
  rw [indentedFinding?, hl]
  rfl

/-- **One line more**: its finding is in the file so far, and the lines below it are in the one it names, if it
names one. -/
theorem findingsBelow_cons (file l : List Char) (ls : List (List Char)) :
    findingsBelow file (l :: ls) = (indentedFinding? file l).toList ++ findingsBelow (fileBelow file [l]) ls := by
  rw [findingsBelow.eq_def, indentedFinding?]
  dsimp only
  split
  · rename_i row code message hl
    have hnames : namesFile l = false := by
      by_contra hnames
      rw [indentedLine?_of_namesFile (Bool.eq_true_of_not_eq_false hnames)] at hl
      cases hl
    rw [hl, fileBelow_of_not_namesFile hnames]
    rfl
  · rename_i hl
    rw [hl, Option.map_none, Option.toList_none, List.nil_append]
    -- a line without a finding names a file unless it is empty or starts with a blank
    cases l with
    | nil => rfl
    | cons c cs =>
      cases hc : isBlank c with
      | true =>
        have hnames : namesFile (c :: cs) = false := by simp [namesFile, hc]
        rw [fileBelow_of_not_namesFile hnames]
        simp [hc]
      | false =>
        have hnames : namesFile (c :: cs) = true := by simp [namesFile, hc]
        rw [fileBelow_of_namesFile hnames]
        simp [hc]

/-- **Each line is a finding by itself, in the file that the lines above it say.** -/
theorem findingsBelow_eq (file : List Char) (ls : List (List Char)) : findingsBelow file ls =
    (ls.inits.zip ls).filterMap fun e => indentedFinding? (fileBelow file e.1) e.2 := by
  induction ls generalizing file with
  | nil => rfl
  | cons l ls ih =>
    have hfirst : fileBelow file [] = file := rfl
    have hrest : (((ls.inits.map fun above => l :: above).zip ls).filterMap fun e =>
        indentedFinding? (fileBelow file e.1) e.2) = findingsBelow (fileBelow file [l]) ls := by
      rw [ih, List.zip_map_left, List.filterMap_map]
      refine List.filterMap_congr fun e _ => ?_
      exact congrArg (indentedFinding? · e.2) (fileBelow_append file [l] e.1)
    rw [findingsBelow_cons, List.inits_cons, List.zip_cons_cons, List.filterMap_cons, hrest]
    dsimp only
    rw [hfirst]
    cases indentedFinding? file l with
    | none => rfl
    | some f => rfl

theorem findingsBelow_append (file : List Char) (ls ms : List (List Char)) :
    findingsBelow file (ls ++ ms) = findingsBelow file ls ++ findingsBelow (fileBelow file ls) ms := by
  induction ls generalizing file with
  | nil => rfl
  | cons l ls ih =>
    have hnext : fileBelow file (l :: ls) = fileBelow (fileBelow file [l]) ls := fileBelow_append file [l] ls
    rw [List.cons_append, findingsBelow_cons, findingsBelow_cons, ih, hnext, List.append_assoc]

/-- **Where the first line that says something names a file**, it does not matter which one was named before. -/
theorem findingsBelow_congr (hls : ((ls.find? fun l => !(trim l).isEmpty).all namesFile) = true)
    (file file' : List Char) : findingsBelow file ls = findingsBelow file' ls := by
  induction ls with
  | nil => rfl
  | cons l ls ih =>
    rw [findingsBelow_cons, findingsBelow_cons]
    by_cases hl : trim l = []
    · -- a line of blanks is no finding and names no file
      have hblank : ∀ c ∈ l, isBlank c = true := trim_eq_nil_iff.1 hl
      have hnames : namesFile l = false := by
        cases l with
        | nil => rfl
        | cons c cs => simp [namesFile, hblank c List.mem_cons_self]
      rw [List.find?_cons_of_neg (by simp [hl])] at hls
      have hnone := indentedLine?_of_blank hblank
      rw [indentedFinding?_eq_none hnone, indentedFinding?_eq_none hnone, fileBelow_of_not_namesFile hnames,
        fileBelow_of_not_namesFile hnames, ih hls]
    · have hnames : namesFile l = true := by
        rw [List.find?_cons_of_pos (by simpa using hl)] at hls
        exact hls
      have hnone := indentedLine?_of_namesFile hnames
      rw [indentedFinding?_eq_none hnone, indentedFinding?_eq_none hnone, fileBelow_of_namesFile hnames,
        fileBelow_of_namesFile hnames]

/-- **A text whose first line that says something names a file**, if any line does. -/
def OpensGroup (s : String) : Prop :=
  ((lines s.toList).find? fun l => !(trim l).isEmpty).all namesFile = true

instance : DecidablePred OpensGroup :=
  fun _ => inferInstanceAs (Decidable (_ = _))

/-! ## Texts behind each other -/

/-- **Grouped output is read group by group.** Behind ended lines a text that opens a block of its own is read as it is
alone, and so is one that names its own file. For each block is taken whole and once, and each finding below a
file is in the last one that is named above it. -/
theorem blocks_read_apart {a b : String} (ha : EndsLine a.toList) :
    (OpensBlock b → ofMessageBlocks (a ++ b) = ofMessageBlocks a ++ ofMessageBlocks b) ∧
    (OpensGroup b → ofFileGroups (a ++ b) = ofFileGroups a ++ ofFileGroups b) ∧
    ∀ output : String, (∀ fs, Blocks (lines output.toList) fs ↔ ofMessageBlocks output = fs) ∧
      ofFileGroups output = ((lines output.toList).inits.zip (lines output.toList)).filterMap
        fun e => indentedFinding? (fileBelow [] e.1) e.2 := by
  have hlines : lines (a ++ b).toList = lines a.toList ++ lines b.toList := by
    rw [String.toList_append, lines_append_of_endsLine ha]
  refine ⟨fun hb => ?_, fun hb => ?_, fun output => ⟨fun fs => blocks_iff, findingsBelow_eq _ _⟩⟩
  · have hblocks := (blocks_messagesBelow (lines a.toList)).append (blocks_messagesBelow (lines b.toList)) hb
    rw [ofMessageBlocks, hlines]
    exact hblocks.eq
  · rw [ofFileGroups, hlines, findingsBelow_append, findingsBelow_congr hb (fileBelow [] (lines a.toList)) []]
    rfl

/-- A message that goes on, and a finding below the name of its file. -/
def groupedOutput : String :=
  "a.py:f:10: DAR101 Missing\n    : - x\n\nsrc/m.py\n    12: DOC101: few \n"

/-- The same lines are continuations to one reader and findings to the other. -/
def groupedRest : String :=
  "b.py:3: DAR003 Bad\r\n    20: DOC201: no return\nc.py:g:4: D100: Late"

theorem blocks_read_apart_grouped :
    (EndsLine groupedOutput.toList ∧ OpensBlock groupedRest ∧ OpensGroup groupedRest) ∧
    ((ofMessageBlocks (groupedOutput ++ groupedRest)).map fun f => (f.file, f.message, f.code)) =
      [("a.py", "Missing - x", "DAR101"), ("b.py", "Bad 20: DOC201: no return", "DAR003"),
        ("c.py", "Late", "D100")] ∧
    ((ofFileGroups (groupedOutput ++ groupedRest)).map fun f => (f.file, f.message, f.code)) =
      [("src/m.py", "few", "DOC101"), ("b.py:3: DAR003 Bad", "no return", "DOC201")] := by
  have hends : EndsLine groupedOutput.toList := by decide
  have hblock : OpensBlock groupedRest := by decide +kernel
  have hgroup : OpensGroup groupedRest := by decide +kernel
  obtain ⟨hblocks, hgroups, -⟩ := blocks_read_apart hends (b := groupedRest)
  refine ⟨⟨hends, hblock, hgroup⟩, ?_, ?_⟩
  · rw [hblocks hblock]
    decide +kernel
  · rw [hgroups hgroup]
    decide +kernel

end Findings

end Multilint
