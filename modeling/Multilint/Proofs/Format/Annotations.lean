import Multilint.Proofs.Format.Commands
import Multilint.Proofs.Format.FindingsTable
/-!
# The findings of a report as commands

In the format of workflow commands a tool's findings are a command each. `annotated` says what the command
of a finding is to tell: the cells that the tool's table has for it. The line that is written for a row is
the text of just that command (`command_row`), so that a reader of the report finds one command for each
finding, in order, and none that a text in a finding has made up (`Report.lines_tell_findings`). The results
must not have been written before, which a run does not do (`not_rendered_of_run`).
-/

namespace Multilint

namespace Workflow

variable {tool : String} {cs : List Column} {f : Finding} {c : Column}

/-- The cell that a table with some columns has for a finding; empty where it has no such column. -/
def cellOf (cs : List Column) (c : Column) (f : Finding) : String :=
  if c ∈ cs then c.cell f else ""

/-- A property that has a value. -/
def given (key value : String) : List (String × String) :=
  if value = "" then [] else [(key, value)]

/-- **What the command of a finding tells.** -/
def annotated (tool : String) (cs : List Column) (f : Finding) : Understood where
  level := if Column.severity ∈ cs then level f.severity else "warning"
  properties := given "file" (cellOf cs .file f) ++ given "line" (cellOf cs .line f) ++
    given "col" (cellOf cs .column f) ++
    [("title", if cellOf cs .code f = "" then tool else tool ++ "(" ++ cellOf cs .code f ++ ")")]
  message := cellOf cs .message f

/-- A header is looked for from left to right. -/
theorem named_cons {d header cell : String} {ds row : List String} :
    named (d :: ds) (cell :: row) header =
      if Text.sameLetters d header = true then cell else named ds row header := by
  rw [named, named, List.findIdx?_cons]
  by_cases hd : Text.sameLetters d header = true
  · rw [if_pos hd, if_pos hd]
    rfl
  · rw [if_neg hd, if_neg hd]
    cases ds.findIdx? (Text.sameLetters · header) <;> rfl

/-- **The cell below a header** is that of the one column the header names. -/
theorem named_row {header : String}
    (hheader : ∀ d : Column, Text.sameLetters d.header header = decide (d = c)) :
    named (cs.map Column.header) (Table.row cs f) header = cellOf cs c f := by
  induction cs with
  | nil => rfl
  | cons d cs ih =>
    rw [Table.row, List.map_cons, List.map_cons, named_cons, hheader]
    rw [Table.row] at ih
    rw [ih, cellOf, cellOf]
    by_cases hd : d = c
    · simp [hd]
    · simp [hd, Ne.symm hd]

/-- The level of a finding is read off its cell. -/
theorem levelOfCell_cellOf : levelOfCell (cellOf cs .severity f) =
    if Column.severity ∈ cs then level f.severity else "warning" := by
  rw [cellOf]
  split
  · have hname : ∀ v : Severity, levelOfCell v.name = level v := by
      intro v
      cases v <;> decide
    exact hname f.severity
  · rfl

/-- A number has no sign that is escaped. -/
theorem escapeProperty_numberCell (n : Option ℕ) :
    escapeProperty (Column.numberCell n) = Column.numberCell n := by
  refine escapeProperty_eq_self fun c hc => ?_
  cases n with
  | none => cases hc
  | some n =>
    have hcell : Column.numberCell (some n) = n.repr := rfl
    rw [hcell, Nat.toList_repr] at hc
    have hdigit := Nat.isDigit_of_mem_toDigits (by decide) le_rfl hc
    refine ⟨?_, ?_, ?_, ?_, ?_⟩ <;> (rintro rfl; cases hdigit)

/-- The text of a property that has a value. -/
theorem property_escapeProperty (key value : String) : property key (escapeProperty value) =
    (given key value).map fun p => p.1 ++ "=" ++ escapeProperty p.2 := by
  rw [property, given]
  have hempty : escapeProperty value = "" ↔ value = "" := by
    constructor
    · intro h
      have hback := unescapeProperty_escapeProperty value
      rw [h] at hback
      exact String.toList_inj.1 hback.symm
    · rintro rfl
      rfl
  by_cases hvalue : value = ""
  · rw [if_pos hvalue, if_pos (hempty.2 hvalue)]
    rfl
  · rw [if_neg hvalue, if_neg (hvalue ∘ hempty.1)]
    rfl

/-- The places of a finding are written as they are, which is how they are escaped. -/
theorem property_cellOf (key : String) (hc : c = .line ∨ c = .column) :
    property key (cellOf cs c f) = (given key (cellOf cs c f)).map fun p =>
      p.1 ++ "=" ++ escapeProperty p.2 := by
  have hcell : escapeProperty (cellOf cs c f) = cellOf cs c f := by
    rw [cellOf]
    split
    · rcases hc with rfl | rfl <;> exact escapeProperty_numberCell _
    · rfl
  rw [← property_escapeProperty, hcell]

/-- Every header a command asks for is that of one column. -/
theorem sameLetters_header (d : Column) :
    Text.sameLetters d.header "file" = decide (d = .file) ∧
      Text.sameLetters d.header "line" = decide (d = .line) ∧
      Text.sameLetters d.header "column" = decide (d = .column) ∧
      Text.sameLetters d.header "code" = decide (d = .code) ∧
      Text.sameLetters d.header "severity" = decide (d = .severity) ∧
      Text.sameLetters d.header "message" = decide (d = .message) := by
  cases d <;> decide

/-- **The line of a row is the text of its annotation.** -/
theorem command_row : command (some tool) (cs.map Column.header) (Table.row cs f) =
    written (annotated tool cs f) := by
  rw [command, named_row fun d => (sameLetters_header d).1,
    named_row fun d => (sameLetters_header d).2.1, named_row fun d => (sameLetters_header d).2.2.1,
    named_row fun d => (sameLetters_header d).2.2.2.1,
    named_row fun d => (sameLetters_header d).2.2.2.2.1,
    named_row fun d => (sameLetters_header d).2.2.2.2.2, levelOfCell_cellOf,
    property_escapeProperty, property_cellOf "line" (Or.inl rfl), property_cellOf "col" (Or.inr rfl)]
  rw [written, annotated, List.map_append, List.map_append, List.map_append]
  rfl

/-- The names in an annotation are words, whatever the finding says. -/
theorem named_annotated : (annotated tool cs f).Named := by
  have hlevel : ∀ v : Severity, (level v).toList.all Char.isLower = true := by
    intro v
    cases v <;> decide
  have hgiven : ∀ {key value : String} {p : String × String}, p ∈ given key value → p.1 = key := by
    intro key value p hp
    rw [given] at hp
    split at hp
    · cases hp
    · rw [List.mem_singleton.1 hp]
  refine ⟨?_, fun p hp => ?_⟩
  · have hall : (annotated tool cs f).level.toList.all Char.isLower = true := by
      rw [annotated]
      dsimp only
      split
      · exact hlevel f.severity
      · decide
    exact List.all_eq_true.1 hall
  · have hkey : p.1 ∈ ["file", "line", "col", "title"] := by
      simp only [annotated, List.mem_append, List.mem_singleton] at hp
      rcases hp with ((hp | hp) | hp) | rfl
      · simp [hgiven hp]
      · simp [hgiven hp]
      · simp [hgiven hp]
      · simp
    have hwords : ∀ key ∈ ["file", "line", "col", "title"], key.toList.all Char.isLower = true := by
      decide
    exact List.all_eq_true.1 (hwords p.1 hkey)

end Workflow

namespace Report

open Workflow

variable {box : Toolbox} {stamp : String} {r : Report} {t : ToolResult} {c : Char}

/-- What the command of a finding of a report tells. -/
def annotationOf (box : Toolbox) (e : String × Finding) : Understood :=
  annotated e.1 (box.tableFor e.1).1 e.2

/-- The commands of a result. -/
def commandLines (box : Toolbox) (t : ToolResult) : List String :=
  t.findings.map fun f => written (annotationOf box (t.name, f))

/-- A section without headings is what has been written. -/
theorem sectionText_github (t : ToolResult) (action : Action) (color : Bool) :
    t.sectionText action .github color = t.rendered.getD "" := by
  have hpart : t.sectionText action .github color = "\n".intercalate t.renderedPart := rfl
  rw [hpart, ToolResult.renderedPart]
  cases t.rendered with
  | none => rfl
  | some text =>
    by_cases hempty : text = ""
    · rw [hempty]
      rfl
    · rw [Option.filter_some, if_pos (by simpa using hempty)]
      exact String.intercalate_singleton

/-- **The section of a result** is its commands, a line each. -/
theorem sectionText_render (hrendered : t.rendered = none) (action : Action) (color : Bool) :
    (t.render box .github stamp).sectionText action .github color =
      "\n".intercalate (commandLines box t) := by
  rw [sectionText_github]
  by_cases hfindings : t.findings = []
  · rw [ToolResult.render, if_pos (by simp [hfindings]), hrendered, commandLines, hfindings]
    rfl
  · have hrow : ∀ f, command (some t.name) ((box.tableFor t.name).1.map Column.header)
        (Table.row (box.tableFor t.name).1 f) = written (annotationOf box (t.name, f)) :=
      fun f => command_row
    rw [ToolResult.render, if_neg (by simpa using hfindings), commandLines]
    simp only [← hrow]
    exact congrArg ("\n".intercalate) (by rw [Table.ofFindings, List.map_map]; rfl)

/-- A command is a line that says something. -/
theorem spoken_written {u : Understood} (hu : u.Named) :
    Text.spoken (written u).toList = [(written u).toList] := by
  refine Text.spoken_of_line ?_ (not_mem_written hu (Or.inr rfl))
  rw [toList_written]
  exact List.cons_ne_nil _ _

/-- The lines of a section that say something are its commands. -/
theorem spoken_commandLines (box : Toolbox) (t : ToolResult) :
    Text.spoken ("\n".intercalate (commandLines box t)).toList =
      (commandLines box t).map String.toList := by
  have hfeed : "\n".toList = List.replicate (0 + 1) '\n' := rfl
  rw [String.toList_intercalate, hfeed, Text.spoken_intercalate, commandLines, List.map_map,
    List.flatMap_map, List.map_eq_flatMap]
  exact List.flatMap_congr fun f _ => spoken_written named_annotated

/-- A section has no carriage return. -/
theorem not_mem_commandLines (box : Toolbox) (t : ToolResult) :
    '\r' ∉ ("\n".intercalate (commandLines box t)).toList := by
  intro hmem
  rw [String.toList_intercalate] at hmem
  rcases Text.mem_intercalate_imp hmem with hfeed | ⟨_, htext, hmem⟩
  · exact absurd hfeed (by decide)
  · obtain ⟨line, hline, rfl⟩ := List.mem_map.1 htext
    obtain ⟨f, -, rfl⟩ := List.mem_map.1 hline
    exact not_mem_written named_annotated (Or.inl rfl) hmem

/-- The sections of a report that are not empty. -/
def sections (box : Toolbox) (r : Report) : List String :=
  (r.results.map fun t => "\n".intercalate (commandLines box t)).filter (· ≠ "")

/-- **The text of a report** is its sections. -/
theorem text_github (hrendered : ∀ t ∈ r.results, t.rendered = none) (stamp' : String) (color : Bool) :
    (r.render box .github stamp).text .github stamp' color = "\n\n".intercalate (sections box r) := by
  have hsections : (r.render box .github stamp).results.map
      (fun t => t.sectionText r.action .github color) =
        r.results.map fun t => "\n".intercalate (commandLines box t) := by
    rw [render, List.map_map]
    exact List.map_congr_left fun t ht => sectionText_render (hrendered t ht) r.action color
  have htext : (r.render box .github stamp).text .github stamp' color =
      "\n\n".intercalate (((r.render box .github stamp).results.map
        (fun t => t.sectionText r.action .github color)).filter (· ≠ "") ++ []) := rfl
  rw [htext, hsections, List.append_nil, sections]

/-- The lines of the text that say something are the commands of the findings. -/
theorem spoken_text (box : Toolbox) (r : Report) :
    Text.spoken ("\n\n".intercalate (sections box r)).toList =
      r.listed.map fun e => (written (annotationOf box e)).toList := by
  have hfeeds : "\n\n".toList = List.replicate (1 + 1) '\n' := rfl
  -- an empty section says nothing, whether it is left out or not
  have hempty : ∀ ss : List String, ((ss.filter (· ≠ "")).map String.toList).flatMap Text.spoken =
      (ss.map String.toList).flatMap Text.spoken := by
    intro ss
    induction ss with
    | nil => rfl
    | cons s ss ih =>
      by_cases hs : s = ""
      · rw [hs]
        exact ih
      · rw [List.filter_cons_of_pos (by simpa using hs), List.map_cons, List.map_cons,
          List.flatMap_cons, List.flatMap_cons, ih]
  rw [String.toList_intercalate, hfeeds, Text.spoken_intercalate, sections, hempty, List.map_map,
    List.flatMap_map, listed, List.map_flatMap]
  refine List.flatMap_congr fun t _ => ?_
  rw [Function.comp_apply, spoken_commandLines, commandLines, List.map_map, List.map_map]
  rfl

theorem not_mem_text (box : Toolbox) (r : Report) :
    '\r' ∉ ("\n\n".intercalate (sections box r)).toList := by
  intro hmem
  rw [String.toList_intercalate] at hmem
  rcases Text.mem_intercalate_imp hmem with hfeed | ⟨_, htext, hmem⟩
  · exact absurd hfeed (by decide)
  · obtain ⟨part, hpart, rfl⟩ := List.mem_map.1 htext
    obtain ⟨t, -, rfl⟩ := List.mem_map.1 (List.mem_filter.1 hpart).1
    exact not_mem_commandLines box t hmem

/-- The strings among lines that are not empty. -/
theorem filter_stringLines {s : String} (hs : '\r' ∉ s.toList) :
    (Text.stringLines s).filter (· ≠ "") = (Text.spoken s.toList).map String.ofList := by
  rw [Text.spoken, ← Text.filter_lines hs, Text.stringLines, List.filter_map]
  congr 1
  refine List.filter_congr fun l _ => ?_
  cases l with
  | nil => rfl
  | cons c l => simp

/-- **The lines of a report are the commands of its findings**, one for each, in order. A reader of workflow
commands finds in each line what the table of the tool has for that finding. -/
theorem lines_tell_findings (box : Toolbox) (r : Report) (stamp stamp' : String) (color : Bool)
    (hrendered : ∀ t ∈ r.results, t.rendered = none) :
    ((Text.stringLines ((r.render box .github stamp).text .github stamp' color)).filter
        (· ≠ "")).mapM (fun line => ofLine? line.toList) =
      some (r.listed.map (annotationOf box)) := by
  rw [text_github hrendered, filter_stringLines (not_mem_text box r), spoken_text, List.map_map,
    Sequence.mapM_eq_some_iff, List.forall₂_map_left_iff, List.forall₂_map_right_iff,
    List.forall₂_same]
  intro e _
  rw [Function.comp_apply, String.toList_ofList]
  exact ofLine?_written named_annotated

/-- A report of a finding that holds every sign of a command, and one that tries to make up another. -/
def forgingReport : Report where
  action := .check
  results :=
    [{ name := "a,b::c", success := false
       findings :=
         [{ file := "x,line=9:1%3A", message := "50%\r\n::error title=made up::", line := some 7
            code := "E,1", severity := .info },
          { file := "", message := "::error title=made up::really" }] },
      .message "idle" "Nothing to do."]

/-- Its two lines tell what the two findings are. -/
theorem lines_tell_findings_forging :
    (∀ t ∈ forgingReport.results, t.rendered = none) ∧
      (Text.stringLines ((forgingReport.render .empty .github "").text .github "" false)) =
        ["::notice file=x%2Cline=9%3A1%253A,line=7,title=a%2Cb%3A%3Ac(E%2C1)::" ++
            "50%25%0D%0A::error title=made up::",
          "::error title=a%2Cb%3A%3Ac::::error title=made up::really"] ∧
      ((Text.stringLines ((forgingReport.render .empty .github "").text .github "" false)).filter
          (· ≠ "")).mapM (fun line => ofLine? line.toList) =
        some [⟨"notice", [("file", "x,line=9:1%3A"), ("line", "7"), ("title", "a,b::c(E,1)")],
            "50%\r\n::error title=made up::"⟩,
          ⟨"error", [("title", "a,b::c")], "::error title=made up::really"⟩] := by
  have hrendered : ∀ t ∈ forgingReport.results, t.rendered = none := by decide
  refine ⟨hrendered, by decide +kernel, ?_⟩
  rw [lines_tell_findings .empty forgingReport "" "" false hrendered]
  decide +kernel

end Report

end Multilint
