import Multilint.Catalog.Tools
import Multilint.Proofs.Format.Annotations
/-!
# The levels of commands

A command is written at a level, and the level is read off the cell of the severity. A table that shows the
severity of a finding therefore has each command at the level of its finding; a table that does not, which is
the one of the formatters, has all of them at the level of a warning (`level_annotationOf`). The lines of a
report start accordingly (`lines_start_at_level`), and so the record of a formatter that took too long is no
error in them (`timeout_is_no_error`).
-/

namespace Multilint

/-- The tables of the tools there are. -/
def Table.standard : List (List Column) :=
  [Table.fileColumns, Table.lineColumns, Table.placeColumns]

/-- Of these, the one that names files only shows no severity. -/
theorem Table.severity_mem_iff {cs : List Column} (hcs : cs ∈ Table.standard) :
    Column.severity ∈ cs ↔ cs ≠ Table.fileColumns := by
  simp only [standard, List.mem_cons, List.not_mem_nil, or_false] at hcs
  rcases hcs with rfl | rfl | rfl <;> decide

/-- Tools with these tables are all that a report is about: a tool that is not in the toolbox has one, too. -/
theorem Toolbox.tableFor_mem_standard {box : Toolbox}
    (hbox : ∀ t ∈ box.tools, t.adapter.columns ∈ Table.standard) (name : String) :
    (box.tableFor name).1 ∈ Table.standard := by
  rw [tableFor]
  split
  · rename_i t ht
    exact hbox t (List.mem_of_find?_eq_some ht)
  · simp [Table.standard]

namespace Report

open Workflow

variable {box : Toolbox} {stamp stamp' : String} {color : Bool} {r : Report}

/-! A text that a result with findings already has is written anew, so it does not matter. -/

/-- The report with none of its findings written. -/
def unwritten (r : Report) : Report :=
  { r with results := r.results.map fun t => { t with rendered := none } }

theorem listed_unwritten (r : Report) : r.unwritten.listed = r.listed := by
  simp only [listed, unwritten, List.flatMap_map]

theorem render_unwritten {f : OutputFormat}
    (hrendered : ∀ t ∈ r.results, t.findings = [] → t.rendered = none) :
    r.unwritten.render box f stamp = r.render box f stamp := by
  rw [unwritten, render, render, List.map_map]
  congr 1
  refine List.map_congr_left fun t ht => ?_
  rw [Function.comp_apply, ToolResult.render, ToolResult.render]
  split
  next hnone => rw [← hrendered t ht (List.isEmpty_iff.1 hnone)]
  next => rfl

/-- The lines of a report that are not empty. -/
def spokenLines (text : String) : List String :=
  (Text.stringLines text).filter (· ≠ "")

/-- **They are the commands of its findings.** -/
theorem spokenLines_text (hrendered : ∀ t ∈ r.results, t.findings = [] → t.rendered = none) :
    spokenLines ((r.render box .github stamp).text .github stamp' color) =
      r.listed.map fun e => written (annotationOf box e) := by
  have hunwritten : ∀ t ∈ r.unwritten.results, t.rendered = none := by simp [unwritten]
  rw [← render_unwritten hrendered, ← listed_unwritten, spokenLines, text_github hunwritten,
    filter_stringLines (not_mem_text box r.unwritten), spoken_text, List.map_map]
  exact List.map_congr_left fun e _ => String.ofList_toList

/-- **The level of a command** is that of its finding where the table of the tool shows the severity. -/
theorem level_annotationOf (e : String × Finding) : (annotationOf box e).level =
    if Column.severity ∈ (box.tableFor e.1).1 then level e.2.severity else "warning" := rfl

/-- A line starts with the level of its command. -/
theorem exists_written_eq (u : Understood) : ∃ rest, written u = "::" ++ u.level ++ " " ++ rest := by
  refine ⟨",".intercalate (u.properties.map fun p => p.1 ++ "=" ++ escapeProperty p.2) ++
    ("::" ++ escapeData u.message), ?_⟩
  rw [written, String.append_assoc, String.append_assoc, String.append_assoc]

/-- **A line is a command at the level of a severity.** -/
def StartsAt (line : String) : Severity → Prop
  | .error => ∃ rest, line = "::error " ++ rest
  | .warning => ∃ rest, line = "::warning " ++ rest
  | .info => ∃ rest, line = "::notice " ++ rest

theorem startsAt_written {u : Understood} {v : Severity} (h : u.level = level v) : StartsAt (written u) v := by
  obtain ⟨rest, hrest⟩ := exists_written_eq u
  rw [hrest, h]
  cases v <;> exact ⟨rest, rfl⟩

/-- **Each line of a report starts at a level**: that of the finding it is for, unless the tool's table names
files only, in which case it is that of a warning. -/
theorem lines_start_at_level (box : Toolbox) (r : Report) (stamp stamp' : String) (color : Bool)
    (hbox : ∀ t ∈ box.tools, t.adapter.columns ∈ Table.standard)
    (hrendered : ∀ t ∈ r.results, t.findings = [] → t.rendered = none) :
    List.Forall₂ (fun line e => StartsAt line
        (if (box.tableFor e.1).1 = Table.fileColumns then .warning else e.2.severity))
      (spokenLines ((r.render box .github stamp).text .github stamp' color)) r.listed := by
  rw [spokenLines_text hrendered, List.forall₂_map_left_iff, List.forall₂_same]
  intro e _
  have hshows := Table.severity_mem_iff (Toolbox.tableFor_mem_standard hbox e.1)
  refine startsAt_written ?_
  rw [level_annotationOf]
  by_cases hfile : (box.tableFor e.1).1 = Table.fileColumns
  · rw [if_pos hfile, if_neg fun h => hshows.1 h hfile]
    rfl
  · rw [if_neg hfile, if_pos (hshows.2 hfile)]

/-- A formatter and a checker of types. -/
def formatterAndChecker : Toolbox :=
  ⟨[⟨Catalog.black.spec, Catalog.black.adapter, 0⟩, ⟨Catalog.mypy.spec, Catalog.mypy.adapter, 1⟩]⟩

theorem standard_formatterAndChecker :
    ∀ t ∈ formatterAndChecker.tools, t.adapter.columns ∈ Table.standard := by
  simp [formatterAndChecker, Catalog.black, Catalog.mypy, Table.standard]

/-- A report in which both took too long, and the checker said something. -/
def slowReport : Report where
  action := .check
  results :=
    [{ name := "black", success := false, findings := [.timedOut "a.py" 30] },
      { name := "mypy", success := false
        findings := [{ file := "b.py", message := "see", severity := .info }, .timedOut "c.py" 60] }]

/-- The lines of the report. -/
theorem spokenLines_slowReport :
    spokenLines ((slowReport.render formatterAndChecker .github "").text .github "" false) =
      ["::warning file=a.py,title=black(TIMEOUT)::Skipped: execution timed out (30s limit exceeded)",
        "::notice file=b.py,title=mypy::see",
        "::error file=c.py,title=mypy(TIMEOUT)::Skipped: execution timed out (60s limit exceeded)"] := by
  rw [spokenLines_text (by decide)]
  decide +kernel

/-- The record of the formatter is written as a warning, the other two as what they are. -/
theorem lines_start_at_level_slow :
    (∀ t ∈ formatterAndChecker.tools, t.adapter.columns ∈ Table.standard) ∧
      (∀ t ∈ slowReport.results, t.findings = [] → t.rendered = none) ∧
      slowReport.listed.map (fun e => (e.1, e.2.severity)) =
        [("black", .error), ("mypy", .info), ("mypy", .error)] ∧
      spokenLines ((slowReport.render formatterAndChecker .github "").text .github "" false) =
        ["::warning file=a.py,title=black(TIMEOUT)::Skipped: execution timed out (30s limit exceeded)",
          "::notice file=b.py,title=mypy::see",
          "::error file=c.py,title=mypy(TIMEOUT)::Skipped: execution timed out (60s limit exceeded)"] ∧
      List.Forall₂ (fun line e => StartsAt line
          (if (formatterAndChecker.tableFor e.1).1 = Table.fileColumns then .warning else e.2.severity))
        (spokenLines ((slowReport.render formatterAndChecker .github "").text .github "" false))
        slowReport.listed := by
  have hrendered : ∀ t ∈ slowReport.results, t.findings = [] → t.rendered = none := by decide
  exact ⟨standard_formatterAndChecker, hrendered, by decide, spokenLines_slowReport,
    lines_start_at_level formatterAndChecker slowReport "" "" false standard_formatterAndChecker hrendered⟩

/-- So not every line starts at the level of its finding. -/
theorem timeout_is_no_error :
    ¬ ∀ (box : Toolbox) (r : Report), (∀ t ∈ box.tools, t.adapter.columns ∈ Table.standard) →
      (∀ t ∈ r.results, t.findings = [] → t.rendered = none) →
        List.Forall₂ (fun line e => StartsAt line e.2.severity)
          (spokenLines ((r.render box .github "").text .github "" false)) r.listed := by
  intro hlevels
  have hall := hlevels formatterAndChecker slowReport standard_formatterAndChecker (by decide)
  have hlisted : slowReport.listed = ("black", .timedOut "a.py" 30) :: slowReport.listed.tail := rfl
  rw [spokenLines_slowReport, hlisted, List.forall₂_cons] at hall
  obtain ⟨⟨rest, hrest⟩, -⟩ := hall
  -- the first line goes on with another letter
  have hthird := congrArg (fun line : String => line.toList[2]?) hrest
  simp at hthird

end Report

end Multilint
