import Multilint.Format.Report
import Multilint.Proofs.Format.Records
import Multilint.Proofs.Text.Classes
/-!
# The findings of a report as records

A report in the format of fields is one table of all findings, with the name of the tool in front of each.
`findingOf?` makes a finding of a record again, and gives back what was written (`findingOf?_recordOf`): a
number and a missing one have different cells, and so do severities and truth values. With the records of a
text read back, the text of a report tells which findings it is about, and of which tools
(`Report.csv_text_tells_findings`).
-/

namespace Multilint

/-- **The findings of a report** in order, each with the name of its tool. -/
def Report.listed (r : Report) : List (String × Finding) :=
  r.results.flatMap fun t => t.findings.map fun f => (t.name, f)

namespace Records

/-! ## Cells -/

/-- The number a cell gives, or that it gives none. -/
def numberOf? (cell : String) : Option (Option ℕ) :=
  if cell = "" then some none
  else if cell.toList.all Numeral.isDigit then some (some (Numeral.value cell.toList))
  else none

/-- The severity a cell names. -/
def severityOf? (cell : String) : Option Severity :=
  [Severity.error, .warning, .info].find? fun v => v.name = cell

/-- The truth value a cell names. -/
def truthOf? (cell : String) : Option Bool :=
  if cell = "true" then some true else if cell = "false" then some false else none

/-- The tool and the finding that a record is about. -/
def findingOf? : List String → Option (String × Finding)
  | [tool, file, line, column, code, severity, message, fixable] => do
    let line ← numberOf? line
    let column ← numberOf? column
    let severity ← severityOf? severity
    let fixable ← truthOf? fixable
    return (tool, { file, message, line, column, code, severity, fixable })
  | _ => none

theorem numberOf?_numberCell (n : Option ℕ) : numberOf? (Column.numberCell n) = some n := by
  cases n with
  | none => rfl
  | some n =>
    have hcell : Column.numberCell (some n) = n.repr := rfl
    have hdigits : n.repr.toList.all Numeral.isDigit = true :=
      List.all_eq_true.2 fun c hc => Numeral.isDigit_of_mem_repr hc
    rw [numberOf?, hcell, if_neg Nat.repr_ne_empty, if_pos hdigits, Numeral.value_repr]

theorem severityOf?_name (v : Severity) : severityOf? v.name = some v := by
  cases v <;> decide

theorem truthOf?_truthCell (b : Bool) : truthOf? (Column.truthCell b) = some b := by
  cases b <;> decide

/-! ## Rows -/

/-- The record of a finding. -/
def recordOf (e : String × Finding) : List String :=
  e.1 :: Table.row Column.all e.2

/-- **A record tells the finding it was written for**, and the tool. -/
theorem findingOf?_recordOf (e : String × Finding) : findingOf? (recordOf e) = some e := by
  have hrecord : recordOf e = [e.1, e.2.file, Column.numberCell e.2.line,
      Column.numberCell e.2.column, e.2.code, e.2.severity.name, e.2.message,
      Column.truthCell e.2.fixable] := rfl
  rw [hrecord, findingOf?, numberOf?_numberCell, numberOf?_numberCell, severityOf?_name,
    truthOf?_truthCell]
  rfl

theorem mapM_findingOf? (es : List (String × Finding)) :
    (es.map recordOf).mapM findingOf? = some es := by
  induction es with
  | nil => rfl
  | cons e es ih => rw [List.map_cons, List.mapM_cons, findingOf?_recordOf, ih]; rfl

end Records

/-- A row with a cell for each column is not filled up. -/
theorem Table.padded_of_length {t : Table} {row : List String} (hrow : row.length = t.columns.length) :
    t.padded row = row := by
  rw [padded, ← hrow]
  refine List.ext_getElem (by simp) fun i hi hi' => ?_
  simp [cellAt, hi']

namespace Report

open Records

variable {r r' : Report} {stamp stamp' : String} {color color' : Bool}

/-- The headers of the table of findings. -/
def findingsHeader : List String :=
  "Tool" :: Column.all.map Column.header

/-- The table of findings has a record for each finding. -/
theorem rows_findingsTable (r : Report) : r.findingsTable.rows = r.listed.map recordOf := by
  rw [findingsTable, listed, List.map_flatMap]
  simp only [List.map_map]
  rfl

/-- **The text of a report with findings** is the records of its table. -/
theorem text_csv (hlisted : r.listed ≠ []) :
    r.text .csv stamp color = csvRecords (findingsHeader :: r.listed.map recordOf) := by
  have hpadded : ∀ e : String × Finding, r.findingsTable.padded (recordOf e) = recordOf e :=
    fun e => Table.padded_of_length rfl
  rw [text, Table.csvText, rows_findingsTable, if_neg (by simpa using hlisted), csvRecords,
    List.map_cons, List.map_map, List.map_map]
  simp only [Function.comp_def, hpadded]
  rfl

/-- One without findings has no text. -/
theorem text_csv_of_empty (hlisted : r.listed = []) : r.text .csv stamp color = "" := by
  rw [text, Table.csvText, rows_findingsTable, hlisted]
  rfl

/-- **The text of a report is read back** as its headers and the records of its findings. -/
theorem ofText?_text (hlisted : r.listed ≠ []) : Records.ofText? (r.text .csv stamp color) =
    some (findingsHeader :: r.listed.map recordOf) := by
  rw [text_csv hlisted]
  refine ofText?_csvRecords (List.cons_ne_nil _ _) ?_
  rw [List.forall_mem_cons]
  refine ⟨List.cons_ne_nil _ _, fun record hrecord => ?_⟩
  obtain ⟨e, -, rfl⟩ := List.mem_map.1 hrecord
  exact List.cons_ne_nil _ _

/-- **The findings are recovered**, those of a report without findings too: the records behind the first
one. -/
theorem mapM_tail_ofText? (r : Report) (stamp : String) (color : Bool) :
    ((Records.ofText? (r.text .csv stamp color)).bind fun records =>
      records.tail.mapM findingOf?) = some r.listed := by
  by_cases hlisted : r.listed = []
  · have hempty : Records.ofText? "" = some [[""]] := by decide
    rw [text_csv_of_empty hlisted, hempty, hlisted]
    rfl
  · rw [ofText?_text hlisted]
    exact mapM_findingOf? r.listed

/-- **The text of a report tells its findings.** Read as records, the text of a report with findings is the
headers and one record for each finding, in order, and each of them gives back its finding and the name of
its tool. Reports that do not list the same have different texts. -/
theorem csv_text_tells_findings (r : Report) (stamp : String) (color : Bool) :
    (r.listed ≠ [] → ∃ records,
      Records.ofText? (r.text .csv stamp color) = some (findingsHeader :: records) ∧
        records.mapM findingOf? = some r.listed) ∧
      ∀ r' stamp' color', r.text .csv stamp color = Report.text r' .csv stamp' color' →
        r.listed = r'.listed := by
  constructor
  · exact fun hlisted => ⟨_, ofText?_text hlisted, mapM_findingOf? r.listed⟩
  · intro r' stamp' color' htext
    -- what is read from one text is listed in both reports
    have hfindings := mapM_tail_ofText? r stamp color
    rw [htext, mapM_tail_ofText? r' stamp' color'] at hfindings
    exact (Option.some.inj hfindings).symm

/-- A report of a finding with every sign that has a meaning among fields. -/
def quotedReport : Report where
  action := .check
  results :=
    [.message "idle" "Nothing to do.",
      { name := "a,b", success := false
        findings :=
          [{ file := "\"x\"\r", message := "one,\ntwo", column := some 10, severity := .info
             fixable := true }] }]

/-- It comes back from its text as it is. -/
theorem csv_text_tells_findings_quoted :
    quotedReport.text .csv "" false = "Tool,File,Line,Column,Code,Severity,Message,Fixable\n" ++
        "\"a,b\",\"\"\"x\"\"\r\",,10,,info,\"one,\ntwo\",true" ∧
      ∃ records, Records.ofText? (quotedReport.text .csv "" false) =
          some (findingsHeader :: records) ∧
        records.mapM findingOf? = some quotedReport.listed := by
  refine ⟨by decide +kernel, (csv_text_tells_findings quotedReport "" false).1 ?_⟩
  exact List.cons_ne_nil _ _

end Report

end Multilint
