import Multilint.Format.Paint
import Multilint.Format.Render
import Multilint.Run.Report
/-!
# Writing reports

The text of a report has a section for each tool and a summary; the machine formats have the findings
only. The document of a report holds all there is to know about it.
-/

namespace Multilint

/-- The columns of a tool's findings, and whether it can mend them. A tool that is not in the toolbox has
the columns of a linter. -/
def Toolbox.tableFor (box : Toolbox) (name : String) : List Column × Bool :=
  match box.find? name with
  | some t => (t.adapter.columns, t.spec.canFix)
  | none => (Table.placeColumns, false)

namespace ToolResult

/-- The result with its findings written in a format; one without findings stays as it is. -/
def render (box : Toolbox) (f : OutputFormat) (stamp : String) (r : ToolResult) : ToolResult :=
  if r.findings.isEmpty then r
  else
    let (cs, canFix) := box.tableFor r.name
    { r with rendered := some (Table.findingsText f stamp r.name cs canFix r.findings) }

/-- The word for how a tool did. -/
def status (r : ToolResult) : String :=
  if r.isSkipped then "SKIP" else if r.success then "PASS" else "FAIL"

/-- A text in a colour, or as it is. -/
def painted (color : Bool) (paint : String → String) (s : String) : String :=
  if color then paint s else s

/-- The heading of a tool's section. -/
def heading (r : ToolResult) (action : Action) (color : Bool) : String :=
  painted color (fun s => Colour.bold (Colour.cyan.paint s))
    ("▶ " ++ r.name ++ " (" ++ action.name ++ ")")

/-- What a section says besides the findings. -/
def remark (r : ToolResult) (color : Bool) : List String :=
  match r.output with
  | some text =>
    if r.isSkipped then [painted color Colour.yellow.paint ("⏭  " ++ text)] else [text]
  | none => if r.findings.isEmpty then [OutputFormat.noFindings] else []

/-- The findings of a section, where they have been written. -/
def renderedPart (r : ToolResult) : List String :=
  (r.rendered.filter (· ≠ "")).toList

/-- The section of a tool. -/
def sectionText (r : ToolResult) (action : Action) (f : OutputFormat) (color : Bool) : String :=
  "\n".intercalate <|
    if f.decorated then [r.heading action color] ++ r.renderedPart ++ r.remark color
    else r.renderedPart

end ToolResult

namespace Report

/-- The report with the findings written in a format. -/
def render (r : Report) (box : Toolbox) (f : OutputFormat) (stamp : String) : Report :=
  { r with results := r.results.map (ToolResult.render box f stamp) }

/-- The summary: a row for each tool, with the counts of a fixing run. -/
def summaryTable (r : Report) : Table :=
  let counts (t : ToolResult) : List String :=
    if r.action.isFix then
      [Column.numberCell (t.counts.map FixCounts.fixed),
        Column.numberCell (t.counts.map FixCounts.remaining)]
    else []
  { columns := ["Tool", "Status", "Issues"] ++
      if r.action.isFix then ["Fixed", "Remaining"] else []
    rows := r.results.map fun t => [t.name, t.status, toString t.count] ++ counts t }

/-- Every finding with the name of its tool in front. -/
def findingsTable (r : Report) : Table :=
  { columns := "Tool" :: Column.all.map Column.header
    rows := r.results.flatMap fun t => t.findings.map fun f => t.name :: Table.row Column.all f }

/-- The text of a report whose findings have been written. -/
def text (r : Report) (f : OutputFormat) (stamp : String) (color : Bool) : String :=
  match f with
  | .csv => r.findingsTable.csvText
  | _ =>
    let sections := (r.results.map fun t => t.sectionText r.action f color).filter (· ≠ "")
    let summary :=
      if f.decorated && !r.results.isEmpty then
        [ToolResult.painted color Colour.bold "Summary" ++ "\n" ++
          f.table stamp none r.summaryTable]
      else []
    "\n\n".intercalate (sections ++ summary)

/-- The members of a result besides its table. -/
def resultMembers (t : ToolResult) : List (String × Json) :=
  [("success", .bool t.success), ("skipped", .bool t.isSkipped),
      ("skip_reason", Json.ofOption (fun s => .string s.label) t.skip),
      ("issues_count", .nat t.count)] ++
    (match t.counts with
      | some c =>
        [("initial_issues_count", .nat c.initial), ("fixed_issues_count", .nat c.fixed),
          ("remaining_issues_count", .nat c.remaining)]
      | none => []) ++
    [("output", Json.ofOption .string t.output)]

/-- The object of a result. -/
def resultObject (box : Toolbox) (stamp : String) (t : ToolResult) : Json :=
  let cs := Table.withFixable (box.tableFor t.name).1
  .object (Document.toolMembers stamp (Table.ofFindings cs t.findings) ++ resultMembers t)

/-- The document of a report. Of two results of one name the last one counts. -/
def document (r : Report) (box : Toolbox) (stamp : String) : Json :=
  Document.ofTools stamp [("action", .string r.action.name)]
    (r.results.foldl (fun ms t => Json.put ms t.name (resultObject box stamp t)) [])
    r.totalFindings r.skippedTools

end Report

namespace Toolbox

/-- The table of all tools. -/
def listing (box : Toolbox) : Table :=
  { columns := ["Tool", "Priority", "Categories", "Fix", "Mode", "Patterns", "Conflicts"]
    rows := box.tools.map fun t =>
      [t.name, toString t.spec.priority, ", ".intercalate t.spec.labels,
        if t.spec.canFix then "yes" else "no", t.spec.invocation.name,
        ", ".intercalate t.spec.filePatterns, ", ".intercalate t.spec.conflicts] }

/-- The object of a tool in a listing. -/
def listingObject (s : ToolSpec) : Json :=
  .object
    [("name", .string s.name), ("description", .string s.description),
      ("priority", .number (.integer s.priority)), ("categories", .strings s.labels),
      ("can_check", .bool s.canCheck), ("can_fix", .bool s.canFix),
      ("mode", .string s.invocation.name), ("file_patterns", .strings s.filePatterns),
      ("conflicts_with", .strings s.conflicts),
      ("min_version", Json.ofOption .string s.minVersion),
      ("default_timeout", .nat s.effectiveTimeout), ("default_options", s.defaults.toJson)]

/-- The document of all tools. -/
def listingDocument (box : Toolbox) : Json :=
  .object
    [("tools", .array (box.tools.map fun t => listingObject t.spec)),
      ("total", .nat box.size)]

/-- The listing in a format. -/
def listingText (box : Toolbox) (f : OutputFormat) (stamp : String) : String :=
  match f with
  | .json => box.listingDocument.pretty
  | _ => f.table stamp none box.listing

end Toolbox

end Multilint
