import Multilint.Format.Document
import Multilint.Format.Markup
import Multilint.Format.Workflow
/-!
# Writing tables

A table in any format, and the findings of one tool in any format. Where findings can be mended, the
formats a person reads show them in two parts.
-/

namespace Multilint

/-- A table in a format, for output that may name the tool. -/
def OutputFormat.table (f : OutputFormat) (stamp : String) (tool : Option String) (t : Table) :
    String :=
  match f with
  | .plain => t.plainText
  | .grid => t.gridText
  | .markdown => t.markdownText
  | .html => t.htmlText
  | .json => (Document.ofTable stamp tool t).pretty
  | .csv => t.csvText
  | .github => Workflow.ofTable tool t

namespace Table

/-- The heading of findings that can be mended. -/
def fixableHeading : String := "Auto-fixable issues"

/-- The heading of findings that cannot be mended. -/
def unfixableHeading : String := "Not auto-fixable issues"

/-- The findings of a tool under a heading, if there are any. -/
def part (f : OutputFormat) (stamp tool heading : String) (cs : List Column)
    (findings : List Finding) : List String :=
  if findings.isEmpty then []
  else [heading ++ "\n" ++ f.table stamp (some tool) (ofFindings cs findings)]

/-- The findings of a tool in a format. -/
def findingsText (f : OutputFormat) (stamp tool : String) (cs : List Column) (canFix : Bool)
    (findings : List Finding) : String :=
  let whole := f.table stamp (some tool) (ofFindings cs findings)
  match f with
  | .json => f.table stamp (some tool) (ofFindings (withFixable cs) findings)
  | .csv => whole
  | .github => whole
  | _ =>
    if canFix && findings.any Finding.fixable then
      "\n\n".intercalate
        (part f stamp tool fixableHeading cs (findings.filter Finding.fixable) ++
          part f stamp tool unfixableHeading cs (findings.filter fun x => !x.fixable))
    else whole

end Table

end Multilint
