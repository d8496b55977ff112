import Multilint.Text.Basic
/-!
# Output formats

The formats a report can be written in, and the keys they are chosen by.
-/

namespace Multilint

/-- A format of a report. -/
inductive OutputFormat where
  /-- Columns under a dashed line. -/
  | plain
  /-- A table in a box. -/
  | grid
  /-- A table of bars. -/
  | markdown
  /-- A table of elements. -/
  | html
  /-- A document for programs. -/
  | json
  /-- Fields with commas between them. -/
  | csv
  /-- Workflow commands. -/
  | github
  deriving DecidableEq, Repr, Inhabited

namespace OutputFormat

/-- The formats in the order they are listed. -/
def all : List OutputFormat :=
  [.plain, .grid, .markdown, .html, .json, .csv, .github]

/-- The name of a format. -/
def name : OutputFormat → String
  | .plain => "plain"
  | .grid => "grid"
  | .markdown => "markdown"
  | .html => "html"
  | .json => "json"
  | .csv => "csv"
  | .github => "github"

/-- The other key of a format, if it has one. -/
def alias? : OutputFormat → Option String
  | .plain => some "text"
  | .markdown => some "md"
  | .github => some "github-actions"
  | _ => none

/-- A key as it is looked up: without outer blanks and in lower case. -/
def canonical (key : String) : String :=
  Text.lower (Text.trimmed key)

/-- The format a key stands for. -/
def ofKey? (key : String) : Option OutputFormat :=
  all.find? fun f => f.name = canonical key || f.alias? = some (canonical key)

/-- The wording for a key that stands for no format. -/
def unknownKey (key : String) : String :=
  "unknown output format '" ++ canonical key ++ "'"

/-- The format a key stands for, or the box. -/
def ofKey (key : String) : OutputFormat :=
  (ofKey? key).getD .grid

/-- Whether a person is to read the format on a terminal. -/
def forTerminal : OutputFormat → Bool
  | .plain | .grid | .markdown => true
  | _ => false

/-- Whether a report has headings around the tables. -/
def decorated : OutputFormat → Bool
  | .csv | .github => false
  | _ => true

/-- The text of a table without rows, in the formats a person reads. -/
def noFindings : String := "No issues found."

end OutputFormat

/-- The formats used so far. -/
structure FormatUse where
  /-- The formats. -/
  used : List OutputFormat := []
  deriving DecidableEq, Repr

namespace FormatUse

/-- One more format. -/
def add (u : FormatUse) (f : OutputFormat) : FormatUse :=
  ⟨f :: u.used⟩

/-- The formats in the order they are listed. -/
def toList (u : FormatUse) : List OutputFormat :=
  OutputFormat.all.filter u.used.contains

end FormatUse

end Multilint
