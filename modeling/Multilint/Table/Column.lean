import Multilint.Finding
/-!
# Columns

A table of findings is a list of columns. Each column has a header, and a cell for every finding; a
missing value has an empty cell.
-/

namespace Multilint

/-- A column of a table of findings. -/
inductive Column where
  /-- The file. -/
  | file
  /-- The line. -/
  | line
  /-- The column of the text. -/
  | column
  /-- The rule. -/
  | code
  /-- The severity. -/
  | severity
  /-- The message. -/
  | message
  /-- Whether the tool can mend it. -/
  | fixable
  deriving DecidableEq, Repr, Inhabited

/-- A table: the headers, and rows of cells. -/
structure Table where
  /-- The headers. -/
  columns : List String
  /-- The rows. -/
  rows : List (List String)
  deriving DecidableEq, Repr, Inhabited

namespace Column

/-- Every column, in the order of the table that has them all. -/
def all : List Column :=
  [.file, .line, .column, .code, .severity, .message, .fixable]

/-- The header of a column. -/
def header : Column → String
  | .file => "File"
  | .line => "Line"
  | .column => "Column"
  | .code => "Code"
  | .severity => "Severity"
  | .message => "Message"
  | .fixable => "Fixable"

/-- The cell of a number that may be missing. -/
def numberCell (n : Option Nat) : String :=
  (n.map toString).getD ""

/-- The cell of a truth value. -/
def truthCell (b : Bool) : String :=
  if b then "true" else "false"

/-- The cell of a finding. -/
def cell (c : Column) (f : Finding) : String :=
  match c with
  | .file => f.file
  | .line => numberCell f.line
  | .column => numberCell f.column
  | .code => f.code
  | .severity => f.severity.name
  | .message => f.message
  | .fixable => truthCell f.fixable

end Column

namespace Table

/-- The columns for formatters, which name files only. -/
def fileColumns : List Column :=
  [.file, .code, .message]

/-- The columns for tools that give a line but no column. -/
def lineColumns : List Column :=
  [.file, .line, .code, .severity, .message]

/-- The columns for tools that give the place and the severity of a finding. -/
def placeColumns : List Column :=
  [.file, .line, .column, .code, .severity, .message]

/-- The cells of a finding. -/
def row (cs : List Column) (f : Finding) : List String :=
  cs.map (·.cell f)

/-- The table of findings in given columns. -/
def ofFindings (cs : List Column) (fs : List Finding) : Table :=
  { columns := cs.map Column.header, rows := fs.map (row cs) }

/-- The columns with the one for fixable findings, put at the end where it is missing. -/
def withFixable (cs : List Column) : List Column :=
  if cs.contains .fixable then cs else cs ++ [.fixable]

end Table

end Multilint
