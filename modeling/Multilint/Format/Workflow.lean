import Multilint.Format.Boxed
import Multilint.Severity
/-!
# Workflow commands

Each row of a table becomes one command on a line of its own. The properties of a command come from the
columns of the names a person would look for; what would end a property or a line is escaped.
-/

namespace Multilint

namespace Workflow

/-- A character of the message of a command. -/
def escapeDataChar (c : Char) : String :=
  if c = '%' then "%25"
  else if c = '\r' then "%0D"
  else if c = '\n' then "%0A"
  else String.singleton c

/-- The message of a command. -/
def escapeData (s : String) : String :=
  String.join (s.toList.map escapeDataChar)

/-- A character of a property of a command. -/
def escapePropertyChar (c : Char) : String :=
  if c = ':' then "%3A" else if c = ',' then "%2C" else escapeDataChar c

/-- A property of a command. -/
def escapeProperty (s : String) : String :=
  String.join (s.toList.map escapePropertyChar)

/-- The command for a severity. -/
def level : Severity → String
  | .error => "error"
  | .warning => "warning"
  | .info => "notice"

/-- The command for a severity as it stands in a cell. -/
def levelOfCell (cell : String) : String :=
  if cell = "" then "warning" else level (Severity.ofLabel cell)

/-- The cell of a row below a header, whatever the case of its letters; empty where there is none. -/
def named (columns row : List String) (header : String) : String :=
  match columns.findIdx? (Text.sameLetters · header) with
  | some i => Table.cellAt row i
  | none => ""

/-- The title of a command: the tool, the code, or both. -/
def title? (tool : Option String) (code : String) : Option String :=
  match tool with
  | some t => some (if code = "" then t else t ++ "(" ++ code ++ ")")
  | none => if code = "" then none else some code

/-- A property where there is a value for it. -/
def property (key : String) (value : String) : List String :=
  if value = "" then [] else [key ++ "=" ++ value]

/-- The command of a row. -/
def command (tool : Option String) (columns row : List String) : String :=
  let get := named columns row
  let properties :=
    property "file" (escapeProperty (get "file")) ++ property "line" (get "line") ++
      property "col" (get "column") ++
      ((title? tool (get "code")).map fun t => "title=" ++ escapeProperty t).toList
  "::" ++ levelOfCell (get "severity") ++ " " ++ ",".intercalate properties ++ "::" ++
    escapeData (get "message")

/-- The commands of a table. -/
def ofTable (tool : Option String) (t : Table) : String :=
  "\n".intercalate (t.rows.map (command tool t.columns))

end Workflow

end Multilint
