import Multilint.Format.Boxed
/-!
# Tables as markup and as fields

Three formats that escape what has a meaning in them: tables of bars, tables of elements, and fields with
commas between them. A table without rows is no text at all.
-/

namespace Multilint

namespace Table

/-! ## Bars -/

/-- A cell between bars: a bar gets a backslash, and a line break becomes a blank. -/
def barCell (cell : String) : String :=
  String.ofList (cell.toList.flatMap fun c =>
    if c = '|' then ['\\', '|'] else if c = '\n' then [' '] else [c])

/-- A row between bars. -/
def barRow (cells : List String) : String :=
  "| " ++ " | ".intercalate cells ++ " |"

/-- The line below the headers. -/
def barRule (columns : List String) : String :=
  "|" ++ "|".intercalate (columns.map fun _ => "---") ++ "|"

/-- The table of bars. -/
def markdownText (t : Table) : String :=
  if t.rows.isEmpty then ""
  else
    "\n".intercalate
      ([barRow t.columns, barRule t.columns] ++
        t.rows.map fun row => barRow ((t.padded row).map barCell))

/-! ## Elements -/

/-- A character of a text between tags or quotes. -/
def entity (c : Char) : String :=
  if c = '&' then "&amp;"
  else if c = '<' then "&lt;"
  else if c = '>' then "&gt;"
  else if c = '"' then "&quot;"
  else if c = '\'' then "&#x27;"
  else String.singleton c

/-- A text between tags or quotes. -/
def escapeHtml (s : String) : String :=
  String.join (s.toList.map entity)

/-- The lines of a row of elements. -/
def elementRow (tag : String) (cells : List String) : List String :=
  ["    <tr>"] ++
    cells.map (fun c => "      <" ++ tag ++ ">" ++ escapeHtml c ++ "</" ++ tag ++ ">") ++
    ["    </tr>"]

/-- The table of elements. -/
def htmlText (t : Table) : String :=
  if t.rows.isEmpty then ""
  else
    "\n".intercalate
      (["<table>", "  <thead>"] ++ elementRow "th" t.columns ++ ["  </thead>", "  <tbody>"] ++
        t.rows.flatMap (fun row => elementRow "td" (t.padded row)) ++
        ["  </tbody>", "</table>"])

/-! ## Fields -/

/-- Whether a field has to stand in quotes. -/
def needsQuotes (field : String) : Bool :=
  field.toList.any fun c => c == ',' || c == '"' || c == '\n' || c == '\r'

/-- A field; a quote inside quotes is written twice. -/
def csvField (field : String) : String :=
  if needsQuotes field then
    "\"" ++ String.ofList (Text.substitute '"' ['"', '"'] field.toList) ++ "\""
  else field

/-- A record of fields. -/
def csvRecord (fields : List String) : String :=
  ",".intercalate (fields.map csvField)

/-- The records of a table, the headers first. -/
def csvText (t : Table) : String :=
  if t.rows.isEmpty then ""
  else "\n".intercalate (csvRecord t.columns :: t.rows.map fun row => csvRecord (t.padded row))

end Table

end Multilint
