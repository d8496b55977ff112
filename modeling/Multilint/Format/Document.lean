import Multilint.Format.Boxed
import Multilint.Json.Printer
/-!
# JSON documents

A table becomes an object with the rows as typed records and counts of them. Every document carries the
time it was made at, which is given.
-/

namespace Multilint

namespace Document

/-- The version of the documents. -/
def formatVersion : String := "1.0"

/-- What is said about a document. -/
def metadata (stamp : String) : List (String × Json) :=
  [("timestamp", .string stamp), ("format_version", .string formatVersion)]

/-- The key of a header: without outer blanks, in lower case, and underscores for spaces. -/
def keyOf (header : String) : String :=
  String.ofList
    ((Text.lower (Text.trimmed header)).toList.map fun c => if c = ' ' then '_' else c)

/-- The value of a cell. An empty cell has none; places are numbers and the fixable mark is a truth value
where the cell writes one. -/
def cellValue (key cell : String) : Json :=
  if cell = "" then .null
  else if key = "line" || key = "column" then
    match Numeral.unsigned64? cell.toList with
    | some n => .nat n
    | none => .string cell
  else if key = "fixable" then
    if cell = "true" then .bool true
    else if cell = "false" then .bool false
    else .string cell
  else .string cell

/-- The record of a row. Of two columns with one key the last one counts, in the place of the first. -/
def record (keys row : List String) : List (String × Json) :=
  keys.zipIdx.foldl
    (fun ms (key, i) => Json.put ms key (((row[i]?).map (cellValue key)).getD .null)) []

/-- The label under which a record is counted. -/
def labelOf (key : String) (r : List (String × Json)) : String :=
  match (r.find? (·.1 = key)).map (·.2) with
  | some (Json.string s) => s
  | _ => "unknown"

/-- Counts with one more for a label. -/
def countLabel (counts : List (String × Nat)) (label : String) : List (String × Nat) :=
  if counts.any (·.1 = label) then
    counts.map fun c => if c.1 = label then (label, c.2 + 1) else c
  else counts ++ [(label, 1)]

/-- How often each label of a key occurs, in the order of first occurrence. -/
def countBy (key : String) (records : List (List (String × Json))) : List (String × Nat) :=
  (records.map (labelOf key)).foldl countLabel []

/-- The counts of a key as a member of a summary, where records have the key. -/
def countMember (name key : String) (records : List (List (String × Json))) :
    List (String × Json) :=
  if records.any fun r => r.any (·.1 = key) then
    [(name, .object ((countBy key records).map fun (l, n) => (l, .nat n)))]
  else []

/-- The summary of records. -/
def summary (records : List (List (String × Json))) : List (String × Json) :=
  [("total_issues", .nat records.length), ("has_issues", .bool !records.isEmpty)] ++
    countMember "by_severity" "severity" records ++ countMember "by_file" "file" records ++
    countMember "by_code" "code" records

/-- The records of a table. -/
def records (t : Table) : List (List (String × Json)) :=
  t.rows.map (record (t.columns.map keyOf))

/-- The members of the object of a table. -/
def toolMembers (stamp : String) (t : Table) : List (String × Json) :=
  let rs := records t
  [("metadata", .object (metadata stamp)), ("summary", .object (summary rs)),
    ("issues", .array (rs.map .object))]

/-- The document about several tools. -/
def ofTools (stamp : String) (extra : List (String × Json)) (tools : List (String × Json))
    (findings skipped : Nat) : Json :=
  .object [("results", .object
    [("metadata", .object (metadata stamp ++ [("format", .string "json")] ++ extra)),
      ("summary", .object
        [("total_tools", .nat tools.length), ("total_issues", .nat findings),
          ("has_issues", .bool (findings > 0)), ("skipped_tools", .nat skipped)]),
      ("tools", .object tools)])]

/-- The document of a table, by itself or under the name of its tool. -/
def ofTable (stamp : String) (tool : Option String) (t : Table) : Json :=
  let obj := Json.object (toolMembers stamp t)
  match tool with
  | none => obj
  | some name => ofTools stamp [] [(name, obj)] t.rows.length 0

end Document

end Multilint
