import Multilint.Format.Basic
import Multilint.Table.Column
import Multilint.Text.Numeral
import Multilint.Text.Width
/-!
# Tables of aligned columns

Both formats set the cells of a column to one width, with a blank on each side; a cell of several lines
makes its row several lines high. The box draws lines around every cell, and sets columns of numbers to the
right.
-/

namespace Multilint

namespace Table

/-- The cell in a column of a row; empty where the row is too short. -/
def cellAt (row : List String) (i : Nat) : String :=
  row.getD i ""

/-- The cells of a row, one for each column. -/
def padded (t : Table) (row : List String) : List String :=
  (List.range t.columns.length).map (cellAt row)

/-- The lines of a cell. -/
def cellLines (cell : String) : List (List Char) :=
  Text.splitOn '\n' cell.toList

/-- The columns the widest line of a cell takes. -/
def cellWidth (cell : String) : Nat :=
  ((cellLines cell).map Text.width).foldl max 0

/-- The widths of the columns. -/
def widths (t : Table) : List Nat :=
  (List.range t.columns.length).map fun i =>
    ((t.columns :: t.rows).map fun row => cellWidth (cellAt row i)).foldl max 0

/-- Whether a column has a value and every value in it is a number. -/
def isNumeric (t : Table) (i : Nat) : Bool :=
  let cells := (t.rows.map fun row => cellAt row i).filter (· ≠ "")
  !cells.isEmpty && cells.all fun c => Numeral.isFloat c.toList

/-- A number of equal characters. -/
def run (c : Char) (n : Nat) : List Char :=
  List.replicate n c

/-- A line of a cell, set to a width and between blanks. -/
def setLine (right : Bool) (width : Nat) (line : List Char) : List Char :=
  let fill := run ' ' (width - Text.width line)
  [' '] ++ (if right then fill ++ line else line ++ fill) ++ [' ']

/-- How a column is set. -/
structure Setting where
  /-- The width of its cells. -/
  width : Nat
  /-- Its cells are set to the right. -/
  right : Bool

/-- The lines of a row: the cells side by side with a character between them. -/
def rowLines (between : Char) (settings : List Setting) (cells : List String) :
    List (List Char) :=
  let blocks := cells.map cellLines
  let height := (blocks.map List.length).foldl max 0
  (List.range height).map fun k =>
    [between].intercalate
      ((settings.zip blocks).map fun (s, block) => setLine s.right s.width (block.getD k []))

/-- A line across the table: a run for each column and a character between them. -/
def ruleLine (across between : Char) (settings : List Setting) : List Char :=
  [between].intercalate (settings.map fun s => run across (s.width + 2))

/-- Lines as a text. -/
def joinLines (ls : List (List Char)) : String :=
  String.ofList (['\n'].intercalate ls)

/-- The columns under a dashed line, without blanks at the ends of lines. -/
def plainText (t : Table) : String :=
  if t.rows.isEmpty then OutputFormat.noFindings
  else
    let settings := t.widths.map fun w => Setting.mk w false
    let body := joinLines
      (rowLines ' ' settings t.columns ++ [ruleLine '-' '-' settings] ++
        t.rows.flatMap fun row => rowLines ' ' settings (t.padded row))
    joinLines ((Text.lines body.toList).map Text.trimEnd)

/-- A line between two edges. -/
def edged (edge : Char) (line : List Char) : List Char :=
  [edge] ++ line ++ [edge]

/-- The box. -/
def gridText (t : Table) : String :=
  if t.rows.isEmpty then OutputFormat.noFindings
  else
    let settings := t.widths.zipIdx.map fun (w, i) => Setting.mk w (t.isNumeric i)
    let border := edged '+' (ruleLine '-' '+' settings)
    let cells row := (rowLines '|' settings row).map (edged '|')
    joinLines
      ([border] ++ cells t.columns ++ [edged '+' (ruleLine '=' '=' settings)] ++
        [edged '|' (ruleLine '-' '+' settings)].intercalate
          (t.rows.map fun row => cells (t.padded row)) ++
        [border])

end Table

end Multilint
