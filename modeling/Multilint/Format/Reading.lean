import Multilint.Format.Markup
import Multilint.Format.Workflow
/-!
# Reading tables back

What a program makes of the formats that escape what has a meaning in them: records of fields, workflow
commands, cells between bars, and tags with texts between them. Each reader follows the rules of its format
and knows nothing of how the tables were written.
-/

namespace Multilint

/-! ## Records of fields -/

namespace Records

/-- A field in quotes behind the opening one, and what follows the closing one. A quote inside is written
twice. -/
def quoted : List Char → Option (List Char × List Char)
  | [] => none
  | '"' :: '"' :: rest => (quoted rest).map fun (f, r) => ('"' :: f, r)
  | '"' :: rest => some ([], rest)
  | c :: rest => (quoted rest).map fun (f, r) => (c :: f, r)

/-- A character of a field without quotes. -/
def isPlain (c : Char) : Bool :=
  c ≠ ',' && c ≠ '\n' && c ≠ '"'

/-- A field and what follows it. -/
def field? : List Char → Option (List Char × List Char)
  | '"' :: rest => quoted rest
  | s => some (s.takeWhile isPlain, s.dropWhile isPlain)

/-- The fields of a record up to the end of its line, of which there are at most so many, and what follows
the line feed, if there is one. -/
def fields? : Nat → List Char → Option (List (List Char) × Option (List Char))
  | 0, _ => none
  | n + 1, s => do
    let (f, rest) ← field? s
    match rest with
    | [] => return ([f], none)
    | ',' :: rest => do
      let (fs, rest) ← fields? n rest
      return (f :: fs, rest)
    | '\n' :: rest => return ([f], some rest)
    | _ => none

/-- The records of a text, of which there are at most so many. -/
def records? : Nat → List Char → Option (List (List (List Char)))
  | 0, _ => none
  | n + 1, s => do
    let (r, rest) ← fields? (s.length + 1) s
    match rest with
    | none => return [r]
    | some rest => return r :: (← records? n rest)

/-- The records of a text. -/
def ofText? (s : String) : Option (List (List String)) :=
  (records? (s.length + 1) s.toList).map (·.map (·.map String.ofList))

end Records

/-! ## Workflow commands -/

namespace Workflow

/-- A command as it is understood. -/
structure Understood where
  /-- The name of the command. -/
  level : String
  /-- The properties and their values. -/
  properties : List (String × String)
  /-- The message. -/
  message : String
  deriving DecidableEq, Repr

/-- The text that escapes of a message stand for. -/
def unescapeData : List Char → List Char
  | '%' :: '2' :: '5' :: rest => '%' :: unescapeData rest
  | '%' :: '0' :: 'D' :: rest => '\r' :: unescapeData rest
  | '%' :: '0' :: 'A' :: rest => '\n' :: unescapeData rest
  | c :: rest => c :: unescapeData rest
  | [] => []

/-- The text that escapes of a property stand for. -/
def unescapeProperty : List Char → List Char
  | '%' :: '2' :: '5' :: rest => '%' :: unescapeProperty rest
  | '%' :: '0' :: 'D' :: rest => '\r' :: unescapeProperty rest
  | '%' :: '0' :: 'A' :: rest => '\n' :: unescapeProperty rest
  | '%' :: '3' :: 'A' :: rest => ':' :: unescapeProperty rest
  | '%' :: '2' :: 'C' :: rest => ',' :: unescapeProperty rest
  | c :: rest => c :: unescapeProperty rest
  | [] => []

/-- The text in front of the next two colons, and the text behind them. -/
def untilColons : List Char → Option (List Char × List Char)
  | ':' :: ':' :: rest => some ([], rest)
  | c :: rest => (untilColons rest).map fun (a, r) => (c :: a, r)
  | [] => none

/-- A property: its key up to the equals sign, and its value. -/
def property? (s : List Char) : Option (String × String) :=
  match s.dropWhile (· ≠ '=') with
  | '=' :: value =>
    some (String.ofList (s.takeWhile (· ≠ '=')), String.ofList (unescapeProperty value))
  | _ => none

/-- The command that a line is. -/
def ofLine? : List Char → Option Understood
  | ':' :: ':' :: rest => do
    let (front, data) ← untilColons rest
    let level := front.takeWhile (· ≠ ' ')
    let listed := (front.drop level.length).dropWhile (· = ' ')
    let properties ← if listed.isEmpty then some [] else (Text.splitOn ',' listed).mapM property?
    return ⟨String.ofList level, properties, String.ofList (unescapeData data)⟩
  | _ => none

end Workflow

namespace Table

/-! ## Bars -/

/-- The lines of a text. A line feed ends a line, and so does a carriage return, with the line feed directly
behind it if there is one; behind the last ending there is one more line. -/
def barLines : List Char → List (List Char)
  | [] => [[]]
  | '\n' :: rest => [] :: barLines rest
  | '\r' :: '\n' :: rest => [] :: barLines rest
  | '\r' :: rest => [] :: barLines rest
  | c :: rest => Text.consLine c (barLines rest)

/-- The cells of a line between bars: a bar ends a cell unless a backslash stands in front of it, and a
backslash takes the meaning from the character behind it. -/
def splitBars : List Char → List (List Char)
  | [] => [[]]
  | '\\' :: c :: rest =>
    match splitBars rest with
    | [] => [['\\', c]]
    | p :: ps => ('\\' :: c :: p) :: ps
  | '|' :: rest => [] :: splitBars rest
  | c :: rest =>
    match splitBars rest with
    | [] => [[c]]
    | p :: ps => (c :: p) :: ps

/-- The cells of a line that starts and ends with a bar, as they stand. -/
def barCells (line : List Char) : List (List Char) :=
  ((splitBars line).drop 1).dropLast

/-! ## Elements -/

/-- A tag, or a text between tags. -/
inductive Element where
  /-- What stands between angle brackets. -/
  | tag (name : List Char)
  /-- A text, its entities undone. -/
  | text (s : List Char)
  deriving DecidableEq, Repr

/-- The text that entities stand for. -/
def unescapeHtml : List Char → List Char
  | '&' :: 'a' :: 'm' :: 'p' :: ';' :: rest => '&' :: unescapeHtml rest
  | '&' :: 'l' :: 't' :: ';' :: rest => '<' :: unescapeHtml rest
  | '&' :: 'g' :: 't' :: ';' :: rest => '>' :: unescapeHtml rest
  | '&' :: 'q' :: 'u' :: 'o' :: 't' :: ';' :: rest => '"' :: unescapeHtml rest
  | '&' :: '#' :: 'x' :: '2' :: '7' :: ';' :: rest => '\'' :: unescapeHtml rest
  | c :: rest => c :: unescapeHtml rest
  | [] => []

/-- The elements of a text of which at most so many characters are read; none where a tag does not end. -/
def elements? : Nat → List Char → Option (List Element)
  | 0, _ => none
  | _ + 1, [] => some []
  | n + 1, '<' :: rest =>
    match rest.dropWhile (· ≠ '>') with
    | '>' :: behind => (elements? n behind).map (.tag (rest.takeWhile (· ≠ '>')) :: ·)
    | _ => none
  | n + 1, s =>
    (elements? n (s.dropWhile (· ≠ '<'))).map
      (.text (unescapeHtml (s.takeWhile (· ≠ '<'))) :: ·)

/-- The name of a tag. -/
def Element.tag? : Element → Option String
  | .tag name => some (String.ofList name)
  | .text _ => none

/-- The texts of the cells in front of the end of a row, the rows in order. A cell without a text is empty. -/
def cellsOf : List Element → List (List (List Char))
  | [] => []
  | .tag name :: rest =>
    if name = "/tr".toList then [] :: cellsOf rest
    else if name = "td".toList || name = "th".toList then
      match cellsOf rest, rest with
      | row :: rows, .text s :: _ => (s :: row) :: rows
      | row :: rows, _ => ([] :: row) :: rows
      | [], _ => []
    else cellsOf rest
  | .text _ :: rest => cellsOf rest

end Table

end Multilint
