import Multilint.Finding
import Multilint.Text.Scan
import Multilint.Text.Numeral
/-!
# Findings on lines of their own

Formats in which one line of output is one finding, and any other line is none. A reader of such a
format is a function on lines, so no line has an influence on another one.
-/

namespace Multilint

namespace Findings

open Text

/-- The findings of the lines of a text, in order. -/
def ofLines (line? : List Char → Option Finding) (output : String) : List Finding :=
  (lines output.toList).filterMap line?

/-- The number that numerals of any script write; only ASCII digits have a value. -/
def number? (ds : List Char) : Option Nat :=
  Numeral.digits64? ds

/-! ## Compiler lines -/

/-- The words that give a severity in front of a message, in the order they are tried. -/
def severityWords : List String :=
  ["error", "warning", "warn", "note", "info"]

/-- The severity word in front of a message and the message: the word, and a colon between blanks
if there are any. -/
def severityAndMessage (s : List Char) : Option String × List Char :=
  let body := trimStart s
  let found := severityWords.findSome? fun w =>
    match (word? w body).map trimStart with
    | some (':' :: r) => some (w, trimStart r)
    | _ => none
  match found with
  | some (w, r) => (some w, r)
  | none => (none, body)

/-- A character of a code in brackets. -/
def isCodeChar (c : Char) : Bool :=
  isWord c || c == '.' || c == '/' || c == '-'

/-- What may follow the message: a code in brackets after blanks, or nothing, and then blanks. -/
def codeAtEnd? (s : List Char) : Option (Option (List Char)) :=
  let code := do
    let (_, r) ← spanSome? isBlank s
    let r ← word? "[" r
    let (code, r) ← spanSome? isCodeChar r
    let r ← word? "]" r
    if blankEnd r then some code else none
  match code with
  | some c => some (some c)
  | none => if blankEnd s then some none else none

/-- The column after a line number, and the text behind the colon that ends the place. -/
def columnAndBody? (s : List Char) : Option (Option (List Char) × List Char) := do
  let r ← word? ":" s
  let withColumn := do
    let (ds, r) ← spanSome? isNumeral r
    let r ← word? ":" r
    some (ds, r)
  match withColumn with
  | some (ds, r) => some (some ds, r)
  | none => some (none, r)

/-- The finding on a line `file:line[:column]: [severity:] message [code]`. The file starts with no
blank and holds no colon. -/
def compilerLine? (line : List Char) : Option Finding := do
  let (file, r) ← spanSome? (· ≠ ':') (trimEnd line)
  if file.head?.any isBlank then none
  let r ← word? ":" r
  let (row, r) ← spanSome? isNumeral r
  let (column, r) ← columnAndBody? r
  let (label, body) := severityAndMessage r
  let (message, code) ← shortest codeAtEnd? body
  return {
    file := String.ofList (trim file)
    message := String.ofList (trim message)
    line := number? row
    column := column.bind number?
    code := String.ofList (code.getD [])
    severity := (label.map Severity.ofLabel).getD .error }

/-- The findings of compiler-style output. -/
def ofCompilerOutput : String → List Finding :=
  ofLines compilerLine?

/-! ## Lines with a bracketed level -/

/-- A line, a column and a level behind a file: `:line:column: [level] `. -/
def placeAndLevel? (s : List Char) :
    Option (List Char × List Char × List Char × List Char) := do
  let r ← word? ":" s
  let (row, r) ← spanSome? isNumeral r
  let r ← word? ":" r
  let (column, r) ← spanSome? isNumeral r
  let r ← word? ": [" r
  let (level, r) ← spanSome? isWord r
  let r ← word? "] " r
  return (row, column, level, r)

/-- The end of a message: a rule in parentheses, or nothing. -/
def ruleAtEnd? (s : List Char) : Option (Option (List Char)) :=
  let rule := do
    let r ← word? " (" s
    let (rule, r) ← spanSome? (fun c => isWord c || c == '-') r
    let r ← word? ")" r
    if r.isEmpty then some rule else none
  match rule with
  | some r => some (some r)
  | none => if s.isEmpty then some none else none

/-- The finding on a line `file:line:column: [level] message (rule)`. -/
def levelLine? (line : List Char) : Option Finding := do
  let (file, row, column, level, r) ← shortestNonempty placeAndLevel? (trimEnd line)
  let (message, rule) ← shortest ruleAtEnd? r
  return {
    file := String.ofList file
    message := String.ofList message
    line := number? row
    column := number? column
    code := String.ofList (rule.getD [])
    severity := Severity.ofLabel (String.ofList level) }

/-- The findings of output with bracketed levels. -/
def ofLevelOutput : String → List Finding :=
  ofLines levelLine?

/-! ## Lists of files to be formatted -/

/-- The finding that a file is not formatted. -/
def unformatted (file : List Char) (message : String) (line : Option Nat) : Finding :=
  { file := String.ofList (trim file), message, line, code := "FORMAT", severity := .warning,
    fixable := true }

/-- The file behind a verb and blanks. -/
def fileAfterVerb? (verb : String) (s : List Char) : Option (List Char) := do
  let n := verb.length
  if String.ofList ((s.take n).map Char.toLower) ≠ verb then none
  let (_, file) ← spanSome? isBlank (s.drop n)
  if file.isEmpty then none else some file

/-- The finding on a line `would reformat file` or `reformatted file`, in any case of letters. -/
def reformatLine? (line : List Char) : Option Finding :=
  let s := trim line
  match fileAfterVerb? "would reformat" s with
  | some file => some (unformatted file "Would reformat file" none)
  | none => (fileAfterVerb? "reformatted" s).map (unformatted · "Reformatted file" none)

/-- The findings of output that lists files to reformat. -/
def ofReformatOutput : String → List Finding :=
  ofLines reformatLine?

/-- The length of the rest of a colour sequence behind its escape character. -/
def colourLength? (s : List Char) : Option Nat :=
  match s with
  | '[' :: r =>
    let ps := r.takeWhile fun c => Numeral.isDigit c || c == ';'
    if (r.drop ps.length).head? = some 'm' then some (ps.length + 2) else none
  | _ => none

/-- The text without colour sequences, the given number of characters being part of one. -/
def dropColoursAfter : Nat → List Char → List Char
  | _, [] => []
  | skip + 1, _ :: cs => dropColoursAfter skip cs
  | 0, c :: cs =>
    if c = '\x1b' then
      match colourLength? cs with
      | some n => dropColoursAfter n cs
      | none => c :: dropColoursAfter 0 cs
    else c :: dropColoursAfter 0 cs

/-- The text without the sequences that set colours. -/
def dropColours (s : List Char) : List Char :=
  dropColoursAfter 0 s

/-- What may follow a file in a list of warnings: a duration, or nothing. -/
def durationAtEnd? (s : List Char) : Option Unit :=
  let duration := do
    let (_, r) ← spanSome? isBlank s
    let (_, r) ← spanSome? isNumeral r
    let r ← word? "ms" r
    if r.isEmpty then some () else none
  match duration with
  | some _ => some ()
  | none => if s.isEmpty then some () else none

/-- The finding on a line `[warn] file`. The closing summary has the same form and names no
file. -/
def warnLine? (line : List Char) : Option Finding := do
  let r ← word? "[warn]" (trim line)
  let (_, r) ← spanSome? isBlank r
  let (file, _) ← shortest durationAtEnd? r
  let file := trim file
  if file.isEmpty || (word? "Code style issues" file).isSome then none
  return unformatted file "File needs formatting" none

/-- The findings of output that lists files after `[warn]`. -/
def ofWarnOutput (output : String) : List Finding :=
  (lines (dropColours output.toList)).filterMap warnLine?

/-- A line number behind a file: `at line` or a colon, digits, and perhaps a colon. -/
def diffPlace? (s : List Char) : Option (List Char) := do
  let r ← match word? " at line " s with
    | some r => some r
    | none => word? ":" s
  let (row, r) ← spanSome? isNumeral r
  let r := (word? ":" r).getD r
  if blankEnd r then some row else none

/-- The finding on the header `Diff in file at line n:` of a difference. -/
def diffLine? (line : List Char) : Option Finding := do
  let r ← word? "Diff in " (trimEnd line)
  let (file, row) ← shortestNonempty diffPlace? r
  return unformatted file "Formatting differs from rustfmt" (number? row)

/-- The findings of output that shows differences. -/
def ofDiffOutput : String → List Finding :=
  ofLines diffLine?

end Findings

end Multilint
