import Multilint.Findings.Lines
/-!
# Findings in blocks of lines

Formats in which a line depends on the ones before it: a message that goes on over several lines, and
findings below the name of their file. Both readers walk down the lines once, with the open block
as their state.
-/

namespace Multilint

namespace Findings

open Text

/-! ## Messages of several lines -/

/-- The place, the code and the message behind a file: `line: code message`, or the same behind the
name of an object. -/
def codeAndMessage? (s : List Char) : Option (List Char × List Char × List Char) := do
  let (row, r) ← spanSome? isNumeral s
  let r ← word? ": D" r
  let letters := r.takeWhile fun c => 'A' ≤ c && c ≤ 'Z'
  let (ds, r) ← spanSome? isNumeral (r.drop letters.length)
  let r := (word? ":" r).getD r
  let message ← word? " " r
  return (row, 'D' :: letters ++ ds, message)

/-- The finding that a header `file:[object:]line: code message` opens. -/
def header? (line : List Char) : Option Finding := do
  let (file, r) ← spanSome? (· ≠ ':') line
  let r ← word? ":" r
  let behindObject := do
    let r ← word? ":" (r.dropWhile (· ≠ ':'))
    codeAndMessage? r
  let (row, code, message) ← match behindObject with
    | some found => some found
    | none => codeAndMessage? r
  return {
    file := String.ofList file
    message := String.ofList message
    line := number? row
    code := String.ofList code
    severity := .warning }

/-- Whether a line goes on with the message above it: it is indented by four blanks, or a colon is
the first thing on it. -/
def isContinuation (line : List Char) : Bool :=
  (trimStart line).head? == some ':' || (word? "    " line).isSome

/-- A finding whose message goes on with a line, without the line's colons and outer blanks. -/
def continued (f : Finding) (line : List Char) : Finding :=
  { f with message := f.message ++ " " ++ String.ofList (trim ((trim line).dropWhile (· = ':'))) }

/-- The findings of lines below an open block. -/
def messagesBelow : Option Finding → List (List Char) → List Finding
  | block, [] => block.toList
  | some f, l :: ls =>
    if isContinuation l then messagesBelow (some (continued f l)) ls
    else f :: messagesBelow (header? l) ls
  | none, l :: ls => messagesBelow (header? l) ls

/-- The findings of output with messages of several lines. -/
def ofMessageBlocks (output : String) : List Finding :=
  messagesBelow none (lines output.toList)

/-! ## Findings below their file -/

/-- The line, the code and the message of an indented line `line: DOCn: message`. -/
def indentedLine? (line : List Char) : Option (List Char × List Char × List Char) := do
  let (_, r) ← spanSome? isBlank line
  let (row, r) ← spanSome? isNumeral r
  let r ← word? ": DOC" r
  let (ds, r) ← spanSome? isNumeral r
  let message ← word? ": " r
  return (row, "DOC".toList ++ ds, message)

/-- The findings of lines below the name of a file. A line that starts with no blank names the next
file. -/
def findingsBelow : List Char → List (List Char) → List Finding
  | _, [] => []
  | file, l :: ls =>
    match indentedLine? l with
    | some (row, code, message) =>
      { file := String.ofList file
        message := String.ofList (trim message)
        line := number? row
        code := String.ofList code
        severity := .warning } :: findingsBelow file ls
    | none =>
      match l with
      | c :: _ => findingsBelow (if isBlank c then file else trim l) ls
      | [] => findingsBelow file ls

/-- The findings of output grouped by file. -/
def ofFileGroups (output : String) : List Finding :=
  findingsBelow [] (lines output.toList)

end Findings

end Multilint
