import Multilint.Regex.Search
import Multilint.Text.Scan
/-!
# Versions in the output of a command

A tool may bring a regular expression whose first group is its version. Otherwise the version is the
first word of the output that is made of at most four groups of digits with dots between them; a word ends
where a word character and another one do not meet.
-/

namespace Multilint

namespace Version

open Text

/-- Whether no word character follows. -/
def endsWord (s : List Char) : Bool :=
  !s.head?.any isWord

/-- The digits that a text starts with, in any script, and up to so many more groups of digits, each
behind a dot; as many of them as leave a word end behind them. -/
def groups? : Nat → List Char → Option (List Char)
  | 0, s => do
    let (ds, r) ← spanSome? isNumeral s
    if endsWord r then some ds else none
  | more + 1, s => do
    let (ds, r) ← spanSome? isNumeral s
    match (after? ['.'] r).bind (groups? more) with
    | some l => some (ds ++ '.' :: l)
    | none => if endsWord r then some ds else none

/-- The first version in a text, given the character before it. -/
def findPlain? : Option Char → List Char → Option (List Char)
  | _, [] => none
  | before, c :: cs =>
    let here := if before.any isWord then none else groups? 3 (c :: cs)
    here.or (findPlain? (some c) cs)

/-- The version text in the output of a command. An expression that is refused is none. -/
def extract? (output : String) (pattern : Option String) : Option String :=
  match pattern.bind Regex.ofText? with
  | some r => r.find? 1 output
  | none => (findPlain? none output.toList).map String.ofList

end Version

end Multilint
