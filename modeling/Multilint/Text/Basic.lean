/-!
# Lines, blanks and separators

Texts are cut and trimmed as lists of characters. `Text.lines` ends a line at a line feed, with the
carriage return before it when there is one; `Text.trim` removes the characters of the Unicode
property White_Space at both ends.
-/

namespace Multilint

namespace Text

/-! ## Blank characters -/

/-- A character of the Unicode property White_Space. -/
def isBlank (c : Char) : Bool :=
  let n := c.toNat
  (0x9 ≤ n && n ≤ 0xD) || n == 0x20 || n == 0x85 || n == 0xA0 || n == 0x1680 ||
    (0x2000 ≤ n && n ≤ 0x200A) || n == 0x2028 || n == 0x2029 || n == 0x202F || n == 0x205F ||
    n == 0x3000

/-- The text without the blanks it starts with. -/
def trimStart (s : List Char) : List Char :=
  s.dropWhile isBlank

/-- The text without the blanks it ends with. -/
def trimEnd (s : List Char) : List Char :=
  (s.reverse.dropWhile isBlank).reverse

/-- The text without blanks at either end. -/
def trim (s : List Char) : List Char :=
  trimEnd (trimStart s)

/-- The string without blanks at either end. -/
def trimmed (s : String) : String :=
  String.ofList (trim s.toList)

/-! ## Lines -/

/-- One more character in front of the first line; a line of its own where there is none. -/
def consLine (c : Char) : List (List Char) → List (List Char)
  | [] => [[c]]
  | l :: ls => (c :: l) :: ls

/-- The lines of a text. A line feed ends a line, and a carriage return directly before it belongs
to the ending; a text that ends with a line feed has no empty last line. -/
def lines : List Char → List (List Char)
  | [] => []
  | '\n' :: cs => [] :: lines cs
  | '\r' :: '\n' :: cs => [] :: lines cs
  | c :: cs => consLine c (lines cs)

/-- The lines of a string. -/
def stringLines (s : String) : List String :=
  (lines s.toList).map String.ofList

/-! ## Separators -/

/-- The pieces of a text between the occurrences of a separator; always at least one. -/
def splitOn (sep : Char) : List Char → List (List Char)
  | [] => [[]]
  | c :: cs =>
    if c = sep then [] :: splitOn sep cs
    else
      match splitOn sep cs with
      | [] => [[c]]
      | p :: ps => (c :: p) :: ps

/-- The pieces of a string between the occurrences of a separator. -/
def pieces (sep : Char) (s : String) : List String :=
  (splitOn sep s.toList).map String.ofList

/-- The words of a text, with blanks between them. -/
def words (s : List Char) : List (List Char) :=
  (splitOn ' ' (s.map fun c => if isBlank c then ' ' else c)).filter fun w => !w.isEmpty

/-- The trimmed, non-empty pieces of a comma-separated list. -/
def commaList (s : String) : List String :=
  ((pieces ',' s).map trimmed).filter (· ≠ "")

/-- The rest of a text after a given beginning, if it begins so. -/
def after? : List Char → List Char → Option (List Char)
  | [], s => some s
  | _ :: _, [] => none
  | p :: ps, c :: cs => if p = c then after? ps cs else none

/-- Whether a text occurs in another one. -/
def occursIn (needle : List Char) : List Char → Bool
  | [] => needle.isEmpty
  | c :: cs => (after? needle (c :: cs)).isSome || occursIn needle cs

/-- The text with each occurrence of one character written as a text of its own. -/
def substitute (c : Char) (by' : List Char) (s : List Char) : List Char :=
  s.flatMap fun x => if x = c then by' else [x]

/-! ## Letters -/

/-- The string with its ASCII letters in lower case. -/
def lower (s : String) : String :=
  String.ofList (s.toList.map Char.toLower)

/-- Equality of strings that does not see the case of ASCII letters. -/
def sameLetters (a b : String) : Bool :=
  lower a == lower b

/-- The number of bytes a text takes in UTF-8. -/
def byteCount (s : List Char) : Nat :=
  s.foldr (fun c n => c.utf8Size + n) 0

end Text

end Multilint
