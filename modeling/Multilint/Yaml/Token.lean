import Multilint.Text.Numeral
/-!
# Tokens of YAML

A YAML text is a sequence of tokens. Indentation has become tokens of its own: a block of entries has a
token at its start and one at its end. `Spot` is the place that is being read.
-/

namespace Multilint

namespace Yaml

/-- How a scalar is written. -/
inductive ScalarStyle where
  /-- Without any mark. -/
  | plain
  /-- In quotes. -/
  | quoted
  /-- As a block that keeps its line breaks. -/
  | literal
  /-- As a block whose line breaks are folded. -/
  | folded
  deriving DecidableEq, Repr

/-- The octets of a tag or of a part of one. A tag may be written by escapes that make no text. -/
abbrev TagText := List UInt8

/-- A token. -/
inductive Token where
  /-- The version a document is written in. -/
  | version (supported : Bool)
  /-- What a tag handle stands for. -/
  | tagHandle (handle : String) (expansion : TagText)
  /-- A document starts. -/
  | documentStart
  /-- A document ends. -/
  | documentEnd
  /-- A block of entries starts. -/
  | blockSequenceStart
  /-- A block of keys and values starts. -/
  | blockMappingStart
  /-- A block ends. -/
  | blockEnd
  /-- A sequence in brackets starts. -/
  | flowSequenceStart
  /-- A sequence in brackets ends. -/
  | flowSequenceEnd
  /-- A mapping in braces starts. -/
  | flowMappingStart
  /-- A mapping in braces ends. -/
  | flowMappingEnd
  /-- An entry of a block. -/
  | blockEntry
  /-- A comma in brackets or braces. -/
  | flowEntry
  /-- A key follows. -/
  | key
  /-- A value follows. -/
  | value
  /-- The node of an anchor once more. -/
  | alias (name : String)
  /-- The node that follows gets a name. -/
  | anchor (name : String)
  /-- The node that follows has a tag: a handle, or nothing for a tag given in full, and the rest. -/
  | tag (handle : Option String) (rest : TagText)
  /-- A scalar. -/
  | scalar (style : ScalarStyle) (text : String)
  deriving DecidableEq, Repr

/-! ## Places in a text -/

/-- A place in a text. -/
structure Spot where
  /-- The text from here on. -/
  rest : List Char
  /-- The characters before. -/
  index : Nat := 0
  /-- The lines before. -/
  line : Nat := 0
  /-- The characters before on the same line. -/
  column : Nat := 0
  deriving Repr

/-- A character that ends a line. -/
def isBreak (c : Char) : Bool :=
  c == '\r' || c == '\n' || c == '\x85' || c == '\u2028' || c == '\u2029'

/-- A blank within a line. -/
def isBlank (c : Char) : Bool :=
  c == ' ' || c == '\t'

/-- A blank or the end of a line. -/
def isSpace (c : Char) : Bool :=
  isBlank c || isBreak c

/-- Whether a text is at its end, or goes on with a blank or the end of a line. -/
def spaceAhead (s : List Char) : Bool :=
  s.head?.all isSpace

/-- A character that may stand in a text. -/
def isAllowed (c : Char) : Bool :=
  let n := c.toNat
  n == 9 || n == 10 || n == 13 || (0x20 ≤ n && n ≤ 0x7E) || n == 0x85 ||
    (0xA0 ≤ n && n ≤ 0xD7FF) || (0xE000 ≤ n && n ≤ 0xFFFD) || 0x10000 ≤ n

namespace Spot

/-- Some characters further on the same line. -/
def skip (s : Spot) (n : Nat) : Spot :=
  { s with rest := s.rest.drop n, index := s.index + n, column := s.column + n }

/-- Behind the end of the line that stands here, and the break it writes. -/
def newline (s : Spot) : List Char × Spot :=
  match s.rest with
  | '\r' :: '\n' :: cs => (['\n'], ⟨cs, s.index + 2, s.line + 1, 0⟩)
  | c :: cs =>
    (if c == '\u2028' || c == '\u2029' then [c] else ['\n'], ⟨cs, s.index + 1, s.line + 1, 0⟩)
  | [] => ([], s)

/-- Behind the characters of a class that come next. -/
def skipWhile (p : Char → Bool) (s : Spot) : Spot :=
  s.skip (s.rest.takeWhile p).length

/-- Whether a mark of a document stands here: three equal characters at the start of a line, and then
a blank. -/
def documentMark (s : Spot) : Option Token :=
  if s.column ≠ 0 then none
  else
    match s.rest with
    | '-' :: '-' :: '-' :: cs => if spaceAhead cs then some .documentStart else none
    | '.' :: '.' :: '.' :: cs => if spaceAhead cs then some .documentEnd else none
    | _ => none

end Spot

end Yaml

end Multilint
