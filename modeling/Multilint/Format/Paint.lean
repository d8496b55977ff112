/-!
# Colours

Texts on a terminal between the sequences that switch a colour or a weight on and off.
-/

namespace Multilint

/-- A colour of a text. -/
inductive Colour where
  /-- For errors. -/
  | red
  /-- For what deserves a second look. -/
  | yellow
  /-- For what is good to know. -/
  | blue
  /-- For headings. -/
  | cyan
  deriving DecidableEq, Repr

namespace Colour

/-- The number of a colour. -/
def number : Colour → String
  | .red => "31"
  | .yellow => "33"
  | .blue => "34"
  | .cyan => "36"

/-- A sequence that changes how a terminal writes. -/
def sequence (n : String) : String :=
  "\x1b[" ++ n ++ "m"

/-- A text in a colour. -/
def paint (c : Colour) (s : String) : String :=
  sequence c.number ++ s ++ sequence "39"

/-- A bold text. -/
def bold (s : String) : String :=
  sequence "1" ++ s ++ sequence "0"

end Colour

/-- The notes beside a report that say what they are. -/
inductive NoteKind where
  /-- What ended a run. -/
  | error
  /-- What deserves a second look. -/
  | note
  /-- What is good to know. -/
  | info
  deriving DecidableEq, Repr

namespace NoteKind

/-- The label of a note. -/
def label : NoteKind → String
  | .error => "error:"
  | .note => "note:"
  | .info => "info:"

/-- The colour of a label. -/
def colour : NoteKind → Colour
  | .error => .red
  | .note => .yellow
  | .info => .blue

/-- What a note starts with. -/
def lead (k : NoteKind) (color : Bool) : String :=
  if color then Colour.bold (k.colour.paint k.label) else k.label

end NoteKind

end Multilint
