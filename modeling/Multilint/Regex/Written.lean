import Multilint.Text.CharSet
/-!
# Written expressions

The parts of a regular expression as they are written, with the flags still standing where they were set.
How deep the parts lie within each other is limited, and `Written.height` tells how deep they do.
-/

namespace Multilint

namespace Regex

/-! ## Flags -/

/-- What a flag switches. -/
inductive Flag where
  /-- Letters stand for all their spellings. -/
  | anyCase
  /-- Anchors stand for lines. -/
  | byLine
  /-- A dot takes line ends too. -/
  | dotAll
  /-- Repetitions prefer to be short. -/
  | lazy
  /-- Classes are those of Unicode, not of ASCII. -/
  | unicode
  /-- A carriage return ends a line too. -/
  | crlf
  /-- Blanks and comments say nothing. -/
  | spaced
  deriving DecidableEq, Repr

/-- How an expression is to be understood. -/
structure Flags where
  /-- Letters stand for all their spellings. -/
  anyCase : Bool := false
  /-- Anchors stand for lines. -/
  byLine : Bool := false
  /-- A dot takes line ends too. -/
  dotAll : Bool := false
  /-- Repetitions prefer to be short. -/
  lazy : Bool := false
  /-- Classes are those of Unicode, not of ASCII. -/
  unicode : Bool := true
  /-- A carriage return ends a line too. -/
  crlf : Bool := false
  deriving DecidableEq, Repr

/-- Flags that are switched on or off. -/
abbrev FlagChange := List (Flag × Bool)

/-- Flags after one of them has been switched. Blanks count for the reader only. -/
def Flags.switch (f : Flags) : Flag × Bool → Flags
  | (.anyCase, on) => { f with anyCase := on }
  | (.byLine, on) => { f with byLine := on }
  | (.dotAll, on) => { f with dotAll := on }
  | (.lazy, on) => { f with lazy := on }
  | (.unicode, on) => { f with unicode := on }
  | (.crlf, on) => { f with crlf := on }
  | (.spaced, _) => f

/-- Flags after a change. -/
def Flags.change (f : Flags) (c : FlagChange) : Flags := c.foldl Flags.switch f

/-! ## Characters and sets -/

/-- A character that stands for itself. -/
structure Letter where
  /-- The character. -/
  char : Char
  /-- Whether it is written as an octet, by two hexadecimal digits. -/
  octet : Bool := false
  deriving DecidableEq, Repr

/-- A class with an escape of its own. -/
inductive Shorthand where
  /-- The decimal digits. -/
  | numeral
  /-- The blanks. -/
  | blank
  /-- The word characters. -/
  | word
  deriving DecidableEq, Repr

/-- An operation on two sets. -/
inductive SetOperation where
  /-- The characters of both. -/
  | inter
  /-- The characters of the first but not of the second. -/
  | diff
  /-- The characters of just one. -/
  | symmDiff
  deriving DecidableEq, Repr

/-- A set as it is written. -/
inductive WrittenSet where
  /-- A character. -/
  | letter (l : Letter)
  /-- The characters from one to another. -/
  | range (lo hi : Letter)
  /-- A class of ASCII characters, or what is outside of it. -/
  | asciiClass (s : CharSet) (negated : Bool)
  /-- A class with an escape of its own, or what is outside of it. -/
  | shorthand (s : Shorthand) (negated : Bool)
  /-- The characters of a property, or those for which it has a value, or the others. -/
  | property (name : String) (value : Option String) (negated : Bool)
  /-- A set in brackets, or what is outside of it. -/
  | bracketed (negated : Bool) (s : WrittenSet)
  /-- The members of a set, one after another. -/
  | members (items : List WrittenSet)
  /-- An operation on two sets. -/
  | operation (o : SetOperation) (s t : WrittenSet)

namespace WrittenSet

/-- The set of given members; a single member is a set already. -/
def ofMembers : List WrittenSet → WrittenSet
  | [s] => s
  | ss => .members ss

mutual

/-- How deep the parts of a set lie. -/
def height : WrittenSet → Nat
  | .letter _ | .range _ _ | .asciiClass _ _ | .shorthand _ _ | .property _ _ _ => 0
  | .bracketed _ s => s.height + 1
  | .members [] => 0
  | .members (s :: ss) => max s.height (heights ss) + 1
  | .operation _ s t => max s.height t.height + 1

/-- How deep the parts of the deepest set lie. -/
def heights : List WrittenSet → Nat
  | [] => 0
  | s :: ss => max s.height (heights ss)

end

end WrittenSet

/-! ## Expressions -/

/-- A place as it is written. -/
inductive WrittenPlace where
  /-- The start of the text, or of a line. -/
  | start
  /-- The end of the text, or of a line. -/
  | stop
  /-- The start of the text. -/
  | textStart
  /-- The end of the text. -/
  | textEnd
  /-- One side is a word character and the other is not. -/
  | wordEdge
  /-- Both sides are word characters, or neither is. -/
  | noWordEdge
  /-- A word starts. -/
  | wordStart
  /-- A word ends. -/
  | wordEnd
  /-- No word character stands before. -/
  | noWordBefore
  /-- No word character follows. -/
  | noWordAfter
  deriving DecidableEq, Repr

/-- An expression as it is written. -/
inductive Written where
  /-- Nothing. -/
  | empty
  /-- A change of flags for what follows in the same group. -/
  | flags (c : FlagChange)
  /-- A character. -/
  | letter (l : Letter)
  /-- A dot. -/
  | dot
  /-- A place. -/
  | place (p : WrittenPlace)
  /-- A set. -/
  | set (s : WrittenSet)
  /-- A group with its number, if it has one, and its flags. -/
  | group (index : Option Nat) (c : FlagChange) (w : Written)
  /-- Expressions one after another. -/
  | seq (ws : List Written)
  /-- Expressions one of which is chosen. -/
  | alt (ws : List Written)
  /-- A number of repetitions. `marked` is whether a question mark turns their preference around. -/
  | rep (w : Written) (lo : Nat) (hi : Option Nat) (marked : Bool)

namespace Written

/-- Expressions one after another; a single one stands for itself. -/
def ofItems : List Written → Written
  | [] => .empty
  | [w] => w
  | ws => .seq ws

/-- Expressions one of which is chosen; a single one stands for itself. -/
def ofBranches : List Written → Written
  | [w] => w
  | ws => .alt ws

/-- Whether an expression can be repeated. -/
def isRepeatable : Written → Bool
  | .empty | .flags _ => false
  | _ => true

mutual

/-- How deep the parts of an expression lie. -/
def height : Written → Nat
  | .empty | .flags _ | .letter _ | .dot | .place _ => 0
  | .set s => s.height
  | .group _ _ w => w.height + 1
  | .seq ws => heights ws + 1
  | .alt ws => heights ws + 1
  | .rep w _ _ _ => w.height + 1

/-- How deep the parts of the deepest expression lie. -/
def heights : List Written → Nat
  | [] => 0
  | w :: ws => max w.height (heights ws)

end

/-- How deep the parts of an expression may lie. -/
def heightLimit : Nat := 250

end Written

end Regex

end Multilint
