import Multilint.Text.CharSet
import Multilint.Text.Classes
/-!
# Regular expressions

The expressions a tool may give for its version, after their flags have been worked into them: a set
already has all spellings of its letters, and an anchor tells whether it stands for a text or a line. The
functions that build expressions out of others keep them simple, so that their size does not hang on how
they were written.
-/

namespace Multilint

namespace Regex

/-! ## Anchors -/

/-- A condition on the word characters around a place. -/
inductive WordPlace where
  /-- One side is a word character and the other is not. -/
  | edge
  /-- Both sides are word characters, or neither is. -/
  | noEdge
  /-- A word starts. -/
  | start
  /-- A word ends. -/
  | stop
  /-- No word character stands before. -/
  | noneBefore
  /-- No word character follows. -/
  | noneAfter
  deriving DecidableEq, Repr

/-- A condition on a place between two characters. -/
inductive Anchor where
  /-- The start of the text. -/
  | textStart
  /-- The end of the text. -/
  | textEnd
  /-- The start of a line. With `crlf` a carriage return ends a line too, and with a line feed behind it
  both together end one. -/
  | lineStart (crlf : Bool)
  /-- The end of a line, in the same way. -/
  | lineEnd (crlf : Bool)
  /-- A place around words, which are those of Unicode or of ASCII. -/
  | word (p : WordPlace) (unicode : Bool)
  deriving DecidableEq, Repr

/-- Whether a condition holds of whether word characters stand before and after a place. -/
def WordPlace.holds (p : WordPlace) (before after : Bool) : Bool :=
  match p with
  | .edge => before != after
  | .noEdge => before == after
  | .start => !before && after
  | .stop => before && !after
  | .noneBefore => !before
  | .noneAfter => !after

/-- Whether an anchor holds between the character before and the one that follows. -/
def Anchor.holds (a : Anchor) (before after : Option Char) : Bool :=
  match a with
  | .textStart => before.isNone
  | .textEnd => after.isNone
  | .lineStart crlf =>
    before.isNone || before == some '\n' || crlf && before == some '\r' && after != some '\n'
  | .lineEnd false => after.isNone || after == some '\n'
  | .lineEnd true =>
    after.isNone || after == some '\r' || after == some '\n' && before != some '\r'
  | .word p unicode =>
    let isWord (c : Char) : Bool :=
      if unicode then Text.isWord c else c.isAlphanum || c == '_'
    p.holds (before.any isWord) (after.any isWord)

end Regex

/-! ## Expressions -/

/-- A regular expression. -/
inductive Regex where
  /-- The empty text. -/
  | empty
  /-- A text of at least one character. -/
  | literal (cs : List Char)
  /-- One character of a set. -/
  | one (s : CharSet)
  /-- A place where an anchor holds. -/
  | anchor (a : Regex.Anchor)
  /-- A numbered group. -/
  | group (index : Nat) (r : Regex)
  /-- Expressions one after another. -/
  | seq (rs : List Regex)
  /-- The first of some expressions, or else the second, and so on. -/
  | alt (rs : List Regex)
  /-- A number of repetitions, as many as possible or as few. -/
  | rep (r : Regex) (lo : Nat) (hi : Option Nat) (greedy : Bool)
  deriving BEq, Repr

namespace Regex

/-! ## Building expressions -/

/-- One character of a set. -/
def ofSet (s : CharSet) : Regex :=
  match s.only? with
  | some c => .literal [c]
  | none => .one s

/-- Expressions of which no two neighbours are texts. -/
def joinLiterals : List Regex → List Regex
  | [] => []
  | .literal a :: rs =>
    match joinLiterals rs with
    | .literal b :: rs => .literal (a ++ b) :: rs
    | rs => .literal a :: rs
  | r :: rs => r :: joinLiterals rs

/-- Expressions one after another. -/
def ofSeq (rs : List Regex) : Regex :=
  let flat := rs.flatMap fun
    | .seq rs => rs
    | .empty => []
    | r => [r]
  match joinLiterals flat with
  | [] => .empty
  | [r] => r
  | rs => .seq rs

/-- The expressions that several sequences all start with. -/
def sharedStart : List (List Regex) → List Regex
  | [] => []
  | [rs] => rs
  | rs :: rss => common rs (sharedStart rss)
where
  /-- The expressions that two sequences start with. -/
  common : List Regex → List Regex → List Regex
    | r :: rs, s :: ss => if r == s then r :: common rs ss else []
    | _, _ => []

/-- The character of a text that has just one. -/
def char? : Regex → Option Char
  | .literal [c] => some c
  | _ => none

/-- The set of which an expression takes one character. -/
def set? : Regex → Option CharSet
  | .one s => some s
  | _ => none

/-- The parts of an expression that has several one after another. -/
def parts? : Regex → Option (List Regex)
  | .seq rs => some rs
  | _ => none

/-- The expressions that are to be chosen from, without choices among them. -/
def choices (rs : List Regex) : List Regex :=
  rs.flatMap fun
    | .alt rs => rs
    | r => [r]

/-- A choice that is none: there is only one expression, or each takes one character. -/
def simpleChoice? (rs : List Regex) : Option Regex :=
  match rs with
  | [] => some (.one .empty)
  | [r] => some r
  | rs =>
    ((rs.mapM char?).map fun cs => ofSet (.ofNumbers (cs.map Char.toNat))).or
      ((rs.mapM set?).map fun ss => ofSet (.unions ss))

/-- The first of some expressions, or else the second, and so on. What all of them start with stands in
front of the choice. The fuel bounds how often choices come to light behind such a start. -/
def ofAltWithin : Nat → List Regex → Regex
  | 0, rs => .alt rs
  | fuel + 1, rs =>
    let rs := choices rs
    match simpleChoice? rs with
    | some r => r
    | none =>
      match (rs.mapM parts?).map fun rss => (sharedStart rss, rss) with
      | none | some ([], _) => .alt rs
      | some (start, rss) =>
        ofSeq (start ++ [ofAltWithin fuel (rss.map fun rs => ofSeq (rs.drop start.length))])

/-- The first of some expressions, or else the second, and so on. Choices lie no deeper in each other than
the parts of a written expression may, which is less than this fuel. -/
def ofAlt (rs : List Regex) : Regex := ofAltWithin 256 rs

mutual

/-- Whether an expression matches the empty text only. -/
def isPlace : Regex → Bool
  | .empty | .anchor _ => true
  | .literal _ | .one _ => false
  | .group _ r => r.isPlace
  | .seq rs | .alt rs => arePlaces rs
  | .rep r _ hi _ => hi.isSome && r.isPlace

/-- Whether all expressions match the empty text only. -/
def arePlaces : List Regex → Bool
  | [] => true
  | r :: rs => r.isPlace && arePlaces rs

end

mutual

/-- The length of the shortest text that an expression matches, if it matches any. -/
def least? : Regex → Option Nat
  | .empty | .anchor _ => some 0
  | .literal cs => some cs.length
  | .one s => if s.isEmpty then none else some 1
  | .group _ r => r.least?
  | .seq rs => (leasts? rs).map fun ns => ns.foldl (· + ·) 0
  | .alt rs => (leasts? rs).bind List.min?
  | .rep r lo _ _ => r.least?.map (· * lo)

/-- The lengths of the shortest texts of several expressions, if each of them matches any. -/
def leasts? : List Regex → Option (List Nat)
  | [] => some []
  | r :: rs => do return (← r.least?) :: (← leasts? rs)

end

/-- Whether an expression matches texts, and none of them is empty. -/
def isLong (r : Regex) : Bool := r.least?.any (0 < ·)

/-- A number of repetitions. Places need not be looked at twice. -/
def ofRep (r : Regex) (lo : Nat) (hi : Option Nat) (greedy : Bool) : Regex :=
  let (lo, hi) := if r.isPlace then (min lo 1, some (min (hi.getD 1) 1)) else (lo, hi)
  match lo, hi with
  | 0, some 0 => .empty
  | 1, some 1 => r
  | lo, hi => .rep r lo hi greedy

end Regex

end Multilint
