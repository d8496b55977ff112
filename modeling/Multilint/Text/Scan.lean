import Multilint.Text.Classes
/-!
# Taking a line apart

The formats of tool output are recognised from left to right. Where a part of a line may be as short
as the rest allows, `Text.shortest` finds its end.
-/

namespace Multilint

namespace Text

/-- The shortest beginning after which the rest is accepted, and what it is accepted as. -/
def shortest {α : Type} (accept : List Char → Option α) : List Char → Option (List Char × α)
  | [] => (accept []).map ([], ·)
  | c :: cs =>
    match accept (c :: cs) with
    | some a => some ([], a)
    | none => (shortest accept cs).map fun (l, a) => (c :: l, a)

/-- The same with at least one character in the beginning. -/
def shortestNonempty {α : Type} (accept : List Char → Option α) :
    List Char → Option (List Char × α)
  | [] => none
  | c :: cs => (shortest accept cs).map fun (l, a) => (c :: l, a)

/-- The longest non-empty beginning of characters of a class, and the rest. -/
def spanSome? (p : Char → Bool) (s : List Char) : Option (List Char × List Char) :=
  let l := s.takeWhile p
  if l.isEmpty then none else some (l, s.dropWhile p)

/-- The rest after a given text and what a class of characters makes of it. -/
def word? (s : String) (r : List Char) : Option (List Char) :=
  after? s.toList r

/-- Whether nothing but blanks is left. -/
def blankEnd (s : List Char) : Bool :=
  s.all isBlank

end Text

end Multilint
