import Multilint.Text.Numeral
import Multilint.Text.Classes
/-!
# Version numbers

A version is a list of numbers, and the empty places behind the last number count as zeros. What
follows the numbers in a version text says nothing about the order.
-/

namespace Multilint

/-- A version: its numbers, the most important first. -/
structure Version where
  /-- The numbers. -/
  numbers : List Nat
  deriving DecidableEq, Repr

namespace Version

/-- Numbers with a dot between each two at the start of a text: the digits of each number, where any
script's digits count. -/
def dotted : List Char → List Char → List (List Char)
  | ds, [] => [ds]
  | ds, c :: cs =>
    if Text.isNumeral c then dotted (ds ++ [c]) cs
    else if c = '.' && cs.head?.any Text.isNumeral then ds :: dotted [] cs
    else [ds]

/-- The text behind a `v` it may start with. -/
def behindMark : List Char → List Char
  | 'v' :: cs => cs
  | 'V' :: cs => cs
  | cs => cs

/-- The version a text starts with, after blanks and a `v`. Every number must be written in ASCII
digits and have at most 64 bits. -/
def ofText? (text : String) : Option Version :=
  let cs := behindMark (Text.trim text.toList)
  if cs.head?.any Text.isNumeral then
    ((dotted [] cs).mapM Numeral.digits64?).map Version.mk
  else none

/-- The order of lists of numbers that go on with zeros. -/
def compareNumbers : List Nat → List Nat → Ordering
  | [], [] => .eq
  | [], b :: bs => if b = 0 then compareNumbers [] bs else .lt
  | a :: as, [] => if a = 0 then compareNumbers as [] else .gt
  | a :: as, b :: bs => if a < b then .lt else if b < a then .gt else compareNumbers as bs

/-- The order of versions. -/
def compare (a b : Version) : Ordering :=
  compareNumbers a.numbers b.numbers

/-- The order of the versions that two texts start with. -/
def compareTexts? (a b : String) : Option Ordering := do
  let a ← ofText? a
  let b ← ofText? b
  return a.compare b

/-- The seconds that a version command may take, as a text gives them: a number that is not zero, or
else the default. -/
def secondsOfText (dflt : Nat) (text : String) : Nat :=
  match Numeral.unsigned64? (Text.trim text.toList) with
  | some n => if n = 0 then dflt else n
  | none => dflt

/-- The seconds that a version command may take where nothing says otherwise. -/
def defaultSeconds : Nat := 30

end Version

end Multilint
