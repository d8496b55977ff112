import Multilint.Text.Numeral
/-!
# Sets of characters

A set is given by its borders: the numbers at which one passes from outside to inside or back. A set of
any size is one list, and the operations on two sets go through both lists once, side by side. A set
written by its borders in increasing order has no other such writing, so equal sets are equal lists. The
properties of the Unicode character database are tables of ranges, in which a character is looked up as it is.
-/

namespace Multilint

/-! ## Tables -/

/-- A set of characters as increasing, disjoint ranges of code points, both ends included. -/
abbrev CharRanges := List (Nat × Nat)

/-- Whether a character lies in one of the ranges. -/
def CharRanges.has : CharRanges → Char → Bool
  | [], _ => false
  | (lo, hi) :: r, c => lo ≤ c.toNat && (c.toNat ≤ hi || CharRanges.has r c)

/-! ## Sets -/

/-- A set of characters. -/
structure CharSet where
  /-- The numbers at which membership changes, in increasing order; nothing below the first is inside. -/
  borders : List Nat
  deriving DecidableEq, Repr

namespace CharSet

/-- Whether an odd number of borders lie at or below a number. -/
def inside : List Nat → Nat → Bool
  | [], _ => false
  | b :: bs, n => b ≤ n && !inside bs n

/-- Whether a set has a character. -/
def has (s : CharSet) (c : Char) : Bool :=
  inside s.borders c.toNat

/-- The set without a character. -/
def empty : CharSet := ⟨[]⟩

/-- The set of the numbers between two, both included. -/
def span (lo hi : Nat) : CharSet := ⟨[lo, hi + 1]⟩

/-- The set of the characters between two, both included. -/
def range (lo hi : Char) : CharSet := span lo.toNat hi.toNat

/-- The set of one character. -/
def single (c : Char) : CharSet := range c c

/-- Every character. The numbers in between that are left out belong to no character. -/
def all : CharSet := ⟨[0, 0xD800, 0xE000, 0x110000]⟩

/-- The ASCII characters. -/
def ascii : CharSet := ⟨[0, 0x80]⟩

/-! ## Operations -/

/-- The borders of the set whose membership is an operation on two memberships. `a` and `b` are the
memberships in front of the remaining borders. -/
def merge (op : Bool → Bool → Bool) (a b : Bool) : List Nat → List Nat → List Nat
  | [], [] => []
  | x :: xs, [] => cross x (!a) b (merge op (!a) b xs [])
  | [], y :: ys => cross y a (!b) (merge op a (!b) [] ys)
  | x :: xs, y :: ys =>
    if x < y then cross x (!a) b (merge op (!a) b xs (y :: ys))
    else if y < x then cross y a (!b) (merge op a (!b) (x :: xs) ys)
    else cross x (!a) (!b) (merge op (!a) (!b) xs ys)
  termination_by xs ys => xs.length + ys.length
where
  /-- A border in front of others, if the operation changes there to new memberships. -/
  cross (n : Nat) (a' b' : Bool) (rest : List Nat) : List Nat :=
    if op a b = op a' b' then rest else n :: rest

/-- The set whose membership is an operation on the memberships of two sets. The operation is false of
two characters that are both outside. -/
def combine (op : Bool → Bool → Bool) (s t : CharSet) : CharSet :=
  ⟨merge op false false s.borders t.borders⟩

/-- The characters of either set. -/
def union (s t : CharSet) : CharSet := combine (· || ·) s t

/-- The characters that two sets share. -/
def inter (s t : CharSet) : CharSet := combine (· && ·) s t

/-- The characters of the first set that the second lacks. -/
def diff (s t : CharSet) : CharSet := combine (fun a b => a && !b) s t

/-- The characters of exactly one of two sets. -/
def symmDiff (s t : CharSet) : CharSet := combine (· != ·) s t

/-- The characters outside a set. -/
def compl (s : CharSet) : CharSet := diff all s

/-- The characters of any of some sets. Neighbours are joined first, so that a long list takes few
rounds. -/
def unions (ss : List CharSet) : CharSet :=
  rounds ss.length ss
where
  /-- The sets joined two by two. -/
  pairs : List CharSet → List CharSet
    | s :: t :: r => union s t :: pairs r
    | r => r
  /-- The sets joined two by two until one is left. -/
  rounds : Nat → List CharSet → CharSet
    | _, [] => empty
    | _, [s] => s
    | 0, ss => ss.foldl union empty
    | n + 1, ss => rounds n (pairs ss)

/-! ## Ranges -/

/-- The ranges that borders delimit. -/
def spans : List Nat → CharRanges
  | lo :: hi :: r => (lo, hi - 1) :: spans r
  | _ => []

/-- The ranges of a set in increasing order, none of which touches the next. -/
def ranges (s : CharSet) : CharRanges := spans s.borders

/-- The set of given ranges. -/
def ofRanges (rs : CharRanges) : CharSet :=
  unions (rs.map fun r => span r.1 r.2)

/-- The set of the characters with given numbers. -/
def ofNumbers (ns : List Nat) : CharSet :=
  unions (ns.map fun n => span n n)

/-- Whether a set has no character. -/
def isEmpty (s : CharSet) : Bool := s.borders.isEmpty

/-- Whether every character of a set is an ASCII one. -/
def isAscii (s : CharSet) : Bool := s.diff ascii |>.isEmpty

/-- The only character of a set that has just one. -/
def only? (s : CharSet) : Option Char :=
  match s.borders with
  | [lo, hi] => if hi = lo + 1 then some (Char.ofNat lo) else none
  | _ => none

/-- The set that a text lists: hexadecimal numbers and, with a hyphen between two, ranges. What is no
such number is passed over. -/
def listed (text : String) : CharSet :=
  ofRanges ((Text.words text.toList).filterMap span?)
where
  /-- The range that a word writes. -/
  span? (word : List Char) : Option (Nat × Nat) := do
    let (lo, hi) := word.span (· ≠ '-')
    let lo ← Numeral.valueIn? 16 lo
    match hi with
    | [] => some (lo, lo)
    | _ :: hi => some (lo, ← Numeral.valueIn? 16 hi)

end CharSet

end Multilint
