import Multilint.Text.Utf8
/-!
# Flows of bytes

What comes out of a command may have no end. A flow is some bytes and, behind them, bytes that come again
and again; most flows have none of the latter.
-/

namespace Multilint

/-- Bytes in order. -/
structure Flow where
  /-- The bytes that come once. -/
  bytes : List UInt8 := []
  /-- The bytes that come again and again after them. -/
  round : List UInt8 := []
  deriving DecidableEq, Repr, Inhabited

namespace Flow

/-- The byte that ends a line. -/
def newline : UInt8 := 10

/-- The flow of a text. -/
def ofText (s : String) : Flow :=
  ⟨Utf8.bytes s, []⟩

/-- Whether a flow has no end. -/
def isEndless (f : Flow) : Bool :=
  !f.round.isEmpty

/-- One flow after another. Nothing comes after an endless one. -/
def append (f g : Flow) : Flow :=
  if f.isEndless then f else ⟨f.bytes ++ g.bytes, g.round⟩

instance : Append Flow := ⟨append⟩

/-- A flow with another byte in place of each byte, or none. -/
def filterMap (change : UInt8 → Option UInt8) (f : Flow) : Flow :=
  ⟨f.bytes.filterMap change, f.round.filterMap change⟩

/-- At least so many bytes of a flow, as far as it has them. -/
def unroll (n : Nat) (f : Flow) : List UInt8 :=
  f.bytes ++ (List.replicate n f.round).flatten

/-- The first bytes of a flow. -/
def take (n : Nat) (f : Flow) : List UInt8 :=
  let missing := n - f.bytes.length
  (f.unroll (if f.round.isEmpty then 0 else missing / f.round.length + 1)).take n

/-- One more byte in front of lines. -/
def consByte (b : UInt8) : List (List UInt8) → List (List UInt8)
  | [] => [[b]]
  | l :: ls => if b = newline then [b] :: l :: ls else (b :: l) :: ls

/-- The lines of bytes, each with its ending. -/
def lines (bytes : List UInt8) : List (List UInt8) :=
  bytes.foldr consByte []

/-- Whether bytes do not come after others in the order of bytes. -/
def notAfter : List UInt8 → List UInt8 → Bool
  | [], _ => true
  | _ :: _, [] => false
  | a :: as, b :: bs => a < b || (a = b && notAfter as bs)

/-- The first lines of a flow; none where they do not end. -/
def takeLines? (n : Nat) (f : Flow) : Option (List UInt8) :=
  let counted := f.bytes.count newline
  if counted ≥ n || f.round.isEmpty then some ((lines f.bytes).take n).flatten
  else if f.round.contains newline then some ((lines (f.unroll n)).take n).flatten
  else none

/-- The first line of a flow without its ending, whether it has one, and what follows it. -/
def firstLine (f : Flow) : List UInt8 × Bool × Flow :=
  let bytes := f.unroll 1
  let line := bytes.takeWhile (· ≠ newline)
  match bytes.dropWhile (· ≠ newline) with
  | [] => (line, false, ⟨[], f.round⟩)
  | _ :: rest => (line, true, ⟨rest, f.round⟩)

end Flow

end Multilint
