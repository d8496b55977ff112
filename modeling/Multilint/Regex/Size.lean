import Multilint.Regex.Basic
import Multilint.Text.Utf8
/-!
# The size of an expression

An expression is refused when the automata that search for it grow too large: one that reads the bytes of
a text forwards and notes where groups start and end, and one that reads them backwards. Their sizes are
counted in bytes of memory, with 32 for every state and more for states with many ways out.
-/

namespace Multilint

namespace Regex

/-- The most memory that each automaton may take. -/
def sizeLimit : Nat := 10 * 1024 * 1024

/-- What a state takes. -/
def stateSize : Nat := 32

/-- What a way out that tests a byte takes, where a state has several. -/
def testSize : Nat := 8

/-- What a way out takes that tests nothing, where a state has several. -/
def linkSize : Nat := 4

/-! ## Bytes of sets -/

/-- A range of bytes. -/
abbrev ByteRange := UInt8 × UInt8

/-- The characters of a range, cut into ranges whose texts in UTF-8 are all the sequences of bytes in
given ranges. `spans` are the lengths of the blocks to cut at, the shortest first: a range that lies in one
block stays whole, and any other is cut where its first and its last whole block start and end. -/
def cutAtBlocks : List Nat → Nat → Nat → CharRanges
  | [], lo, hi => [(lo, hi)]
  | m :: ms, lo, hi =>
    if lo / m = hi / m then [(lo, hi)]
    else
      let first := if lo % m = 0 then lo else (lo / m + 1) * m
      let last := if hi % m = m - 1 then hi + 1 else hi / m * m
      (if lo < first then [(lo, first - 1)] else []) ++
        (if first < last then cutAtBlocks ms first (last - 1) else []) ++
        (if last ≤ hi then [(last, hi)] else [])

/-- The ranges of bytes from those of one character to those of another with as many bytes. -/
def byteRanges (lo hi : Nat) : List ByteRange :=
  (String.utf8EncodeChar (Char.ofNat lo)).zip (String.utf8EncodeChar (Char.ofNat hi))

/-- The sequences of ranges of bytes that the characters of a set have in UTF-8. -/
def byteSequences (s : CharSet) : List (List ByteRange) :=
  s.ranges.flatMap fun (lo, hi) =>
    [(0, 0x7F), (0x80, 0x7FF), (0x800, 0xD7FF), (0xE000, 0xFFFF), (0x10000, 0x10FFFF)].flatMap fun (first, last) =>
      let lo := max lo first
      let hi := min hi last
      if lo ≤ hi then
        let blocks := if first = 0 then [] else [0x40, 0x1000, 0x40000]
        (cutAtBlocks blocks lo hi).map fun (lo, hi) => byteRanges lo hi
      else []

/-- The sequences in groups of those that start with the same range, without it. -/
def byFirst : List (List ByteRange) → List (ByteRange × List (List ByteRange))
  | [] => []
  | [] :: ss => byFirst ss
  | (b :: s) :: ss =>
    match byFirst ss with
    | (c, g) :: gs => if b = c then (b, s :: g) :: gs else (b, [s]) :: (c, g) :: gs
    | [] => [(b, [s])]

/-- The states that read some sequences forwards, each given by the sequences that it still has to read. -/
def readers : Nat → List (List ByteRange) → List (List (List ByteRange))
  | 0, _ => []
  | fuel + 1, ss =>
    if ss.all List.isEmpty then []
    else ss :: (byFirst ss).flatMap fun g => readers fuel g.2

/-- The number of beginnings that some sequences have. -/
def beginnings : Nat → List (List ByteRange) → Nat
  | 0, _ => 0
  | fuel + 1, ss => (byFirst ss).foldl (fun n g => n + 1 + beginnings fuel g.2) 0

/-- The size of a set. Forwards, states that have the same to read are one. Backwards, sequences share the
states of their beginnings. -/
def setSize (backwards : Bool) (s : CharSet) : Nat :=
  if s.isAscii then 2 * stateSize + testSize * s.ranges.length
  else
    let ss := byteSequences s
    if backwards then 2 * stateSize + linkSize * ss.length + stateSize * beginnings 4 ss
    else
      (readers 4 ss).eraseDups.foldl
        (fun n ss => n + stateSize + testSize * (byFirst ss).length) stateSize

/-! ## Choices between texts -/

/-- The bytes of a text in UTF-8. -/
def bytesOf (cs : List Char) : List UInt8 :=
  cs.flatMap String.utf8EncodeChar

/-- What texts are left to read behind a shared beginning: the texts until one ends there, and what comes
behind that. -/
def stages (ts : List (List UInt8)) : List (List (List UInt8)) :=
  ts.foldr (fun t stages =>
    match t, stages with
    | [], stages => [] :: stages
    | t, [] => [[t]]
    | t, stage :: stages => (t :: stage) :: stages) [[]]

/-- The first bytes of texts, each once. -/
def firstBytes (ts : List (List UInt8)) : List UInt8 :=
  (ts.filterMap List.head?).eraseDups

/-- The size of the states that read one of several texts, those with a shared beginning together. Where a
text ends, those that come later are less wanted, and stand apart. The fuel bounds the length of the texts. -/
def textsSize : Nat → List (List UInt8) → Nat
  | 0, _ => 0
  | fuel + 1, ts =>
    if ts.all List.isEmpty then 0
    else
      let stages := stages ts
      let used := stages.filter fun stage => !stage.isEmpty
      let links := used.length + (stages.length - 1)
      used.foldl (fun n stage =>
        let firsts := firstBytes stage
        let tests := if firsts.length = 1 then 0 else testSize * firsts.length
        firsts.foldl (fun n b =>
          n + textsSize fuel (stage.filterMap fun t => if t.head? = some b then some t.tail else none))
          (n + stateSize + tests))
        (stateSize + linkSize * links)

/-! ## Expressions -/

/-- The bytes of a text. -/
def text? : Regex → Option (List UInt8)
  | .literal cs => some (bytesOf cs)
  | _ => none

/-- The size of a number of repetitions of what has a given size. -/
def repSize (size : Nat) (isLong : Bool) (lo : Nat) : Option Nat → Nat
  | none =>
    let loop := stateSize + 2 * linkSize
    if lo = 0 then size + (if isLong then loop else 2 * loop + stateSize)
    else lo * size + loop
  | some hi =>
    let choice := stateSize + 2 * linkSize
    if lo = 0 && hi = 1 then choice + stateSize + size
    else if lo = hi then lo * size
    else (if lo = 0 then stateSize else lo * size) + stateSize + (hi - lo) * (choice + size)

mutual

/-- The size of an expression. -/
def size (backwards : Bool) : Regex → Nat
  | .empty | .anchor _ => stateSize
  | .literal cs => stateSize * (bytesOf cs).length
  | .one s => setSize backwards s
  | .group _ r => (if backwards then 0 else 2 * stateSize) + r.size backwards
  | .seq rs => sizes backwards rs
  | .alt rs =>
    match rs.mapM text? with
    | some ts =>
      let ts := if backwards then ts.map List.reverse else ts
      stateSize + textsSize (ts.foldl (fun n t => max n t.length) 0) ts
    | none => 2 * stateSize + linkSize * rs.length + sizes backwards rs
  | .rep r lo hi _ => repSize (r.size backwards) r.isLong lo hi

/-- The size of several expressions together. -/
def sizes (backwards : Bool) : List Regex → Nat
  | [] => 0
  | r :: rs => r.size backwards + sizes backwards rs

end

/-! ## The whole automata -/

mutual

/-- Whether a match of an expression starts with an anchor, or ends with it. -/
def hasEdge (a : Anchor) (atEnd : Bool) : Regex → Bool
  | .anchor b => a = b
  | .group _ r => r.hasEdge a atEnd
  | .seq rs => if atEnd then haveEdgeLast a rs else haveEdgeFirst a rs
  | .alt rs => haveEdge a atEnd rs
  | .rep r lo _ _ => 0 < lo && r.hasEdge a atEnd
  | _ => false

/-- Whether one of several expressions starts with an anchor, and all in front of it are places. -/
def haveEdgeFirst (a : Anchor) : List Regex → Bool
  | [] => false
  | r :: rs => r.hasEdge a false || r.isPlace && haveEdgeFirst a rs

/-- Whether one of several expressions ends with an anchor, and all behind it are places. -/
def haveEdgeLast (a : Anchor) : List Regex → Bool
  | [] => false
  | r :: rs => haveEdgeLast a rs || arePlaces rs && r.hasEdge a true

/-- Whether every one of several expressions starts with an anchor, or ends with it. -/
def haveEdge (a : Anchor) (atEnd : Bool) : List Regex → Bool
  | [] => true
  | r :: rs => r.hasEdge a atEnd && haveEdge a atEnd rs

end

/-- The size of an automaton. Unless the expression holds to one end of the text, it starts by passing over
any bytes; it ends with a state of its own. -/
def wholeSize (backwards : Bool) (r : Regex) : Nat :=
  let isFixed := r.hasEdge (if backwards then .textEnd else .textStart) backwards
  let passing :=
    if isFixed then stateSize
    else repSize (2 * stateSize + testSize) true 0 none
  passing + (Regex.group 0 r).size backwards + stateSize

/-- Whether both automata of an expression are small enough. -/
def fits (r : Regex) : Bool :=
  r.wholeSize false ≤ sizeLimit && r.wholeSize true ≤ sizeLimit

end Regex

end Multilint
