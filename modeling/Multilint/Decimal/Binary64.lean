/-!
# Binary floating-point numbers of 64 bits

A number is its bit pattern. A finite pattern stands for `m · 2^q` with `m < 2^53`, and
`Binary64.ofRatio` is the pattern nearest to a quotient of natural numbers, ties going to the even
mantissa. All arithmetic is on natural numbers.
-/

namespace Multilint

/-- A floating-point number of 64 bits, as its bit pattern. -/
structure Binary64 where
  /-- Sign, eleven bits of exponent and fifty-two of mantissa. -/
  bits : UInt64
  deriving DecidableEq, Repr, Inhabited

namespace Binary64

/-- A power of two. -/
def pow2 (e : Nat) : Nat := Nat.pow 2 e

/-- A power of ten. -/
def pow10 (k : Nat) : Nat := Nat.pow 10 k

/-- The pattern of positive infinity, and the first that is not finite. -/
def infinityBits : Nat := 0x7FF * pow2 52

/-- The sign bit. -/
def signBit : Nat := pow2 63

/-- Whether the sign bit is set. -/
def isNegative (x : Binary64) : Bool :=
  signBit ≤ x.bits.toNat

/-- The pattern without its sign. -/
def magnitude (x : Binary64) : Nat :=
  x.bits.toNat % signBit

/-- Neither infinite nor a not-a-number. -/
def isFinite (x : Binary64) : Bool :=
  x.magnitude < infinityBits

/-- A zero of either sign. -/
def isZero (x : Binary64) : Bool :=
  x.magnitude == 0

/-- The pattern with the sign bit set. -/
def negate (x : Binary64) : Binary64 :=
  ⟨x.bits ^^^ 0x8000000000000000⟩

/-- Mantissa and exponent of the magnitude: it is `m · 2^(e - 1074)`. -/
def parts (x : Binary64) : Nat × Nat :=
  let e := x.magnitude / pow2 52
  let m := x.magnitude % pow2 52
  if e = 0 then (m, 0) else (m + pow2 52, e - 1)

/-- The magnitude as a quotient of natural numbers. -/
def ratio (x : Binary64) : Nat × Nat :=
  let (m, e) := x.parts
  (m * pow2 e, pow2 1074)

/-- The quotient rounded to the nearest natural number, a tie going to the even neighbour. -/
def roundDiv (num den : Nat) : Nat :=
  let q := num / den
  let r := num % den
  if 2 * r > den || (2 * r = den && q % 2 = 1) then q + 1 else q

/-- The exponent, counted from the least one, at which a quotient has a mantissa of fifty-three bits;
zero where it has fewer. -/
def scale (num den : Nat) : Nat :=
  let guess := num.log2 + 1074 - den.log2 - 53
  -- The estimate is at most one below the exponent that leaves fewer than fifty-four bits.
  if num * pow2 1074 < den * pow2 (guess + 53) then guess else guess + 1

/-- The non-negative number nearest to `num / den`; positive infinity where the quotient is too
large. -/
def ofRatio (num den : Nat) : Binary64 :=
  if num = 0 then ⟨0⟩
  else
    let e := scale num den
    let m := roundDiv (num * pow2 1074) (den * pow2 e)
    -- A mantissa that rounds up to `2^53` carries into the exponent field by itself.
    let b := if m < pow2 52 then m else e * pow2 52 + m
    if b < infinityBits then ⟨UInt64.ofNat b⟩ else ⟨UInt64.ofNat infinityBits⟩

/-- The number nearest to a natural number. -/
def ofNat (n : Nat) : Binary64 :=
  ofRatio n 1

/-- The product with a power of ten, rounded. -/
def timesTen (x : Binary64) (k : Nat) : Binary64 :=
  let (n, d) := x.ratio
  let (pn, pd) := (ofNat (pow10 k)).ratio
  ofRatio (n * pn) (d * pd)

/-- The quotient by a power of ten, rounded. -/
def overTen (x : Binary64) (k : Nat) : Binary64 :=
  let (n, d) := x.ratio
  let (pn, pd) := (ofNat (pow10 k)).ratio
  ofRatio (n * pd) (d * pn)

/-- The number nearest to `m · 10^e`. -/
def ofDecimal (m : Nat) (e : Int) : Binary64 :=
  match e with
  | .ofNat k => ofRatio (m * pow10 k) 1
  | .negSucc k => ofRatio m (pow10 (k + 1))

end Binary64

end Multilint
