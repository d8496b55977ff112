import Multilint.Decimal.Binary64
/-!
# The shortest decimal text of a floating-point number

Of the decimals that read back as a number, `shortestDigits` picks one with the fewest digits, and
of those the nearest. `Layout` says how such digits are written: which exponents are positional and
how the others look.
-/

namespace Multilint

namespace Binary64

/-- The ends of the interval of reals that round to a positive number, as quotients over one
denominator, and whether the ends belong to it. -/
structure Interval where
  /-- Numerator of the lower end. -/
  low : Nat
  /-- Numerator of the number. -/
  mid : Nat
  /-- Numerator of the upper end. -/
  high : Nat
  /-- The denominator of all three. -/
  den : Nat
  /-- The ends round to the number as well. -/
  closed : Bool
  deriving Repr

/-- The interval of a positive finite number. At a power of two the gap below is half the gap
above. -/
def interval (x : Binary64) : Interval :=
  let (m, e) := x.parts
  let unit := pow2 e
  let below := if m = pow2 52 && 0 < e then unit else 2 * unit
  { low := 4 * m * unit - below, mid := 4 * m * unit, high := 4 * m * unit + 2 * unit,
    den := 4 * pow2 1074, closed := m % 2 == 0 }

/-- Whether `d · 10^k` lies in the interval. -/
def Interval.holds (i : Interval) (d : Nat) (k : Int) : Bool :=
  let (n, u) := match k with
    | .ofNat j => (d * pow10 j, 1)
    | .negSucc j => (d, pow10 (j + 1))
  let v := n * i.den
  if i.closed then i.low * u ≤ v && v ≤ i.high * u else i.low * u < v && v < i.high * u

/-- The decimal exponent of the leading digit: `10^t ≤ mid / den < 10^(t+1)`. -/
def Interval.leading (i : Interval) : Int :=
  -- The bit lengths give the exponent up to one, and the powers of ten decide.
  let bits : Int := (i.mid.log2 : Int) - (i.den.log2 : Int)
  let guess : Int := (bits - 1) * 30103 / 100000 - 1
  let atLeast (t : Int) : Bool := match t with
    | .ofNat j => i.den * pow10 j ≤ i.mid
    | .negSucc j => i.den ≤ i.mid * pow10 (j + 1)
  if atLeast (guess + 3) then guess + 3
  else if atLeast (guess + 2) then guess + 2
  else if atLeast (guess + 1) then guess + 1
  else guess

/-- The neighbours of the number on the grid of multiples of `10^k`: the one at or below, and the
twice-scaled remainder that says which of the two is nearer. -/
def Interval.floor (i : Interval) (k : Int) : Nat × Nat × Nat :=
  let (n, d) := match k with
    | .ofNat j => (i.mid, i.den * pow10 j)
    | .negSucc j => (i.mid * pow10 (j + 1), i.den)
  (n / d, 2 * (n % d), d)

/-- The nearest point of one grid that lies in the interval. -/
def Interval.onGrid? (i : Interval) (k : Int) : Option Nat :=
  let (q, r2, d) := i.floor k
  let down := i.holds q k && q ≠ 0
  let up := i.holds (q + 1) k
  match down, up with
  | true, true => some (if r2 < d || (r2 = d && q % 2 = 0) then q else q + 1)
  | true, false => some q
  | false, true => some (q + 1)
  | false, false => none

/-- Tries grids of more and more digits. -/
def Interval.search (i : Interval) (t : Int) : Nat → Nat → Nat × Int
  | 0, n => ((i.floor (t + 1 - n)).1, t + 1 - n)
  | fuel + 1, n =>
    match i.onGrid? (t + 1 - n) with
    | some d => (d, t + 1 - n)
    | none => i.search t fuel (n + 1)

/-- Moves the trailing zeros of a decimal into its exponent. -/
def stripZeros : Nat → Nat → Int → Nat × Int
  | 0, d, k => (d, k)
  | fuel + 1, d, k => if d ≠ 0 && d % 10 = 0 then stripZeros fuel (d / 10) (k + 1) else (d, k)

/-- The digits and the exponent of the shortest decimal `d · 10^k` that reads back as a positive
finite number. -/
def shortestDigits (x : Binary64) : Nat × Int :=
  let i := x.interval
  let (d, k) := i.search i.leading 17 1
  stripZeros 20 d k

/-- How a number is laid out around its digits. -/
structure Layout where
  /-- The least exponent of the leading digit that is written positionally. -/
  least : Int
  /-- The greatest exponent of the leading digit that is written positionally. -/
  greatest : Int
  /-- The mark before a positive exponent. -/
  plus : String
  deriving Repr

/-- Positional from `10^-5` up to below `10^16`, with one digit after the point at least; a positive
exponent shows its sign. -/
def Layout.json : Layout := ⟨-5, 15, "+"⟩

/-- The text of the digits of a positive number. -/
def Layout.write (l : Layout) (d : Nat) (k : Int) : String :=
  let ds := toString d
  let n := ds.length
  let lead := k + n - 1
  if l.least ≤ lead && lead ≤ l.greatest then
    if 0 ≤ k then ds ++ String.ofList (List.replicate k.toNat '0') ++ ".0"
    else if 0 ≤ lead then
      let cs := ds.toList
      String.ofList (cs.take (lead.toNat + 1)) ++ "." ++ String.ofList (cs.drop (lead.toNat + 1))
    else "0." ++ String.ofList (List.replicate ((-lead).toNat - 1) '0') ++ ds
  else
    let mantissa := match ds.toList with
      | c :: [] => String.ofList [c]
      | c :: cs => String.ofList (c :: '.' :: cs)
      | [] => ""
    mantissa ++ "e" ++ (if 0 ≤ lead then l.plus ++ toString lead.toNat
      else "-" ++ toString (-lead).toNat)

/-- The text of a finite number. -/
def render (x : Binary64) : String :=
  let body := if x.isZero then "0.0" else
    let (d, k) := ({ bits := UInt64.ofNat x.magnitude } : Binary64).shortestDigits
    Layout.json.write d k
  if x.isNegative then "-" ++ body else body

end Binary64

end Multilint
