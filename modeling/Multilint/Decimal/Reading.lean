import Multilint.Decimal.Binary64
import Multilint.Text.Numeral
/-!
# Reading floating-point numbers

The number nearest to what a decimal numeral writes. The exponent may have any size: beyond a bound the
number is zero or infinite whatever the digits are.
-/

namespace Multilint

namespace Binary64

/-- The exponent that follows the digits of a numeral: nothing for none, and no exponent at all where the
text goes on with something else. -/
def exponent? : List Char → Option Int
  | [] => some 0
  | e :: rest =>
    if e != 'e' && e != 'E' then none
    else
      let (negative, ds) : Bool × List Char := match rest with
        | '+' :: r => (false, r)
        | '-' :: r => (true, r)
        | r => (false, r)
      if ds.isEmpty || !ds.all Numeral.isDigit then none
      else
        let n : Int := Numeral.value ds
        some (if negative then -n else n)

/-- The powers of ten beyond which every number is zero or infinite. -/
def powerBound : Int := 400

/-- The non-negative number nearest to what digits and a power of ten write. -/
def ofDigits (digits : List Char) (power : Int) : Binary64 :=
  let significant := digits.dropWhile (· == '0')
  let top := power + significant.length
  if significant.isEmpty || top < -powerBound then ⟨0⟩
  else if top > powerBound then ⟨UInt64.ofNat infinityBits⟩
  else ofDecimal (Numeral.value significant) power

/-- The non-negative number that a decimal fraction with an optional exponent writes; a digit stands on at
least one side of the point. -/
def ofFraction? (s : List Char) : Option Binary64 :=
  let (whole, rest) := Numeral.spanDigits s
  match rest with
  | '.' :: r =>
    let (part, r) := Numeral.spanDigits r
    if whole.isEmpty && part.isEmpty then none
    else (exponent? r).map fun e => ofDigits (whole ++ part) (e - part.length)
  | r => if whole.isEmpty then none else (exponent? r).map (ofDigits whole)

/-- The finite number that a numeral writes, after a minus sign if there is one. -/
def ofText? (s : List Char) : Option Binary64 :=
  let x := match s with
    | '-' :: r => (ofFraction? r).map negate
    | r => ofFraction? r
  x.filter isFinite

end Binary64

end Multilint
