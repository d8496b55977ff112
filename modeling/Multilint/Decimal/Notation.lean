import Multilint.Decimal.Binary64
/-!
# Notations of floating-point numbers

A number written with so many places: in fixed, scientific and hexadecimal notation, and in the one of the first
two that suits its size. The digits are those of the exact value, rounded to the nearest with ties to even.
-/

namespace Multilint

namespace Binary64

/-- The decimal digits of a number, with zeros in front up to a count. -/
def decimalDigits (count n : Nat) : List Char :=
  let ds := Nat.toDigits 10 n
  List.replicate (count - ds.length) '0' ++ ds

/-- Digits with a point behind the first ones; the flag keeps a point that nothing follows. -/
def pointed (keep : Bool) (whole part : List Char) : List Char :=
  if part.isEmpty && !keep then whole else whole ++ '.' :: part

/-- The magnitude with so many places behind the point. -/
def fixed (places : Nat) (keep : Bool) (x : Binary64) : List Char :=
  let (num, den) := x.ratio
  let ds := decimalDigits (places + 1) (roundDiv (num * pow10 places) den)
  pointed keep (ds.take (ds.length - places)) (ds.drop (ds.length - places))

/-- Whether a quotient is at least a power of ten. -/
def atLeastPower (num den : Nat) (t : Int) : Bool :=
  match t with
  | .ofNat k => den * pow10 k ≤ num
  | .negSucc k => den ≤ num * pow10 (k + 1)

/-- The greatest power of ten that a positive quotient reaches, from a first guess that is not too great. -/
def powerReached (num den : Nat) : Nat → Int → Int
  | 0, t => t
  | n + 1, t => if atLeastPower num den (t + 1) then powerReached num den n (t + 1) else t

/-- The digits of a positive number, one and so many more, and the power of ten of the first one. -/
def scientificDigits (places : Nat) (x : Binary64) : List Char × Int :=
  let (num, den) := x.ratio
  let bits : Int := (num.log2 : Int) - den.log2
  let t := powerReached num den 8 (bits * 30103 / 100000 - 3)
  let scaled := match places - t with
    | .ofNat k => roundDiv (num * pow10 k) den
    | .negSucc k => roundDiv num (den * pow10 (k + 1))
  let ds := decimalDigits 1 scaled
  if ds.length > places + 1 then (ds.take (places + 1), t + 1) else (ds, t)

/-- A sign and at least so many digits. -/
def exponentText (digits : Nat) (e : Int) : List Char :=
  (if e < 0 then '-' else '+') :: decimalDigits digits e.natAbs

/-- The digits of a number that may be zero, and the power of ten of the first one. -/
def leadingDigits (places : Nat) (x : Binary64) : List Char × Int :=
  if x.isZero then (List.replicate (places + 1) '0', 0) else scientificDigits places x

/-- The magnitude as a digit, so many places and a power of ten. -/
def scientific (places : Nat) (keep : Bool) (x : Binary64) : List Char :=
  let (ds, e) := leadingDigits places x
  pointed keep (ds.take 1) (ds.drop 1) ++ 'e' :: exponentText 2 e

/-- Digits without zeros at the end. -/
def withoutZeros (ds : List Char) : List Char :=
  (ds.reverse.dropWhile (· = '0')).reverse

/-- The magnitude with so many digits, in fixed notation unless it is too great or too small for that. Zeros at
the end of the fraction are left out unless they are kept. -/
def general (digits : Nat) (keep : Bool) (x : Binary64) : List Char :=
  let digits := max 1 digits
  let (ds, e) := leadingDigits (digits - 1) x
  let trim (part : List Char) : List Char := if keep then part else withoutZeros part
  if e < -4 || e ≥ digits then
    pointed keep (ds.take 1) (trim (ds.drop 1)) ++ 'e' :: exponentText 2 e
  else
    match e with
    | .ofNat k => pointed keep (ds.take (k + 1)) (trim (ds.drop (k + 1)))
    | .negSucc k => pointed keep ['0'] (trim (List.replicate k '0' ++ ds))

/-- The magnitude in hexadecimal digits with a power of two; without a number of places all digits are
written. -/
def hexadecimal (places : Option Nat) (keep : Bool) (x : Binary64) : List Char :=
  let (m, e) := x.parts
  let normal := m ≥ pow2 52
  let exponent : Int := if x.isZero then 0 else if normal then (e : Int) + 52 - 1074 else -1022
  let hexDigits (count n : Nat) : List Char :=
    let ds := Nat.toDigits 16 n
    List.replicate (count - ds.length) '0' ++ ds
  let (whole, part) : List Char × List Char := match places with
    | none => (Nat.toDigits 16 (m / pow2 52), withoutZeros (hexDigits 13 (m % pow2 52)))
    | some p =>
      if p ≥ 13 then
        (Nat.toDigits 16 (m / pow2 52), hexDigits 13 (m % pow2 52) ++ List.replicate (p - 13) '0')
      else
        let rounded := roundDiv m (pow2 (52 - 4 * p))
        (Nat.toDigits 16 (rounded / pow2 (4 * p)), if p = 0 then [] else hexDigits p (rounded % pow2 (4 * p)))
  pointed keep whole part ++ 'p' :: exponentText 1 exponent

end Binary64

end Multilint
