import Multilint.Text.Basic
/-!
# Numerals

Reading of unsigned 64-bit numbers and of the digits of other bases, and the shape of a floating-point numeral.
Only the ASCII digits count as digits here, whatever a tool prints.
-/

namespace Multilint

namespace Numeral

/-- The numbers of 64 bits end below this one. -/
def bound64 : Nat := 0x10000000000000000

/-- An ASCII digit. -/
def isDigit (c : Char) : Bool :=
  '0' ≤ c && c ≤ '9'

/-- The value of an ASCII digit. -/
def digitValue (c : Char) : Nat :=
  c.toNat - '0'.toNat

/-- The number that a list of ASCII digits writes in base ten. -/
def value (ds : List Char) : Nat :=
  ds.foldl (fun n c => n * 10 + digitValue c) 0

/-- The number a non-empty list of ASCII digits writes, if it has at most 64 bits. -/
def digits64? (ds : List Char) : Option Nat :=
  if ds.isEmpty || !ds.all isDigit then none
  else
    let n := value ds
    if n < bound64 then some n else none

/-- An unsigned 64-bit number: ASCII digits, after a plus sign if there is one. -/
def unsigned64? : List Char → Option Nat
  | '+' :: ds => digits64? ds
  | ds => digits64? ds

/-- The digits at the start and the rest. -/
def spanDigits (s : List Char) : List Char × List Char :=
  (s.takeWhile isDigit, s.dropWhile isDigit)

/-! ## Digits of other bases -/

/-- The value of a hexadecimal digit. -/
def hexValue? (c : Char) : Option Nat :=
  if '0' ≤ c ∧ c ≤ '9' then some (c.toNat - '0'.toNat)
  else if 'a' ≤ c ∧ c ≤ 'f' then some (c.toNat - 'a'.toNat + 10)
  else if 'A' ≤ c ∧ c ≤ 'F' then some (c.toNat - 'A'.toNat + 10)
  else none

/-- The value of a digit in a base up to sixteen. -/
def digitIn? (base : Nat) (c : Char) : Option Nat :=
  (hexValue? c).filter (· < base)

/-- The number that a list of digits writes in a base up to sixteen. -/
def valueIn? (base : Nat) (ds : List Char) : Option Nat := do
  let vs ← ds.mapM (digitIn? base)
  return vs.foldl (fun n v => n * base + v) 0

/-- The character whose number a list of hexadecimal digits writes. -/
def hexChar? (ds : List Char) : Option Char := do
  let n ← valueIn? 16 ds
  if h : n.isValidChar then some (Char.ofNatAux n h) else none

/-! ## Fractions -/

/-- Nothing, or an exponent: a letter `e`, an optional sign and at least one digit. -/
def isExponentOrEnd : List Char → Bool
  | [] => true
  | e :: rest =>
    (e == 'e' || e == 'E') &&
      let ds := match rest with
        | '+' :: r => r
        | '-' :: r => r
        | r => r
      !ds.isEmpty && ds.all isDigit

/-- A decimal fraction with an optional exponent; a digit stands on at least one side of the
point. -/
def isFraction (s : List Char) : Bool :=
  let (whole, rest) := spanDigits s
  match rest with
  | '.' :: r =>
    let (part, r) := spanDigits r
    !(whole.isEmpty && part.isEmpty) && isExponentOrEnd r
  | r => !whole.isEmpty && isExponentOrEnd r

/-- The shape of a floating-point numeral: a decimal fraction, an infinity or a not-a-number, after
a sign if there is one. -/
def isFloat (s : List Char) : Bool :=
  let body := match s with
    | '+' :: r => r
    | '-' :: r => r
    | r => r
  isFraction body ||
    ["inf", "infinity", "nan"].contains (String.ofList (body.map Char.toLower))

end Numeral

end Multilint
