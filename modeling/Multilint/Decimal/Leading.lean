import Multilint.Decimal.Reading
/-!
# Numbers at the start of a text

Programs read a number at the start of an argument and then look at what follows it. Blanks and a sign may stand
in front. A whole number is decimal, or, where every base is known, octal behind a zero and hexadecimal behind
`0x`; a fraction is decimal or hexadecimal, or the name of something that is no finite number.
-/

namespace Multilint

namespace Numeral

/-- A blank in front of a number. -/
def isSpace (c : Char) : Bool :=
  c = ' ' || ('\t' ≤ c && c ≤ '\r')

/-- The sign in front of a number, and what follows it. -/
def sign : List Char → Bool × List Char
  | '-' :: r => (true, r)
  | '+' :: r => (false, r)
  | r => (false, r)

/-- The digits of a base at the start of a text, and the rest. -/
def spanBase (base : Nat) (s : List Char) : List Char × List Char :=
  let p (c : Char) : Bool := (digitIn? base c).isSome
  (s.takeWhile p, s.dropWhile p)

/-- The digits behind `0x` or `0X`, if there are any. -/
def hexadecimal? (s : List Char) : Option (List Char × List Char) :=
  match s with
  | '0' :: x :: r =>
    let (ds, rest) := spanBase 16 r
    if (x = 'x' || x = 'X') && !ds.isEmpty then some (ds, rest) else none
  | _ => none

/-- The whole number without sign at the start of a text, and what follows it. -/
def natural? (anyBase : Bool) (s : List Char) : Option (Nat × List Char) :=
  match (if anyBase then hexadecimal? s else none) with
  | some (ds, rest) => (valueIn? 16 ds).map (·, rest)
  | none =>
    let base := if anyBase && s.head? = some '0' then 8 else 10
    let (ds, rest) := spanBase base s
    if ds.isEmpty then none else (valueIn? base ds).map (·, rest)

/-- The whole number at the start of a text, and what follows it. -/
def integer? (anyBase : Bool) (s : List Char) : Option (Int × List Char) :=
  let (negative, r) := sign (s.dropWhile isSpace)
  (natural? anyBase r).map fun (n, rest) => (if negative then -(n : Int) else n, rest)

/-- The greatest signed number of 64 bits. -/
def greatest64 : Int := bound64 / 2 - 1

/-- Whether a number is a signed one of 64 bits. -/
def isSigned64 (n : Int) : Bool :=
  -greatest64 - 1 ≤ n && n ≤ greatest64

/-- The signed number of 64 bits that is nearest to a number. -/
def clamped64 (n : Int) : Int :=
  max (-greatest64 - 1) (min greatest64 n)

/-- The signed number of 64 bits that a whole text writes, perhaps between blanks. -/
def signed64? (anyBase : Bool) (s : List Char) : Option Int :=
  match integer? anyBase s with
  | some (n, rest) => if isSigned64 n && rest.all isSpace then some n else none
  | none => none

end Numeral

namespace Binary64

/-- The number that is none. -/
def notANumber : Binary64 := ⟨UInt64.ofNat (infinityBits + pow2 51)⟩

/-- Positive infinity. -/
def infinity : Binary64 := ⟨UInt64.ofNat infinityBits⟩

/-- The exponent at the start of a text behind a letter, and what follows it; zero where none stands there. -/
def exponentAt (letter : Char) (s : List Char) : Int × List Char :=
  match s with
  | e :: r =>
    let (negative, ds) := Numeral.sign r
    let (digits, rest) := Numeral.spanDigits ds
    if e.toLower = letter && !digits.isEmpty then
      let n : Int := Numeral.value digits
      (if negative then -n else n, rest)
    else (0, s)
  | [] => (0, s)

/-- The non-negative number nearest to `m · 2^e`. -/
def ofBinary (m : Nat) (e : Int) : Binary64 :=
  if m = 0 || e < -8000 - 4 * m.log2 then ⟨0⟩
  else if e > 8000 then infinity
  else
    match e with
    | .ofNat k => ofRatio (m * pow2 k) 1
    | .negSucc k => ofRatio m (pow2 (k + 1))

/-- The hexadecimal fraction at the start of a text, and what follows it. -/
def hexadecimal? (s : List Char) : Option (Binary64 × List Char) :=
  match s with
  | '0' :: x :: r =>
    let (whole, rest) := Numeral.spanBase 16 r
    let (part, rest) := match rest with
      | '.' :: r =>
        let (part, r) := Numeral.spanBase 16 r
        if whole.isEmpty && part.isEmpty then ([], rest) else (part, r)
      | rest => ([], rest)
    if (x = 'x' || x = 'X') && !(whole.isEmpty && part.isEmpty) then
      let (e, rest) := exponentAt 'p' rest
      (Numeral.valueIn? 16 (whole ++ part)).map fun m => (ofBinary m (e - 4 * part.length), rest)
    else none
  | _ => none

/-- The decimal fraction at the start of a text, and what follows it. -/
def decimal? (s : List Char) : Option (Binary64 × List Char) :=
  let (whole, rest) := Numeral.spanDigits s
  let (part, rest) := match rest with
    | '.' :: r =>
      let (part, r) := Numeral.spanDigits r
      if whole.isEmpty && part.isEmpty then ([], rest) else (part, r)
    | rest => ([], rest)
  if whole.isEmpty && part.isEmpty then none
  else
    let (e, rest) := exponentAt 'e' rest
    some (ofDigits (whole ++ part) (e - part.length), rest)

/-- The name of infinity or of what is no number at the start of a text, and what follows it. -/
def named? (s : List Char) : Option (Binary64 × List Char) :=
  let begins (name : String) : Bool := name.toList.isPrefixOf (s.map Char.toLower)
  if begins "infinity" then some (infinity, s.drop 8)
  else if begins "inf" then some (infinity, s.drop 3)
  else if begins "nan" then some (notANumber, s.drop 3)
  else none

/-- The number at the start of a text, and what follows it. -/
def leading? (s : List Char) : Option (Binary64 × List Char) :=
  let (negative, r) := Numeral.sign (s.dropWhile Numeral.isSpace)
  let found := match hexadecimal? r with
    | some x => some x
    | none =>
      match decimal? r with
      | some x => some x
      | none => named? r
  found.map fun (x, rest) => (if negative then x.negate else x, rest)

end Binary64

end Multilint
