import Multilint.Text.Numeral
/-!
# Dates and times of TOML

A date, a time of day, or both with a distance from the common time. They are read into the one way of
writing them that has no choice left: a `T` between date and time, seconds in every time, no more digits
of a second than needed, and no distance of minus nothing.
-/

namespace Multilint

namespace Toml

namespace Moment

/-- A number of exactly so many digits, and the rest. -/
def digits? (n : Nat) (s : List Char) : Option (Nat × List Char) :=
  let ds := s.take n
  if ds.length = n && ds.all Numeral.isDigit then some (Numeral.value ds, s.drop n) else none

/-- A number with leading zeros. -/
def padded (n : Nat) (width : Nat) : String :=
  let ds := (toString n).toList
  String.ofList (List.replicate (width - ds.length) '0' ++ ds)

/-- A leap year. -/
def isLeap (year : Nat) : Bool :=
  year % 4 = 0 && (year % 100 ≠ 0 || year % 400 = 0)

/-- The days of a month. -/
def daysIn (year month : Nat) : Nat :=
  if month = 2 then (if isLeap year then 29 else 28)
  else if month = 4 || month = 6 || month = 9 || month = 11 then 30
  else 31

/-- A date and the rest. -/
def date? (s : List Char) : Option (String × List Char) := do
  let (y, r) ← digits? 4 s
  let '-' :: r := r | none
  let (m, r) ← digits? 2 r
  let '-' :: r := r | none
  let (d, r) ← digits? 2 r
  if 1 ≤ m && m ≤ 12 && 1 ≤ d && d ≤ daysIn y m then
    some (padded y 4 ++ "-" ++ padded m 2 ++ "-" ++ padded d 2, r)
  else none

/-- The fraction of a second, to nine digits and without zeros at its end. -/
def fraction? (s : List Char) : Option (String × List Char) :=
  match s with
  | '.' :: r =>
    let (ds, r) := Numeral.spanDigits r
    if ds.isEmpty then none
    else
      let kept := ((ds.take 9).reverse.dropWhile (· == '0')).reverse
      some (if kept.isEmpty then "" else "." ++ String.ofList kept, r)
  | r => some ("", r)

/-- The seconds behind hours and minutes, which may be left out with their fraction. -/
def seconds? (s : List Char) : Option (String × List Char) :=
  match s with
  | ':' :: r => do
    let (sec, r) ← digits? 2 r
    let (f, r) ← fraction? r
    if sec ≤ 60 then some (padded sec 2 ++ f, r) else none
  | r => some ("00", r)

/-- A time of day and the rest. -/
def time? (s : List Char) : Option (String × List Char) := do
  let (h, r) ← digits? 2 s
  let ':' :: r := r | none
  let (m, r) ← digits? 2 r
  let (sec, r) ← seconds? r
  if h ≤ 23 && m ≤ 59 then some (padded h 2 ++ ":" ++ padded m 2 ++ ":" ++ sec, r) else none

/-- The distance from the common time and the rest. -/
def offset? (s : List Char) : Option (String × List Char) :=
  match s with
  | 'Z' :: r => some ("Z", r)
  | 'z' :: r => some ("Z", r)
  | c :: r =>
    if c == '+' || c == '-' then do
      let (h, r) ← digits? 2 r
      let ':' :: r := r | none
      let (m, r) ← digits? 2 r
      let c := if h = 0 && m = 0 then '+' else c
      if h ≤ 23 && m ≤ 59 then
        some (String.singleton c ++ padded h 2 ++ ":" ++ padded m 2, r)
      else none
    else some ("", c :: r)
  | [] => some ("", [])

/-- A date, a time or both, and the rest. -/
def ofText? (s : List Char) : Option (String × List Char) :=
  match date? s with
  | none => time? s
  | some (d, r) =>
    match r with
    | c :: r' =>
      if c == 'T' || c == 't' || (c == ' ' && r'.head?.any Numeral.isDigit) then do
        let (t, r) ← time? r'
        let (o, r) ← offset? r
        return (d ++ "T" ++ t ++ o, r)
      else some (d, r)
    | [] => some (d, [])

end Moment

end Toml

end Multilint
