import Multilint.Json.Fault
import Multilint.Text.Numeral
/-!
# Reading JSON

A reader takes a cursor and gives a value and the cursor behind it, or the fault with its place. Texts
are read once from left to right, so the first fault is the one reported. Lists and objects may be
nested up to a limit; the limit is the recursion argument of `JsonReader.value`.
-/

namespace Multilint

/-- The outcome of reading. -/
abbrev Reading := Except JsonFailure

/-- A place in a text: what is left of it, and how many bytes are behind. -/
structure Cursor where
  /-- The text from here on. -/
  rest : List Char
  /-- The number of bytes before. -/
  offset : Nat
  deriving Repr

namespace Cursor

/-- The start of a text. -/
def ofText (s : List Char) : Cursor :=
  ⟨s, 0⟩

/-- One character further. -/
def next (c : Cursor) : Cursor :=
  match c.rest with
  | [] => c
  | x :: xs => ⟨xs, c.offset + x.utf8Size⟩

/-- The place that a fault of the coming character is reported at. -/
def ahead (c : Cursor) : Nat :=
  if c.rest.isEmpty then c.offset else c.offset + 1

/-- A blank between the parts of a value. -/
def isGap (x : Char) : Bool :=
  x == ' ' || x == '\n' || x == '\t' || x == '\r'

/-- Behind the blanks. -/
def skipGap (c : Cursor) : Cursor :=
  ⟨c.rest.dropWhile isGap, c.offset + (c.rest.takeWhile isGap).length⟩

/-- Behind the ASCII digits. -/
def skipDigits (c : Cursor) : Cursor :=
  ⟨c.rest.dropWhile Numeral.isDigit, c.offset + (c.rest.takeWhile Numeral.isDigit).length⟩

/-- A fault of what has been read. -/
def fail {α : Type} (c : Cursor) (f : JsonFault) : Reading α :=
  .error ⟨f, some c.offset⟩

/-- A fault of the coming character. -/
def failAhead {α : Type} (c : Cursor) (f : JsonFault) : Reading α :=
  .error ⟨f, some c.ahead⟩

/-- A fault seen in reading the coming character. Texts are read by bytes, so the place is behind its
first byte, however many it has. -/
def failPast {α : Type} (c : Cursor) (f : JsonFault) : Reading α :=
  .error ⟨f, some (c.offset + 1)⟩

end Cursor

namespace JsonReader

/-! ## Words and strings -/

/-- The rest of a word whose first character has been read. -/
def word (c : Cursor) : List Char → Reading Cursor
  | [] => .ok c
  | w :: ws =>
    match c.rest with
    | [] => c.fail .endInValue
    | x :: _ => if x = w then word c.next ws else c.failPast .badWord

/-- The unit written by four hexadecimal digits. -/
def hexUnit (c : Cursor) : Reading (Nat × Cursor) :=
  if Text.byteCount (c.rest.take 4) < 4 then
    .error ⟨.endInString, some (c.offset + Text.byteCount c.rest)⟩
  else
    match c.rest with
    | a :: b :: x :: y :: rest =>
      match Numeral.valueIn? 16 [a, b, x, y] with
      | some n => .ok (n, ⟨rest, c.offset + 4⟩)
      | none => .error ⟨.badEscape, some (c.offset + 4)⟩
    | _ => .error ⟨.badEscape, some (c.offset + 4)⟩

/-- The coming character inside a string. -/
def comingChar (c : Cursor) : Reading Char :=
  match c.rest with
  | [] => c.fail .endInString
  | x :: _ => .ok x

/-- The character of a Unicode escape, whose letter has been read; two escapes make one character
where the first is a leading surrogate. -/
def unicodeEscape (c : Cursor) : Reading (Char × Cursor) := do
  let (n, c) ← hexUnit c
  if 0xDC00 ≤ n && n ≤ 0xDFFF then c.fail .loneSurrogate
  else if n < 0xD800 || 0xDBFF < n then return (Char.ofNat n, c)
  else
    if (← comingChar c) ≠ '\\' then c.failPast .shortEscape
    else
      let c := c.next
      if (← comingChar c) ≠ 'u' then c.failPast .shortEscape
      else
        let (m, c) ← hexUnit c.next
        if m < 0xDC00 || 0xDFFF < m then c.fail .loneSurrogate
        else return (Char.ofNat (0x10000 + (n - 0xD800) * 0x400 + (m - 0xDC00)), c)

/-- The character that a one-letter escape stands for. -/
def plainEscape? (c : Char) : Option Char :=
  if c = '"' || c = '\\' || c = '/' then some c
  else if c = 'b' then some (Char.ofNat 8)
  else if c = 'f' then some (Char.ofNat 12)
  else if c = 'n' then some '\n'
  else if c = 'r' then some '\r'
  else if c = 't' then some '\t'
  else none

/-- The characters of a string up to its closing quote; `done` are the ones before, last first. -/
def stringBody : Nat → List Char → Cursor → Reading (String × Cursor)
  | 0, _, c => c.fail .endInString
  | fuel + 1, done, c =>
    match c.rest with
    | [] => c.fail .endInString
    | x :: _ =>
      if x = '"' then .ok (String.ofList done.reverse, c.next)
      else if x = '\\' then
        match comingChar c.next with
        | .error e => .error e
        | .ok e =>
          if e = 'u' then
            match unicodeEscape c.next.next with
            | .error e => .error e
            | .ok (y, c) => stringBody fuel (y :: done) c
          else
            match plainEscape? e with
            | some y => stringBody fuel (y :: done) c.next.next
            | none => c.next.failPast .badEscape
      else if x.toNat < 32 then c.failPast .controlCharacter
      else stringBody fuel (x :: done) c.next

/-- A string whose opening quote has been read. -/
def string (c : Cursor) : Reading (String × Cursor) :=
  stringBody (c.rest.length + 1) [] c

/-! ## Numbers -/

/-- The significand after more digits, as far as it fits in 64 bits, and the number of digits that
went into it. -/
def significandOf (n : Nat) : List Char → Nat × Nat
  | [] => (n, 0)
  | d :: ds =>
    let m := n * 10 + Numeral.digitValue d
    if Numeral.bound64 ≤ m then (n, 0)
    else
      let (m, used) := significandOf m ds
      (m, used + 1)

/-- The number `significand · 10^exponent`, rounded after each of at most a few steps. -/
def decimal (negative : Bool) (significand : Nat) (exponent : Int) (c : Cursor) :
    Reading (JsonNumber × Cursor) :=
  go 4 (Binary64.ofNat significand) exponent
where
  /-- Scales by at most 308 powers of ten a step. -/
  go : Nat → Binary64 → Int → Reading (JsonNumber × Cursor)
    | 0, x, _ => .ok (.float (if negative then x.negate else x), c)
    | fuel + 1, x, e =>
      if e.natAbs ≤ 308 then
        let y := if 0 ≤ e then x.timesTen e.natAbs else x.overTen e.natAbs
        if !y.isFinite then c.fail .tooLarge
        else .ok (.float (if negative then y.negate else y), c)
      else if x.isZero then .ok (.float (if negative then x.negate else x), c)
      else if 0 ≤ e then c.fail .tooLarge
      else go fuel (x.overTen 308) (e + 308)

/-- The number whose exponent letter comes next. -/
def exponentPart (negative : Bool) (significand : Nat) (start : Int) (c : Cursor) :
    Reading (JsonNumber × Cursor) :=
  let c := c.next
  let (minus, c) := match c.rest with
    | '+' :: _ => (false, c.next)
    | '-' :: _ => (true, c.next)
    | _ => (false, c)
  match c.rest with
  | [] => c.fail .endInValue
  | x :: _ =>
    if !Numeral.isDigit x then c.failPast .badNumber
    else
      let ds := c.rest.takeWhile Numeral.isDigit
      let e := Numeral.value ds
      if 0x80000000 ≤ e then
        -- The digits up to the first one too many have been read when the fault is seen.
        if significand ≠ 0 && !minus then
          let short := (List.range (ds.length + 1)).find? fun k =>
            0x80000000 ≤ Numeral.value (ds.take k)
          .error ⟨.tooLarge, some (c.offset + short.getD ds.length)⟩
        else
          let zero : Binary64 := ⟨0⟩
          .ok (.float (if negative then zero.negate else zero), c.skipDigits)
      else
        decimal negative significand (start + (if minus then -(e : Int) else e)) c.skipDigits

/-- The number after its last digit before an exponent. -/
def numberEnd (negative : Bool) (significand : Nat) (start : Int) (c : Cursor) :
    Reading (JsonNumber × Cursor) :=
  match c.rest with
  | 'e' :: _ | 'E' :: _ => exponentPart negative significand start c
  | _ => decimal negative significand start c

/-- The number whose point comes next. Digits beyond 64 bits of significand are read and dropped. -/
def fractionPart (negative : Bool) (significand : Nat) (start : Int) (c : Cursor) :
    Reading (JsonNumber × Cursor) :=
  let c := c.next
  let ds := c.rest.takeWhile Numeral.isDigit
  if ds.isEmpty then
    match c.rest with
    | [] => c.failAhead .endInValue
    | _ => c.failAhead .badNumber
  else
    let (n, used) := significandOf significand ds
    numberEnd negative n (start - used) c.skipDigits

/-- The number after its whole part. -/
def afterWhole (negative : Bool) (significand : Nat) (dropped : Nat) (c : Cursor) :
    Reading (JsonNumber × Cursor) :=
  match c.rest with
  | '.' :: _ => fractionPart negative significand dropped c
  | 'e' :: _ | 'E' :: _ => exponentPart negative significand dropped c
  | _ =>
    if 0 < dropped then decimal negative significand dropped c
    else if !negative then .ok (.integer significand, c)
    else if significand = 0 || 0x8000000000000000 < significand then
      .ok (.float (Binary64.ofNat significand).negate, c)
    else .ok (.integer (-(significand : Int)), c)

/-- A number whose sign has been read. -/
def unsignedNumber (negative : Bool) (c : Cursor) : Reading (JsonNumber × Cursor) :=
  match c.rest with
  | [] => c.fail .endInValue
  | '0' :: _ =>
    match c.next.rest with
    | x :: _ =>
      if Numeral.isDigit x then c.next.failAhead .badNumber else afterWhole negative 0 0 c.next
    | [] => afterWhole negative 0 0 c.next
  | x :: _ =>
    if !Numeral.isDigit x then c.failPast .badNumber
    else
      let ds := c.rest.takeWhile Numeral.isDigit
      let (n, used) := significandOf 0 ds
      afterWhole negative n (ds.length - used) c.skipDigits

/-- A number, with its sign if it has one. -/
def numberToken (c : Cursor) : Reading (JsonNumber × Cursor) :=
  match c.rest with
  | '-' :: _ => unsignedNumber true c.next
  | _ => unsignedNumber false c

/-! ## Lists and objects -/

/-- Whether a list goes on. The cursor stands before the next item, or before the closing
bracket. -/
def listStep (first : Bool) (c : Cursor) : Reading (Bool × Cursor) :=
  let c := c.skipGap
  match c.rest with
  | [] => c.failAhead .endInList
  | ']' :: _ => .ok (false, c)
  | ',' :: _ =>
    if first then .ok (true, c)
    else
      let c := c.next.skipGap
      match c.rest with
      | [] => c.failAhead .endInValue
      | ']' :: _ => c.failAhead .trailingComma
      | _ => .ok (true, c)
  | _ => if first then .ok (true, c) else c.failAhead .noListEnd

/-- Whether an object goes on. The cursor stands before the next key, or before the closing
brace. -/
def objectStep (first : Bool) (c : Cursor) : Reading (Bool × Cursor) :=
  let c := c.skipGap
  match c.rest with
  | [] => c.failAhead .endInObject
  | '\x7d' :: _ => .ok (false, c)
  | ',' :: _ =>
    if first then c.failAhead .badKey
    else
      let c := c.next.skipGap
      match c.rest with
      | [] => c.failAhead .endInValue
      | '"' :: _ => .ok (true, c)
      | '\x7d' :: _ => c.failAhead .trailingComma
      | _ => c.failAhead .badKey
  | '"' :: _ => if first then .ok (true, c) else c.failAhead .noObjectEnd
  | _ => if first then c.failAhead .badKey else c.failAhead .noObjectEnd

/-- Behind the colon of a member. -/
def colon (c : Cursor) : Reading Cursor :=
  let c := c.skipGap
  match c.rest with
  | [] => c.failAhead .endInObject
  | ':' :: _ => .ok c.next
  | _ => c.failAhead .noColon

/-- Behind the closing bracket of a list. -/
def listEnd (c : Cursor) : Reading Cursor :=
  let c := c.skipGap
  match c.rest with
  | [] => c.failAhead .endInList
  | ']' :: _ => .ok c.next
  | ',' :: _ =>
    let c := c.next.skipGap
    match c.rest with
    | ']' :: _ => c.failAhead .trailingComma
    | _ => c.failAhead .trailingText
  | _ => c.failAhead .trailingText

/-- Behind the closing brace of an object. -/
def objectEnd (c : Cursor) : Reading Cursor :=
  let c := c.skipGap
  match c.rest with
  | [] => c.failAhead .endInObject
  | '\x7d' :: _ => .ok c.next
  | ',' :: _ => c.failAhead .trailingComma
  | _ => c.failAhead .trailingText

/-- The items of a list from where the cursor stands, up to the closing bracket; `fuel` bounds their
number. -/
def items (item : Cursor → Reading (Json × Cursor)) :
    Nat → Bool → Cursor → Reading (List Json × Cursor)
  | 0, _, c => c.fail .endInList
  | fuel + 1, first, c =>
    match listStep first c with
    | .error e => .error e
    | .ok (false, c) => .ok ([], c)
    | .ok (true, c) =>
      match item c with
      | .error e => .error e
      | .ok (x, c) =>
        match items item fuel false c with
        | .error e => .error e
        | .ok (xs, c) => .ok (x :: xs, c)

/-- The members of an object from where the cursor stands, up to the closing brace. -/
def members (item : Cursor → Reading (Json × Cursor)) :
    Nat → Bool → Cursor → Reading (List (String × Json) × Cursor)
  | 0, _, c => c.fail .endInObject
  | fuel + 1, first, c =>
    match objectStep first c with
    | .error e => .error e
    | .ok (false, c) => .ok ([], c)
    | .ok (true, c) =>
      match string c.next with
      | .error e => .error e
      | .ok (k, c) =>
        match colon c with
        | .error e => .error e
        | .ok c =>
          match item c with
          | .error e => .error e
          | .ok (x, c) =>
            match members item fuel false c with
            | .error e => .error e
            | .ok (ms, c) => .ok ((k, x) :: ms, c)

/-- Any value; the argument is the number of lists and objects that may still be opened, plus
one. -/
def value : Nat → Cursor → Reading (Json × Cursor)
  | depth, c =>
    let c := c.skipGap
    match c.rest with
    | [] => c.failAhead .endInValue
    | 'n' :: _ => do
      let c ← word c.next "ull".toList
      return (.null, c)
    | 't' :: _ => do
      let c ← word c.next "rue".toList
      return (.bool true, c)
    | 'f' :: _ => do
      let c ← word c.next "alse".toList
      return (.bool false, c)
    | '"' :: _ => do
      let (s, c) ← string c.next
      return (.string s, c)
    | '[' :: _ =>
      match depth with
      | 0 | 1 => c.failAhead .tooDeep
      | depth + 1 => do
        let (xs, c) ← items (value depth) (c.rest.length + 1) true c.next
        let c ← listEnd c
        return (.array xs, c)
    | '\x7b' :: _ =>
      match depth with
      | 0 | 1 => c.failAhead .tooDeep
      | depth + 1 => do
        let (ms, c) ← members (value depth) (c.rest.length + 1) true c.next
        let c ← objectEnd c
        return (.object ms, c)
    | x :: _ =>
      if x = '-' || Numeral.isDigit x then do
        let (n, c) ← numberToken c
        return (.number n, c)
      else c.failAhead .noValue

/-- Nothing but blanks is left. -/
def finish (c : Cursor) : Reading Unit :=
  let c := c.skipGap
  if c.rest.isEmpty then .ok () else c.failAhead .trailingText

/-- The depth at which reading stops. -/
def depthLimit : Nat := 128

end JsonReader

/-- The value a text holds. -/
def Json.ofText (s : List Char) : Reading Json := do
  let (v, c) ← JsonReader.value JsonReader.depthLimit (Cursor.ofText s)
  JsonReader.finish c
  return v

end Multilint
