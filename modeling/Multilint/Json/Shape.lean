import Multilint.Json.Reader
/-!
# Shapes of JSON values

A shape reads the values it admits and refuses all others with the fault at its place. It does so in
two ways: straight from a text, where a syntax error and a wrong type are found in the order of the
text, and from a value read before. What is read is again a JSON value: an object with exactly the
declared fields, in their order, an absent optional field being filled in.
-/

namespace Multilint

/-- A reader of the values of one form. -/
structure Shape where
  /-- Reads a value; the first argument is what `JsonReader.value` takes. -/
  read : Nat → Cursor → Reading (Json × Cursor)
  /-- The value as the shape has it, if the shape admits it. -/
  accept : Json → Option Json

/-- What an absent field stands for. -/
inductive Presence where
  /-- The field must be there. -/
  | required
  /-- A value is filled in. -/
  | optional (value : Json)

/-- A field of an object. -/
structure Field where
  /-- The key. -/
  name : String
  /-- What its absence means. -/
  presence : Presence
  /-- The shape of its value. -/
  shape : Shape

namespace JsonReader

/-- Refuses the coming value, which has another type than expected. -/
def refuse {α : Type} (c : Cursor) (expected : String) : Reading α :=
  match c.rest with
  | 'n' :: _ => do (← word c.next "ull".toList).fail (.wrongType .null expected)
  | 't' :: _ => do (← word c.next "rue".toList).fail (.wrongType (.bool true) expected)
  | 'f' :: _ => do (← word c.next "alse".toList).fail (.wrongType (.bool false) expected)
  | '"' :: _ => do
    let (s, c) ← string c.next
    c.fail (.wrongType (.string s) expected)
  | '[' :: _ => c.fail (.wrongType .sequence expected)
  | '\x7b' :: _ => c.fail (.wrongType .map expected)
  | x :: _ =>
    if x = '-' || Numeral.isDigit x then do
      let (n, c) ← numberToken c
      c.fail (.wrongType (.number n) expected)
    else c.failAhead .noValue
  | [] => c.failAhead .noValue

/-! ## Values that are skipped -/

/-- Behind a string whose opening quote has been read; its escapes need not make characters. -/
def skipString : Nat → Cursor → Reading Cursor
  | 0, c => c.fail .endInString
  | fuel + 1, c =>
    match c.rest with
    | [] => c.fail .endInString
    | x :: _ =>
      if x = '"' then .ok c.next
      else if x = '\\' then
        match comingChar c.next with
        | .error e => .error e
        | .ok e =>
          if e = 'u' then
            match hexUnit c.next.next with
            | .error e => .error e
            | .ok (_, c) => skipString fuel c
          else if (plainEscape? e).isSome then skipString fuel c.next.next
          else c.next.failPast .badEscape
      else if x.toNat < 32 then c.fail .controlCharacter
      else skipString fuel c.next

/-- Behind an exponent whose letter comes next. -/
def skipExponent (c : Cursor) : Reading Cursor :=
  let c := c.next
  let c := match c.rest with
    | '+' :: _ | '-' :: _ => c.next
    | _ => c
  match c.rest with
  | [] => c.fail .badNumber
  | x :: _ => if Numeral.isDigit x then .ok c.skipDigits else c.failPast .badNumber

/-- Behind an exponent, if there is one. -/
def skipOptionalExponent (c : Cursor) : Reading Cursor :=
  match c.rest with
  | 'e' :: _ | 'E' :: _ => skipExponent c
  | _ => .ok c

/-- Behind the fraction and the exponent, if there are any. -/
def skipAfterWhole (c : Cursor) : Reading Cursor :=
  match c.rest with
  | '.' :: _ =>
    let c := c.next
    match c.rest with
    | x :: _ =>
      if Numeral.isDigit x then skipOptionalExponent c.skipDigits else c.failAhead .badNumber
    | [] => c.failAhead .badNumber
  | _ => skipOptionalExponent c

/-- Behind a number whose sign has been read; its size does not matter. -/
def skipNumber (c : Cursor) : Reading Cursor :=
  match c.rest with
  | '0' :: x :: _ =>
    if Numeral.isDigit x then c.next.failAhead .badNumber else skipAfterWhole c.next
  | '0' :: [] => skipAfterWhole c.next
  | x :: _ => if Numeral.isDigit x then skipAfterWhole c.skipDigits else c.failPast .badNumber
  | [] => c.fail .badNumber

mutual

/-- Behind any value, however deeply nested; `fuel` bounds the number of its parts. -/
def skipValue : Nat → Cursor → Reading Cursor
  | 0, c => c.failAhead .endInValue
  | fuel + 1, c =>
    let c := c.skipGap
    match c.rest with
    | [] => c.failAhead .endInValue
    | 'n' :: _ => word c.next "ull".toList
    | 't' :: _ => word c.next "rue".toList
    | 'f' :: _ => word c.next "alse".toList
    | '"' :: _ => skipString (c.rest.length + 1) c.next
    | '[' :: _ => skipItems fuel true c.next
    | '\x7b' :: _ => skipMembers fuel true c.next
    | '-' :: _ => skipNumber c.next
    | x :: _ => if Numeral.isDigit x then skipNumber c else c.failAhead .noValue

/-- Behind the closing bracket of a list. -/
def skipItems : Nat → Bool → Cursor → Reading Cursor
  | 0, _, c => c.failAhead .endInList
  | fuel + 1, first, c =>
    let c := c.skipGap
    match c.rest with
    | [] => c.failAhead .endInList
    | ']' :: _ => .ok c.next
    | x :: _ =>
      if first then
        match skipValue fuel c with
        | .error e => .error e
        | .ok c => skipItems fuel false c
      else if x = ',' then
        match skipValue fuel c.next with
        | .error e => .error e
        | .ok c => skipItems fuel false c
      else c.failAhead .noListEnd

/-- Behind the closing brace of an object. -/
def skipMembers : Nat → Bool → Cursor → Reading Cursor
  | 0, _, c => c.failAhead .endInObject
  | fuel + 1, first, c =>
    let c := c.skipGap
    match c.rest with
    | [] => c.failAhead .endInObject
    | '\x7d' :: _ => .ok c.next
    | x :: _ =>
      if !first && x ≠ ',' then c.failAhead .noObjectEnd
      else
        let c := if first then c else c.next.skipGap
        match c.rest with
        | [] => c.failAhead .endInObject
        | '"' :: _ =>
          match skipString (c.rest.length + 1) c.next with
          | .error e => .error e
          | .ok c =>
            match colon c with
            | .error e => .error e
            | .ok c =>
              match skipValue fuel c with
              | .error e => .error e
              | .ok c => skipMembers fuel false c
        | _ => c.failAhead .badKey

end

/-! ## Where a list or an object was left -/

/-- The place a fault of a whole list is reported at: behind its closing bracket where that comes
next, behind the comma otherwise. -/
def afterList (c : Cursor) : Cursor :=
  let c := c.skipGap
  match c.rest with
  | ']' :: _ => c.next
  | ',' :: _ => c.next.skipGap
  | _ => c

/-- The place a fault of a whole object is reported at. -/
def afterObject (c : Cursor) : Cursor :=
  let c := c.skipGap
  match c.rest with
  | '\x7d' :: _ => c.next
  | _ => c

/-! ## Fields -/

/-- The value of a field that is not there. -/
def absent (f : Field) : Except JsonFault Json :=
  match f.presence with
  | .required => .error (.missingField f.name)
  | .optional v => .ok v

/-- The members of an object with the given fields, up to the closing brace: each known member
read in its shape, each other one skipped. `known` are the fields found so far. -/
def fieldMembers (fields : List Field) (depth : Nat) :
    Nat → Bool → List (String × Json) → Cursor → Reading (List (String × Json) × Cursor)
  | 0, _, _, c => c.fail .endInObject
  | fuel + 1, first, known, c =>
    match objectStep first c with
    | .error e => .error e
    | .ok (false, c) => .ok (known, c)
    | .ok (true, c) =>
      match string c.next with
      | .error e => .error e
      | .ok (k, c) =>
        match fields.find? (·.name = k) with
        | some f =>
          if known.any (·.1 = k) then (afterObject c).fail (.duplicateField k)
          else
            match colon c with
            | .error e => .error e
            | .ok c =>
              match f.shape.read depth c with
              | .error e => .error e
              | .ok (v, c) => fieldMembers fields depth fuel false (known ++ [(k, v)]) c
        | none =>
          match colon c with
          | .error e => .error e
          | .ok c =>
            match skipValue (2 * c.rest.length + 2) c with
            | .error e => .error e
            | .ok c => fieldMembers fields depth fuel false known c

/-- The fields in their declared order, absent ones filled in. -/
def complete (fields : List Field) (known : List (String × Json)) :
    Except JsonFault (List (String × Json)) :=
  fields.mapM fun f =>
    match known.find? (·.1 = f.name) with
    | some (_, v) => .ok (f.name, v)
    | none => do return (f.name, ← absent f)

/-- The fields given by position, up to where the list ends or the fields do. -/
def fieldItems (expected : String) (depth : Nat) :
    List Field → Nat → Bool → Cursor → Reading (List (String × Json) × Cursor)
  | [], _, _, c => .ok ([], c)
  | f :: fs, index, first, c =>
    match listStep first c with
    | .error e => .error e
    | .ok (true, c) =>
      match f.shape.read depth c with
      | .error e => .error e
      | .ok (v, c) =>
        match fieldItems expected depth fs (index + 1) false c with
        | .error e => .error e
        | .ok (vs, c) => .ok ((f.name, v) :: vs, c)
    | .ok (false, c) =>
      match f.presence with
      | .required => (afterList c).fail (.wrongLength index expected)
      | .optional v =>
        match fieldItems expected depth fs (index + 1) first c with
        | .error e => .error e
        | .ok (vs, c) => .ok ((f.name, v) :: vs, c)

end JsonReader

namespace Shape

open JsonReader

/-- A text. -/
def text : Shape where
  read _ c :=
    let c := c.skipGap
    match c.rest with
    | [] => c.failAhead .endInValue
    | '"' :: _ => do
      let (s, c) ← string c.next
      return (.string s, c)
    | _ => refuse c "a string"
  accept
    | .string s => some (.string s)
    | _ => none

/-- A natural number of at most 64 bits. -/
def natural : Shape where
  read _ c :=
    let c := c.skipGap
    match c.rest with
    | [] => c.failAhead .endInValue
    | x :: _ =>
      if x = '-' || Numeral.isDigit x then do
        let (n, c) ← numberToken c
        match n with
        | .integer (.ofNat k) => return (.nat k, c)
        | .integer k => c.fail (.wrongValue (.number (.integer k)) "usize")
        | .float x => c.fail (.wrongType (.number (.float x)) "usize")
      else refuse c "usize"
  accept
    | .number (.integer (.ofNat k)) => some (.nat k)
    | _ => none

/-- Any value. -/
def anything : Shape where
  read := value
  accept := some

/-- `null`, or a value of another shape. -/
def orNull (s : Shape) : Shape where
  read depth c :=
    let c := c.skipGap
    match c.rest with
    | 'n' :: _ => do
      let c ← word c.next "ull".toList
      return (.null, c)
    | _ => s.read depth c
  accept
    | .null => some .null
    | v => s.accept v

/-- A list of values of one shape. -/
def list (s : Shape) : Shape where
  read depth c :=
    let c := c.skipGap
    match c.rest with
    | [] => c.failAhead .endInValue
    | '[' :: _ =>
      if depth ≤ 1 then c.failAhead .tooDeep
      else do
        let (xs, c) ← items (s.read (depth - 1)) (c.rest.length + 1) true c.next
        let c ← listEnd c
        return (.array xs, c)
    | _ => refuse c "a sequence"
  accept
    | .array xs => (xs.mapM s.accept).map .array
    | _ => none

/-- The fields of a value whose fields are given by name or by position. -/
def acceptFields (fields : List Field) : Json → Option Json
  | .object ms =>
    let known := ms.filter fun m => fields.any (·.name = m.1)
    if (known.map (·.1)).eraseDups.length ≠ known.length then none
    else
      let found (f : Field) : Option (String × Json) :=
        match known.find? (·.1 = f.name) with
        | some (_, v) => (f.shape.accept v).map (f.name, ·)
        | none => (absent f).toOption.map (f.name, ·)
      (fields.mapM found).map .object
  | .array xs =>
    if fields.length < xs.length then none
    else
      let found (p : Field × Nat) : Option (String × Json) :=
        match xs[p.2]? with
        | some v => (p.1.shape.accept v).map (p.1.name, ·)
        | none => (absent p.1).toOption.map (p.1.name, ·)
      (fields.zipIdx.mapM found).map .object
  | _ => none

/-- An object with given fields, or the list of their values. The name is the one that messages
use. -/
def fields (name : String) (fs : List Field) : Shape where
  read depth c :=
    let c := c.skipGap
    match c.rest with
    | [] => c.failAhead .endInValue
    | '[' :: _ =>
      if depth ≤ 1 then c.failAhead .tooDeep
      else do
        let expected := name ++ " with " ++ toString fs.length ++ " elements"
        let (ms, c) ← fieldItems expected (depth - 1) fs 0 true c.next
        let c ← listEnd c
        return (.object ms, c)
    | '\x7b' :: _ =>
      if depth ≤ 1 then c.failAhead .tooDeep
      else do
        let (known, c) ← fieldMembers fs (depth - 1) (c.rest.length + 1) true [] c.next
        match complete fs known with
        | .error f => (afterObject c).fail f
        | .ok ms =>
          let c ← objectEnd c
          return (.object ms, c)
    | _ => refuse c name
  accept := acceptFields fs

/-- The value of this shape that a text holds. -/
def ofText (s : Shape) (text : List Char) : Reading Json := do
  let (v, c) ← s.read depthLimit (Cursor.ofText text)
  finish c
  return v

end Shape

end Multilint
