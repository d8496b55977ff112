import Multilint.Decimal.Reading
import Multilint.Toml.Moment
import Multilint.Toml.Value
/-!
# Reading TOML

`Entries.ofText?` reads a document: lines that are empty, set a key, or open a table. A reader takes the
characters ahead and gives a value and the characters behind it, or nothing where the text is refused.
-/

namespace Multilint

namespace Toml

/-- A reader of a part of a text. -/
abbrev Reader := StateT (List Char) Option

namespace Reader

/-- Refuses the text. -/
def refuse {α : Type} : Reader α := failure

/-- Whether a given text comes next; if so, it is read. -/
def accept (t : String) : Reader Bool := do
  let cs := t.toList
  let s ← get
  if cs.isPrefixOf s then do set (s.drop cs.length); return true
  else return false

/-- The characters of a class that come next. -/
def takeWhile (p : Char → Bool) : Reader (List Char) := do
  let s ← get
  set (s.dropWhile p)
  return s.takeWhile p

/-- The next character, if there is one. -/
def peek : Reader (Option Char) := do return (← get).head?

/-- Passes over some characters. -/
def skip (n : Nat) : Reader Unit := modify (List.drop n)

end Reader

open Reader

/-- A blank within a line. -/
def isBlank (c : Char) : Bool :=
  c == ' ' || c == '\t'

/-- A character that may stand in a comment or between quotes. -/
def isPrintable (c : Char) : Bool :=
  c == '\t' || (0x20 ≤ c.toNat && c.toNat ≠ 0x7F)

/-- A character of a key without quotes. -/
def isKeyChar (c : Char) : Bool :=
  c.isAlphanum || c == '_' || c == '-'

/-- Passes over blanks. -/
def blanks : Reader Unit := do
  let _ ← takeWhile isBlank

/-- Passes over a comment, if there is one. -/
def comment : Reader Unit := do
  if (← peek) == some '#' then
    let _ ← takeWhile isPrintable

/-- The end of a line; at the end of the text there may be none. -/
def lineBreak : Reader Bool := do
  if ← accept "\n" then return true else accept "\r\n"

/-- Passes over what may stand between the parts of an array or of a table in braces. The fuel is the
number of characters. -/
def gaps : Nat → Reader Unit
  | 0 => return ()
  | fuel + 1 => do
    blanks
    comment
    if ← lineBreak then gaps fuel

/-! ## Texts -/

/-- The character that so many hexadecimal digits write. -/
def hexChar (count : Nat) : Reader Char := do
  let ds := (← get).take count
  skip count
  match if ds.length = count then Numeral.hexChar? ds else none with
  | none => refuse
  | some c => return c

/-- The character of an escape behind its backslash. -/
def escape : Reader Char := do
  let c ← peek
  skip 1
  match c with
  | some 'b' => return '\x08'
  | some 'e' => return '\x1b'
  | some 't' => return '\t'
  | some 'n' => return '\n'
  | some 'f' => return '\x0c'
  | some 'r' => return '\r'
  | some '"' => return '"'
  | some '\\' => return '\\'
  | some 'x' => hexChar 2
  | some 'u' => hexChar 4
  | some 'U' => hexChar 8
  | _ => refuse

/-- A text on one line behind its opening quote. -/
def basicText : Nat → List Char → Reader String
  | 0, _ => refuse
  | fuel + 1, text => do
    match ← peek with
    | some '"' => do skip 1; return String.ofList text
    | some '\\' => do
      skip 1
      let c ← escape
      basicText fuel (text ++ [c])
    | some c => if isPrintable c then do skip 1; basicText fuel (text ++ [c]) else refuse
    | none => refuse

/-- A text on one line without escapes behind its opening quote. -/
def literalText : Reader String := do
  let text ← takeWhile fun c => isPrintable c && c != '\''
  if ← accept "'" then return String.ofList text else refuse

/-- What follows a backslash that ends its line: the blanks and line breaks up to the next text do not
count. -/
def unfolded : List Char → List Char
  | ' ' :: s => unfolded s
  | '\t' :: s => unfolded s
  | '\n' :: s => unfolded s
  | '\r' :: '\n' :: s => unfolded s
  | s => s

/-- Whether a backslash ends its line. -/
def foldsLine (s : List Char) : Bool :=
  match s.dropWhile isBlank with
  | '\n' :: _ => true
  | '\r' :: '\n' :: _ => true
  | _ => false

/-- A text over several lines behind its opening quotes. Up to two quotes may stand before the closing
ones. -/
def longText (quote : Char) : Nat → List Char → Reader String
  | 0, _ => refuse
  | fuel + 1, text => do
    let s ← get
    let quotes := (s.takeWhile (· == quote)).length
    if quotes ≥ 3 then
      let extra := min (quotes - 3) 2
      skip (extra + 3)
      return String.ofList (text ++ List.replicate extra quote)
    else if quotes > 0 then do
      skip quotes
      longText quote fuel (text ++ List.replicate quotes quote)
    else
      match s with
      | [] => refuse
      | '\\' :: rest =>
        if quote == '\'' then do skip 1; longText quote fuel (text ++ ['\\'])
        else if foldsLine rest then do
          set (unfolded rest)
          longText quote fuel text
        else do
          skip 1
          let c ← escape
          longText quote fuel (text ++ [c])
      | '\n' :: _ => do skip 1; longText quote fuel (text ++ ['\n'])
      | '\r' :: '\n' :: _ => do skip 2; longText quote fuel (text ++ ['\r', '\n'])
      | c :: _ => if isPrintable c then do skip 1; longText quote fuel (text ++ [c]) else refuse

/-- A text over several lines; a line break directly behind the opening quotes does not count. -/
def longTextFrom (quote : Char) : Reader String := do
  let _ ← lineBreak
  longText quote ((← get).length + 1) []

/-! ## Keys -/

/-- A part of a key. -/
def simpleKey : Reader String := do
  if ← accept "\"" then basicText ((← get).length + 1) []
  else if ← accept "'" then literalText
  else do
    let name ← takeWhile isKeyChar
    if name.isEmpty then refuse else return String.ofList name

/-- How deep values may lie within each other, and of how many parts a key may consist. -/
def maxDepth : Nat := 80

/-- The parts of a key with dots between them. The fuel is the number of characters. -/
def keyParts : Nat → Reader (List String)
  | 0 => refuse
  | fuel + 1 => do
    blanks
    let name ← simpleKey
    blanks
    if ← accept "." then return name :: (← keyParts fuel) else return [name]

/-- A key: the parts before the last one, and the last one. -/
def key : Reader (List String × String) := do
  let parts ← keyParts ((← get).length + 1)
  match parts.getLast? with
  | none => refuse
  | some name => if parts.length ≤ maxDepth then return (parts.dropLast, name) else refuse

/-! ## Numbers -/

/-- The digits of a number: underscores stand between digits only. -/
def plainDigits? (isDigit : Char → Bool) (s : List Char) : Option (List Char) :=
  let groups := s.splitBy fun a b => (a == '_') == (b == '_')
  let sound := s.head?.any isDigit && s.getLast?.any isDigit &&
    groups.all fun g => g.all isDigit || g == ['_']
  if sound then some (s.filter (· != '_')) else none

/-- The number that digits write in a base. -/
def inBase? (base : Nat) (s : List Char) : Option Nat := do
  let ds ← plainDigits? (fun c => (Numeral.digitIn? base c).isSome) s
  Numeral.valueIn? base ds

/-- Decimal digits that do not start with a zero that says nothing. -/
def wholeDigits? (s : List Char) : Option (List Char) := do
  let ds ← plainDigits? Numeral.isDigit s
  match ds with
  | '0' :: _ :: _ => none
  | ds => some ds

/-- A whole number, in as many as 128 bits with or without a sign. -/
def integer? (s : List Char) : Option Int :=
  let fits (i : Int) : Option Int :=
    if -0x80000000000000000000000000000000 ≤ i ∧ i < 0x100000000000000000000000000000000 then some i
    else none
  match s with
  | '0' :: 'x' :: ds => (inBase? 16 ds).bind fun n => fits n
  | '0' :: 'o' :: ds => (inBase? 8 ds).bind fun n => fits n
  | '0' :: 'b' :: ds => (inBase? 2 ds).bind fun n => fits n
  | '+' :: ds => (wholeDigits? ds).bind fun ds => fits (Numeral.value ds)
  | '-' :: ds => (wholeDigits? ds).bind fun ds => fits (-(Numeral.value ds : Int))
  | ds => (wholeDigits? ds).bind fun ds => fits (Numeral.value ds)

/-- The sign a number may start with, and the rest. -/
def sign : List Char → Bool × List Char
  | '-' :: r => (true, r)
  | '+' :: r => (false, r)
  | r => (false, r)

/-- An exponent behind its letter, without underscores. -/
def exponentText? (s : List Char) : Option (List Char) :=
  let (negative, r) := sign s
  (plainDigits? Numeral.isDigit r).map fun ds => if negative then '-' :: ds else ds

/-- A finite floating-point number without its sign: digits, then a fraction, an exponent, or both. -/
def unsignedFloat? (s : List Char) : Option Binary64 := do
  let whole := s.takeWhile fun c => Numeral.isDigit c || c == '_'
  let rest := s.drop whole.length
  let whole ← wholeDigits? whole
  let (part, rest) ← match rest with
    | '.' :: r =>
      let part := r.takeWhile fun c => Numeral.isDigit c || c == '_'
      (plainDigits? Numeral.isDigit part).map fun ds => ('.' :: ds, r.drop part.length)
    | r => some ([], r)
  let power ← match rest with
    | [] => if part.isEmpty then none else some []
    | e :: r => if e == 'e' || e == 'E' then (exponentText? r).map ('e' :: ·) else none
  Binary64.ofText? (whole ++ part ++ power)

/-- A floating-point number. -/
def float? (s : List Char) : Option Binary64 :=
  let (negative, r) := sign s
  let x : Option Binary64 := match String.ofList r with
    | "inf" => some ⟨UInt64.ofNat Binary64.infinityBits⟩
    | "nan" => some ⟨UInt64.ofNat (Binary64.infinityBits + Binary64.pow2 51)⟩
    | _ => unsignedFloat? r
  x.map fun x => if negative then x.negate else x

/-- A character of a number, a date or a truth value. -/
def isWordChar (c : Char) : Bool :=
  c.isAlphanum || c == '_' || c == '-' || c == '+' || c == '.' || c == ':'

/-- A truth value, a number or a date. -/
def word : Reader Value := do
  let s ← get
  let w := s.takeWhile isWordChar
  match Moment.ofText? s with
  | some (m, r) => if r.head?.any isWordChar then refuse else do set r; return .moment m
  | none => do
    skip w.length
    match String.ofList w with
    | "true" => return .bool true
    | "false" => return .bool false
    | _ =>
      match integer? w, float? w with
      | some i, _ => return .integer i
      | none, some x => return .float x
      | none, none => refuse

/-! ## Values -/

mutual

/-- A value in which others may lie so deep. The fuel is the number of characters. -/
def value (depth : Nat) : Nat → Reader Value
  | 0 => refuse
  | fuel + 1 => do
    if ← accept "\"\"\"" then return .string (← longTextFrom '"')
    else if ← accept "'''" then return .string (← longTextFrom '\'')
    else if ← accept "\"" then return .string (← basicText ((← get).length + 1) [])
    else if ← accept "'" then return .string (← literalText)
    else if ← accept "[" then
      if depth = 0 then refuse else return .array false (← items (depth - 1) fuel)
    else if ← accept "\x7b" then
      if depth = 0 then refuse else return .table .inline (← members (depth - 1) fuel [])
    else word

/-- The items of an array up to its closing bracket. -/
def items (depth : Nat) : Nat → Reader (List Value)
  | 0 => refuse
  | fuel + 1 => do
    gaps ((← get).length + 1)
    if ← accept "]" then return []
    else do
      let v ← value depth fuel
      gaps ((← get).length + 1)
      if ← accept "," then return v :: (← items depth fuel)
      else if ← accept "]" then return [v]
      else refuse

/-- The members of a table in braces up to its closing brace. -/
def members (depth : Nat) : Nat → Entries → Reader Entries
  | 0, _ => refuse
  | fuel + 1, es => do
    gaps ((← get).length + 1)
    if ← accept "\x7d" then return es
    else do
      let (path, name) ← key
      gaps ((← get).length + 1)
      if !(← accept "=") then refuse
      gaps ((← get).length + 1)
      let v ← value depth fuel
      gaps ((← get).length + 1)
      match es.define .inline path name v with
      | none => refuse
      | some es =>
        if ← accept "," then members depth fuel es
        else if ← accept "\x7d" then return es
        else refuse

end

/-! ## Documents -/

/-- A document while it is read: its entries, and the header of the table that keys go into. -/
structure Draft where
  /-- The entries. -/
  entries : Entries := []
  /-- The header. -/
  header : List String := []

/-- What is on a line, without its end. -/
def line (d : Draft) : Reader Draft := do
  blanks
  match ← peek with
  | none => return d
  | some '#' => return d
  | some '\n' => return d
  | some '\r' => return d
  | some '[' => do
    let items ← accept "[["
    if !items then skip 1
    let (path, name) ← key
    if !(← accept (if items then "]]" else "]")) then refuse
    let es := if items then d.entries.openItem path name else d.entries.openTable path name
    match es with
    | none => refuse
    | some es => return ⟨es, path ++ [name]⟩
  | some _ => do
    let (path, name) ← key
    if !(← accept "=") then refuse
    blanks
    let v ← value maxDepth ((← get).length + 1)
    match d.entries.inSection d.header fun es => es.define .header path name v with
    | none => refuse
    | some es => return { d with entries := es }

/-- The lines of a document. The fuel is the number of characters. -/
def lines : Nat → Draft → Reader Draft
  | 0, _ => refuse
  | fuel + 1, d => do
    let d ← line d
    blanks
    comment
    if ← lineBreak then lines fuel d
    else
      match ← peek with
      | none => return d
      | some _ => refuse

/-- The entries of the document a text writes. -/
def Entries.ofText? (text : List Char) : Option Entries := do
  let body := match text with
    | '\ufeff' :: cs => cs
    | cs => cs
  let (d, _) ← (lines (body.length + 1) {}).run body
  return d.entries

end Toml

end Multilint
