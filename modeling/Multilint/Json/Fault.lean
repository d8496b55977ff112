import Multilint.Json.Basic
import Multilint.Text.Basic
import Multilint.Text.PrintableTable
/-!
# Faults of JSON texts

What can be wrong with a JSON text, or with a value that does not have the shape a reader expects,
the wording of each fault, and the line and column it is reported at.
-/

namespace Multilint

namespace Text

/-- The hexadecimal digits of a number, in lower case. -/
def hexDigits (n : Nat) : String :=
  String.ofList (Nat.toDigits 16 n)

/-- A character inside a text quoted for a message: what has no glyph of its own is escaped by its
code point. -/
def quotedChar (c : Char) : String :=
  if c = '"' then "\\\""
  else if c = '\\' then "\\\\"
  else if c = '\n' then "\\n"
  else if c = '\r' then "\\r"
  else if c = '\t' then "\\t"
  else if c.toNat = 0 then "\\0"
  else if 32 ≤ c.toNat && c.toNat < 127 then String.singleton c
  else if hiddenRanges.has c then
    "\\u\x7b" ++ hexDigits c.toNat ++ "\x7d"
  else String.singleton c

/-- A text quoted for a message. -/
def quoted (s : String) : String :=
  "\"" ++ String.join (s.toList.map quotedChar) ++ "\""

end Text

/-- A value as a message names it. -/
inductive JsonSight where
  /-- The null value. -/
  | null
  /-- A truth value. -/
  | bool (value : Bool)
  /-- A number. -/
  | number (value : JsonNumber)
  /-- A text. -/
  | string (value : String)
  /-- The start of a list. -/
  | sequence
  /-- The start of an object. -/
  | map
  deriving DecidableEq, Repr

/-- How a message names a value. -/
def JsonSight.describe : JsonSight → String
  | .null => "null"
  | .bool b => "boolean `" ++ (if b then "true" else "false") ++ "`"
  | .number (.integer n) => "integer `" ++ toString n ++ "`"
  | .number (.float x) => "floating point `" ++ x.render ++ "`"
  | .string s => "string " ++ Text.quoted s
  | .sequence => "sequence"
  | .map => "map"

/-- A cause for which a JSON text is refused. -/
inductive JsonFault where
  /-- The text ends inside a list. -/
  | endInList
  /-- The text ends inside an object. -/
  | endInObject
  /-- The text ends inside a string. -/
  | endInString
  /-- The text ends where a value should be. -/
  | endInValue
  /-- A key is not followed by a colon. -/
  | noColon
  /-- An item is followed by neither a comma nor the end of the list. -/
  | noListEnd
  /-- A member is followed by neither a comma nor the end of the object. -/
  | noObjectEnd
  /-- A word other than `null`, `true` and `false`. -/
  | badWord
  /-- Something that starts no value. -/
  | noValue
  /-- An unknown escape in a string. -/
  | badEscape
  /-- A number that breaks the grammar. -/
  | badNumber
  /-- A number beyond every floating-point number. -/
  | tooLarge
  /-- A control character inside a string. -/
  | controlCharacter
  /-- A key that is no string. -/
  | badKey
  /-- Half of a surrogate pair. -/
  | loneSurrogate
  /-- A comma before the end of a list or an object. -/
  | trailingComma
  /-- Text after the end of the value. -/
  | trailingText
  /-- A surrogate that no second escape follows. -/
  | shortEscape
  /-- Lists and objects nested too deeply. -/
  | tooDeep
  /-- A value of another type than expected. -/
  | wrongType (found : JsonSight) (expected : String)
  /-- A value of the right type outside the expected range. -/
  | wrongValue (found : JsonSight) (expected : String)
  /-- A list of a wrong length. -/
  | wrongLength (length : Nat) (expected : String)
  /-- A required field is absent. -/
  | missingField (name : String)
  /-- A field is given twice. -/
  | duplicateField (name : String)
  /-- The value has none of the accepted shapes. -/
  | noShape (name : String)
  deriving DecidableEq, Repr

/-- The wording of a fault. -/
def JsonFault.message : JsonFault → String
  | .endInList => "EOF while parsing a list"
  | .endInObject => "EOF while parsing an object"
  | .endInString => "EOF while parsing a string"
  | .endInValue => "EOF while parsing a value"
  | .noColon => "expected `:`"
  | .noListEnd => "expected `,` or `]`"
  | .noObjectEnd => "expected `,` or `\x7d`"
  | .badWord => "expected ident"
  | .noValue => "expected value"
  | .badEscape => "invalid escape"
  | .badNumber => "invalid number"
  | .tooLarge => "number out of range"
  | .controlCharacter => "control character (\\u0000-\\u001F) found while parsing a string"
  | .badKey => "key must be a string"
  | .loneSurrogate => "lone leading surrogate in hex escape"
  | .trailingComma => "trailing comma"
  | .trailingText => "trailing characters"
  | .shortEscape => "unexpected end of hex escape"
  | .tooDeep => "recursion limit exceeded"
  | .wrongType found expected => "invalid type: " ++ found.describe ++ ", expected " ++ expected
  | .wrongValue found expected => "invalid value: " ++ found.describe ++ ", expected " ++ expected
  | .wrongLength n expected => "invalid length " ++ toString n ++ ", expected " ++ expected
  | .missingField name => "missing field `" ++ name ++ "`"
  | .duplicateField name => "duplicate field `" ++ name ++ "`"
  | .noShape name => "data did not match any variant of untagged enum " ++ name

/-- A fault, at a byte of the text where it has a place. -/
structure JsonFailure where
  /-- What is wrong. -/
  fault : JsonFault
  /-- The number of bytes before the place. -/
  offset : Option Nat
  deriving DecidableEq, Repr

/-- The line and the column after so many bytes, counted from given ones. -/
def lineAndColumn (line column : Nat) : Nat → List Char → Nat × Nat
  | _, [] => (line, column)
  | n, c :: cs =>
    if n = 0 then (line, column)
    else if c = '\n' then lineAndColumn (line + 1) 0 (n - 1) cs
    else if c.utf8Size ≤ n then lineAndColumn line (column + c.utf8Size) (n - c.utf8Size) cs
    else (line, column + n)

/-- The message of a failure in a text; lines count from one, columns are bytes. -/
def JsonFailure.message (e : JsonFailure) (text : List Char) : String :=
  match e.offset with
  | none => e.fault.message
  | some n =>
    let (line, column) := lineAndColumn 1 0 n text
    e.fault.message ++ " at line " ++ toString line ++ " column " ++ toString column

end Multilint
