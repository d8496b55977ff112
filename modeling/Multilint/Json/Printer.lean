import Multilint.Json.Basic
/-!
# Writing JSON

`Json.pretty` puts each item and member on a line of its own, indented by two spaces a level;
`Json.compact` leaves no blank. Characters outside ASCII are written as they are.
-/

namespace Multilint

namespace Json

/-- The hexadecimal digits of a number below 256, in lower case. -/
def hexByte (n : Nat) : String :=
  String.ofList [Nat.digitChar (n / 16), Nat.digitChar (n % 16)]

/-- A character inside a quoted text: quotes, backslashes and controls are escaped. -/
def quoteChar (c : Char) : String :=
  if c = '"' then "\\\""
  else if c = '\\' then "\\\\"
  else if c = '\n' then "\\n"
  else if c = '\r' then "\\r"
  else if c = '\t' then "\\t"
  else if c.toNat = 8 then "\\b"
  else if c.toNat = 12 then "\\f"
  else if c.toNat < 32 then "\\u00" ++ hexByte c.toNat
  else String.singleton c

/-- A text in quotes. -/
def quote (s : String) : String :=
  "\"" ++ String.join (s.toList.map quoteChar) ++ "\""

/-- A line break and the indentation of a level. -/
def newline (level : Nat) : String :=
  "\n" ++ String.ofList (List.replicate (2 * level) ' ')

mutual

/-- A value on as many lines as it needs, the first one already indented. -/
def prettyAt (level : Nat) : Json → String
  | .null => "null"
  | .bool b => if b then "true" else "false"
  | .number n => n.render
  | .string s => quote s
  | .array [] => "[]"
  | .array (x :: xs) =>
    "[" ++ newline (level + 1) ++ prettyAt (level + 1) x ++ prettyItems (level + 1) xs ++
      newline level ++ "]"
  | .object [] => "\x7b\x7d"
  | .object ((k, x) :: ms) =>
    "\x7b" ++ newline (level + 1) ++ quote k ++ ": " ++ prettyAt (level + 1) x ++
      prettyMembers (level + 1) ms ++ newline level ++ "\x7d"

/-- The items after the first, each after a comma and on its own line. -/
def prettyItems (level : Nat) : List Json → String
  | [] => ""
  | x :: xs => "," ++ newline level ++ prettyAt level x ++ prettyItems level xs

/-- The members after the first, each after a comma and on its own line. -/
def prettyMembers (level : Nat) : List (String × Json) → String
  | [] => ""
  | (k, x) :: ms =>
    "," ++ newline level ++ quote k ++ ": " ++ prettyAt level x ++ prettyMembers level ms

end

/-- The text of a document, indented. -/
def pretty (v : Json) : String :=
  prettyAt 0 v

mutual

/-- The text of a value without blanks. -/
def compact : Json → String
  | .null => "null"
  | .bool b => if b then "true" else "false"
  | .number n => n.render
  | .string s => quote s
  | .array [] => "[]"
  | .array (x :: xs) => "[" ++ compact x ++ compactItems xs ++ "]"
  | .object [] => "\x7b\x7d"
  | .object ((k, x) :: ms) => "\x7b" ++ quote k ++ ":" ++ compact x ++ compactMembers ms ++ "\x7d"

/-- The items after the first, each after a comma. -/
def compactItems : List Json → String
  | [] => ""
  | x :: xs => "," ++ compact x ++ compactItems xs

/-- The members after the first, each after a comma. -/
def compactMembers : List (String × Json) → String
  | [] => ""
  | (k, x) :: ms => "," ++ quote k ++ ":" ++ compact x ++ compactMembers ms

end

end Json

end Multilint
