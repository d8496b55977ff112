import Multilint.Decimal.Shortest
/-!
# JSON values

A document is a value whose objects keep their members in order. Numbers are integers or
floating-point numbers, as they were written.
-/

namespace Multilint

/-- A JSON number: an integer of at most 64 bits, or a floating-point number. -/
inductive JsonNumber where
  /-- Between `-2^63` and `2^64 - 1`. -/
  | integer (value : Int)
  /-- Anything written with a fraction or an exponent, or too large for an integer. -/
  | float (value : Binary64)
  deriving DecidableEq, Repr, Inhabited

/-- A JSON value. -/
inductive Json where
  /-- The null value. -/
  | null
  /-- A truth value. -/
  | bool (value : Bool)
  /-- A number. -/
  | number (value : JsonNumber)
  /-- A text. -/
  | string (value : String)
  /-- A list of values. -/
  | array (items : List Json)
  /-- Named values, in order. -/
  | object (members : List (String × Json))
  deriving BEq, Repr, Inhabited

/-- The JSON type of a value. -/
inductive JsonKind where
  /-- The type of `null`. -/
  | null
  /-- The type of the truth values. -/
  | boolean
  /-- The type of every number. -/
  | number
  /-- The type of texts. -/
  | string
  /-- The type of lists. -/
  | array
  /-- The type of named values. -/
  | object
  deriving DecidableEq, Repr

/-- The name of a JSON type. -/
def JsonKind.name : JsonKind → String
  | .null => "null"
  | .boolean => "boolean"
  | .number => "number"
  | .string => "string"
  | .array => "array"
  | .object => "object"

/-- The text of a number. -/
def JsonNumber.render : JsonNumber → String
  | .integer n => toString n
  | .float x => x.render

namespace Json

/-- A natural number as a value. -/
def nat (n : Nat) : Json :=
  .number (.integer n)

/-- A list of texts as a value. -/
def strings (ss : List String) : Json :=
  .array (ss.map .string)

/-- A value where there is one, `null` otherwise. -/
def ofOption {α : Type} (f : α → Json) : Option α → Json
  | none => .null
  | some a => f a

/-- The JSON type of a value. -/
def kind : Json → JsonKind
  | .null => .null
  | .bool _ => .boolean
  | .number _ => .number
  | .string _ => .string
  | .array _ => .array
  | .object _ => .object

/-- Whether a value is `null`. -/
def isNull : Json → Bool
  | .null => true
  | _ => false

/-- The text of a text value. -/
def string? : Json → Option String
  | .string s => some s
  | _ => none

/-- The truth of a truth value. -/
def bool? : Json → Option Bool
  | .bool b => some b
  | _ => none

/-- The value of a natural number. -/
def nat? : Json → Option Nat
  | .number (.integer (.ofNat n)) => some n
  | _ => none

/-- The items of a list. -/
def array? : Json → Option (List Json)
  | .array xs => some xs
  | _ => none

/-- The members of an object. -/
def object? : Json → Option (List (String × Json))
  | .object ms => some ms
  | _ => none

/-- The member of an object with a given name. -/
def member? (v : Json) (key : String) : Option Json :=
  v.object?.bind fun ms => (ms.find? (·.1 = key)).map (·.2)

/-- Members with one more: a value for a name they have replaces the old one in its place, another
is put at the end. -/
def put (ms : List (String × Json)) (key : String) (v : Json) : List (String × Json) :=
  if ms.any (·.1 = key) then ms.map fun m => if m.1 = key then (key, v) else m
  else ms ++ [(key, v)]

end Json

end Multilint
