import Multilint.Json.Basic
import Multilint.Toml.Reader
import Multilint.Yaml.Schema
/-!
# Values of settings files

Settings files come in two languages. A source says how their values are looked at: as texts, numbers,
lists and so on. Where a value has another type than the one wanted, there is nothing to see.
-/

namespace Multilint

/-- The views of the values of a language. Values are looked at in a monad, where a look may be refused
for what it costs. -/
structure Source (m : Type → Type) (ν : Type) where
  /-- The value that a value stands for. -/
  resolve : ν → m ν
  /-- Whether a value stands for nothing where something may be missing. -/
  isAbsent? : ν → Option Bool
  /-- A text. -/
  text? : ν → Option String
  /-- A natural number of 64 bits. -/
  nat? : ν → Option Nat
  /-- A truth value. -/
  bool? : ν → Option Bool
  /-- A list. -/
  items? : ν → Option (List ν)
  /-- Named values, where the value has any. -/
  entries : ν → m (Option (List (String × ν)))
  /-- Any value. -/
  json : ν → m Json
  /-- A list may stand for a record even when it is longer than the record. -/
  longRecords : Bool

namespace Source

variable {m : Type → Type} [Monad m] [Alternative m] {ν α : Type}

/-- What a view shows of the value that a value stands for. -/
def see (s : Source m ν) (view : ν → Option α) (v : ν) : m α := do
  match view (← s.resolve v) with
  | some x => return x
  | none => failure

/-- A value that may be missing. -/
def optional (s : Source m ν) (read : ν → m α) (v : ν) : m (Option α) := do
  let v ← s.resolve v
  match s.isAbsent? v with
  | some true => return none
  | some false => return some (← read v)
  | none => failure

/-- A text. -/
def text (s : Source m ν) : ν → m String := s.see s.text?

/-- A natural number of 64 bits. -/
def nat (s : Source m ν) : ν → m Nat := s.see s.nat?

/-- A truth value. -/
def bool (s : Source m ν) : ν → m Bool := s.see s.bool?

/-- A list of texts. -/
def texts (s : Source m ν) (v : ν) : m (List String) := do
  (← s.see s.items? v).mapM s.text

/-- The entries of a record: named values of which none with a known name comes twice, or a list of
values in the order of the names, of which the first few must be there. -/
def record (s : Source m ν) (names : List String) (needed : Nat) (v : ν) :
    m (List (String × ν)) := do
  let v ← s.resolve v
  match ← s.entries v with
  | some es => if names.all fun n => (es.filter (·.1 = n)).length ≤ 1 then return es else failure
  | none =>
    match s.items? v with
    | some vs =>
      if needed ≤ vs.length && (vs.length ≤ names.length || s.longRecords) then
        return names.zip vs
      else failure
    | none => failure

/-- A field of a record that may be missing. -/
def field (s : Source m ν) (es : List (String × ν)) (name : String) (read : ν → m α) :
    m (Option α) :=
  match Keyed.get? es name with
  | none => return none
  | some v => s.optional read v

/-- A field of a record with a default for a missing one. -/
def fieldOr (es : List (String × ν)) (name : String) (read : ν → m α) (dflt : α) : m α :=
  match Keyed.get? es name with
  | none => return dflt
  | some v => read v

/-- Values under the keys of a map; of two with one key the later one counts. -/
def map (s : Source m ν) (read : ν → m α) (v : ν) : m (List (String × α)) := do
  match ← s.entries (← s.resolve v) with
  | some es => return Keyed.ofList (← es.mapM fun (k, w) => do return (k, ← read w))
  | none => failure

end Source

namespace Yaml

/-- The views of the values of a YAML document. -/
def source (d : Document) : Source Reading View where
  resolve := View.resolve d
  isAbsent? := View.isAbsent?
  text? := View.text?
  nat? := View.nat?
  bool? := View.bool?
  items? := View.items?
  entries := View.entries d
  json := View.json d
  longRecords := false

end Yaml

namespace Toml

/-- The key under which a moment stands where there are only JSON values; with it a moment passes for a
table of one entry. -/
def momentKey : String := "$__toml_private_datetime"

namespace Value

mutual

/-- The JSON value of a value. A whole number has 64 bits, with or without a sign. -/
def json? : Value → Option Json
  | .string s => some (.string s)
  | .integer n =>
    if -0x8000000000000000 ≤ n ∧ n < 0x10000000000000000 then some (.number (.integer n)) else none
  | .float x => some (if x.isFinite then .number (.float x) else .null)
  | .bool b => some (.bool b)
  | .moment s => some (.object [(momentKey, .string s)])
  | .array _ vs => (itemsJson? vs).map .array
  | .table _ es => (entriesJson? es).map .object

/-- The JSON values of the items of a list. -/
def itemsJson? : List Value → Option (List Json)
  | [] => some []
  | v :: vs => do return (← v.json?) :: (← itemsJson? vs)

/-- The JSON values of the entries of a table. -/
def entriesJson? : List (String × Value) → Option (List (String × Json))
  | [] => some []
  | (k, v) :: es => do return (k, ← v.json?) :: (← entriesJson? es)

end

end Value

/-- The views of TOML values. -/
def source : Source Option Value where
  resolve v := some v
  isAbsent? _ := some false
  text?
    | .string s => some s
    | _ => none
  nat?
    | .integer (.ofNat n) => if n < 0x10000000000000000 then some n else none
    | _ => none
  bool?
    | .bool b => some b
    | _ => none
  items?
    | .array _ vs => some vs
    | _ => none
  entries
    | .table _ es => some (some es)
    | .moment s => some (some [(momentKey, .string s)])
    | _ => some none
  json := Value.json?
  longRecords := true

end Toml

end Multilint
