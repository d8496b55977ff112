import Multilint.Failure
import Multilint.Json.Printer
import Multilint.Keyed
/-!
# Options of a tool

Options are JSON values under keys, in the order of the keys. A tool declares its options with their
defaults; values given by the settings replace defaults of the same type.
-/

namespace Multilint

/-- The options of a tool: values under keys, the keys increasing. -/
structure Options where
  /-- Keys and values. -/
  entries : List (String × Json)
  deriving BEq, Repr, Inhabited

namespace Options

/-- No options. -/
def empty : Options := ⟨[]⟩

/-- The options with one more value, in place of an old one for its key. -/
def insert (o : Options) (key : String) (v : Json) : Options :=
  ⟨Keyed.insert key v o.entries⟩

/-- The options that pairs give; a later pair replaces an earlier one of its key. -/
def ofList (es : List (String × Json)) : Options :=
  ⟨Keyed.ofList es⟩

/-- The value under a key. -/
def get? (o : Options) (key : String) : Option Json :=
  Keyed.get? o.entries key

/-- The keys. -/
def keys (o : Options) : List String :=
  o.entries.map (·.1)

/-- The options as a JSON object. -/
def toJson (o : Options) : Json :=
  .object o.entries

/-! ## Values on a command line -/

/-- A text that is not empty. -/
def text? (o : Options) (key : String) : Option String :=
  match o.get? key with
  | some (.string s) => if s = "" then none else some s
  | _ => none

/-- A text that is not empty, or a number. -/
def scalar? (o : Options) (key : String) : Option String :=
  match o.get? key with
  | some (.string s) => if s = "" then none else some s
  | some (.number n) => some n.render
  | _ => none

/-- A truth value; false where there is none. -/
def flag (o : Options) (key : String) : Bool :=
  ((o.get? key).bind Json.bool?).getD false

/-- A list of texts, written as a list or as one text with commas. -/
def list (o : Options) (key : String) : List String :=
  match o.get? key with
  | some (.array xs) => xs.filterMap fun
    | .string s => some s
    | .null => none
    | v => some v.compact
  | some (.string s) => Text.commaList s
  | _ => []

/-! ## Overrides -/

/-- Whether a value may stand for an option with the given default: it has the type of the default,
or one of the two is `null`. -/
def admits (dflt v : Json) : Bool :=
  dflt.isNull || v.isNull || dflt.kind = v.kind

/-- What is wrong with one override, if anything is. -/
def fault? (declared : Options) (key : String) (v : Json) : Option OptionFault :=
  match declared.get? key with
  | none => some (.unknown key declared.keys)
  | some d => if admits d v then none else some (.wrongKind key d.kind v.kind)

/-- The declared options with overrides for some of them. -/
def merge (declared overrides : Options) : Except OptionFault Options :=
  overrides.entries.foldlM
    (fun merged e =>
      match fault? declared e.1 e.2 with
      | some f => .error f
      | none => .ok (merged.insert e.1 e.2))
    declared

end Options

end Multilint
