import Multilint.Decimal.Binary64
import Multilint.Keyed
/-!
# Values of TOML

A table knows how it came about, because that decides what may still be added to it: a table made by a
header of its own, by a header of a table within it, by a dotted key, or written out in one piece.
-/

namespace Multilint

namespace Toml

/-- How a table came about. -/
inductive Origin where
  /-- On the way to a table with a header. -/
  | implied
  /-- By its own header. -/
  | header
  /-- On the way to a dotted key. -/
  | dotted
  /-- Written in braces. -/
  | inline
  deriving DecidableEq, Repr

/-- A value. -/
inductive Value where
  /-- A text. -/
  | string (s : String)
  /-- A whole number. -/
  | integer (n : Int)
  /-- A floating-point number. -/
  | float (x : Binary64)
  /-- A truth value. -/
  | bool (b : Bool)
  /-- A date, a time, or both. -/
  | moment (s : String)
  /-- A list of values; `tables` where headers made it. -/
  | array (tables : Bool) (items : List Value)
  /-- Named values in the order of their names. -/
  | table (origin : Origin) (entries : List (String × Value))
  deriving Repr, Inhabited

/-- The entries of a table. -/
abbrev Entries := List (String × Value)

namespace Entries

/-- The entries changed at the end of a path. A step of the path that is not there becomes a table; a
step into a list of tables goes into its last one. A table in braces is closed, and a dotted key does
not go into a table that has a header. `change` gets the origin of the table at the end. -/
def within (viaKey : Bool) (change : Origin → Entries → Option Entries) :
    List String → Origin → Entries → Option Entries
  | [], origin, es => change origin es
  | name :: path, _, es => do
    let fresh : Origin := if viaKey then .dotted else .implied
    let v ← match Keyed.get? es name with
      | none => (within viaKey change path fresh []).map (Value.table fresh)
      | some (.table o inner) =>
        if o == .inline || (viaKey && o == .header) then none
        else (within viaKey change path o inner).map (Value.table o)
      | some (.array true items) =>
        match items.getLast? with
        | some (.table o inner) =>
          (within viaKey change path o inner).map fun last =>
            .array true (items.dropLast ++ [.table o last])
        | _ => none
      | some _ => none
    return Keyed.insert name v es

/-- The entries with a value under a dotted key, which must be new. -/
def define (es : Entries) (origin : Origin) (path : List String) (name : String) (v : Value) :
    Option Entries :=
  within true
    (fun o inner =>
      if (!path.isEmpty && o != .dotted) || (Keyed.get? inner name).isSome then none
      else some (Keyed.insert name v inner))
    path origin es

/-- The entries with a table at a header. -/
def openTable (es : Entries) (path : List String) (name : String) : Option Entries :=
  within false
    (fun _ inner =>
      match Keyed.get? inner name with
      | none => some (Keyed.insert name (.table .header []) inner)
      | some (.table .implied es) => some (Keyed.insert name (.table .header es) inner)
      | some _ => none)
    path .header es

/-- The entries with one more table in the list of tables at a header. -/
def openItem (es : Entries) (path : List String) (name : String) : Option Entries :=
  within false
    (fun _ inner =>
      match Keyed.get? inner name with
      | none => some (Keyed.insert name (.array true [.table .header []]) inner)
      | some (.array true items) =>
        some (Keyed.insert name (.array true (items ++ [.table .header []])) inner)
      | some _ => none)
    path .header es

/-- The entries changed in the table that the last header opened. -/
def inSection (es : Entries) (header : List String) (change : Entries → Option Entries) :
    Option Entries :=
  within false (fun _ inner => change inner) header .header es

end Entries

end Toml

end Multilint
