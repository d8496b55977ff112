import Multilint.Text.CharSet
/-!
# Values of properties

A property or a value has a short name and often longer ones. Names are compared loosely: by their ASCII
characters without blanks, hyphens and underscores, in small letters, and without a leading "is".

A property with a value for every character cuts the numbers of characters into runs of one value. A table
lists the values of the runs in increasing order, with the length of a run behind its value.
-/

namespace Multilint

namespace Unicode

/-! ## Names -/

/-- The characters of a name that count. The letter C alone keeps a leading "is" with it, so that the
category of that name is not taken for another property. -/
def loosely (name : String) : String :=
  let cs := name.toList.map Char.toLower
  let kept (cs : List Char) : List Char :=
    cs.filter fun c => c.toNat < 0x80 && !(c == ' ' || c == '_' || c == '-')
  match cs with
  | 'i' :: 's' :: rest =>
    let k := kept rest
    String.ofList (if k == ['c'] then ['i', 's', 'c'] else k)
  | cs => String.ofList (kept cs)

/-- The names of a property or of a value; the first one is the short name. -/
abbrev Names := List String

/-- The names that a text lists: a word for each thing that is named, with colons between its names. -/
def namesListed (text : String) : List Names :=
  (Text.words text.toList).map fun word => (Text.splitOn ':' word).map String.ofList

/-- The short name of what is known under a loosely written name. -/
def shortName? (known : List Names) (name : String) : Option String :=
  let name := loosely name
  (known.find? fun names => names.any fun n => loosely n == name).bind List.head?

/-! ## Partitions of the characters -/

/-- A run of numbers whose characters have one value of a property. -/
structure Run where
  /-- The value. -/
  value : String
  /-- The length of the run. -/
  length : Nat
  deriving DecidableEq, Repr

/-- Runs in increasing order, the first of which starts at zero. -/
abbrev Partition := List Run

namespace Partition

/-- The partition that a text lists. A run is a word; its length stands behind a star, and a run without
a star has length one. -/
def listed (text : String) : Partition :=
  (Text.words text.toList).map fun word =>
    let (value, length) := word.span (· ≠ '*')
    ⟨String.ofList value, if length.isEmpty then 1 else Numeral.value (length.drop 1)⟩

/-- The borders of the characters whose value is taken, from a number on. -/
def borders (takes : String → Bool) : Bool → Nat → Partition → List Nat
  | inside, n, [] => if inside then [n] else []
  | inside, n, r :: rs =>
    let now := takes r.value
    let rest := borders takes now (n + r.length) rs
    if inside == now then rest else n :: rest

/-- The characters whose value is taken. -/
def select (p : Partition) (takes : String → Bool) : CharSet :=
  (⟨borders takes false 0 p⟩ : CharSet).inter .all

end Partition

end Unicode

end Multilint
