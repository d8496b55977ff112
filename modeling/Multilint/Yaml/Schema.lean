import Multilint.Decimal.Reading
import Multilint.Json.Basic
import Multilint.Text.Basic
import Multilint.Yaml.Node
/-!
# Values of YAML nodes

A plain scalar stands for nothing, a truth value, a number or a text, by its form. Where a text is wanted
the scalar is taken as it is written. Values are looked at through a `View`, which knows how deep they may
still lie, and aliases are followed only where a value is wanted, and only so often.
-/

namespace Multilint

namespace Yaml

/-! ## Forms of plain scalars -/

/-- Whether a text stands for nothing. -/
def isNullText (s : String) : Bool :=
  ["null", "Null", "NULL", "~"].contains s

/-- The truth value of a text. -/
def truth? (s : String) : Option Bool :=
  if ["true", "True", "TRUE"].contains s then some true
  else if ["false", "False", "FALSE"].contains s then some false
  else none

/-- The number that at least one digit writes in a base. -/
def digitsIn? (base : Nat) (ds : List Char) : Option Nat :=
  if ds.isEmpty then none else Numeral.valueIn? base ds

/-- The base that a mark in front of digits means, and the digits. -/
def based? : List Char → Option (Nat × List Char)
  | '0' :: 'x' :: ds => some (16, ds)
  | '0' :: 'o' :: ds => some (8, ds)
  | '0' :: 'b' :: ds => some (2, ds)
  | _ => none

/-- The text without a sign it starts with. -/
def unsigned : List Char → List Char
  | '+' :: cs => cs
  | '-' :: cs => cs
  | cs => cs

/-- Whether a text is digits only and starts with a zero that says nothing. -/
def hasIdleZero (s : List Char) : Bool :=
  match unsigned s with
  | '0' :: d :: ds => (d :: ds).all Numeral.isDigit
  | _ => false

/-- The natural number of a text, of any size. -/
def natural? (s : List Char) : Option Nat :=
  let body := match s with
    | '+' :: cs => cs
    | cs => cs
  match (based? body).bind fun (b, ds) => digitsIn? b ds with
  | some n => some n
  | none => if hasIdleZero s then none else digitsIn? 10 body

/-- The negative number of a text, of any size. -/
def negative? (s : List Char) : Option Int :=
  match s with
  | '-' :: body =>
    match (based? body).bind fun (b, ds) => digitsIn? b ds with
    | some n => some (-n)
    | none => if hasIdleZero s then none else (digitsIn? 10 body).map fun n => -(n : Int)
  | _ => none

/-- The floating-point number of a text: nothing in the place of the number where it is not finite. -/
def real? (s : List Char) : Option (Option Binary64) :=
  let body := match s with
    | '+' :: cs => cs
    | cs => cs
  let special := [".inf", ".Inf", ".INF"].contains (String.ofList body) ||
    ["-.inf", "-.Inf", "-.INF", ".nan", ".NaN", ".NAN"].contains (String.ofList s)
  if special then some none
  else
    match s, body with
    | '+' :: _, '+' :: _ => none
    | '+' :: _, '-' :: _ => none
    | _, _ => (Binary64.ofText? body).map some

/-- The whole number of a text, of any size. -/
def whole? (s : List Char) : Option Int :=
  match natural? s with
  | some n => some n
  | none => negative? s

/-- The JSON value of a whole number: none where the number has no place in JSON. Numbers of more than 128
bits are not whole numbers at all. -/
def wholeJson (i : Int) : Option (Option Json) :=
  if -0x8000000000000000 ≤ i ∧ i < 0x10000000000000000 then some (some (.number (.integer i)))
  else if -0x80000000000000000000000000000000 ≤ i ∧ i < 0x100000000000000000000000000000000 then
    some none
  else none

/-- The JSON value of a plain scalar that is no whole number. -/
def fractionJson (s : String) : Json :=
  match if hasIdleZero s.toList then none else real? s.toList with
  | some (some x) => .number (.float x)
  | some none => .null
  | none => .string s

/-- The JSON value of a plain scalar; none where a number has no place in JSON. -/
def plainJson (s : String) : Option Json :=
  if s = "" || isNullText s then some .null
  else
    match truth? s with
    | some b => some (.bool b)
    | none => ((whole? s.toList).bind wholeJson).getD (some (fractionJson s))

/-! ## Tags -/

/-- The tag of a name that YAML defines. -/
def coreTag (name : String) : TagText := Utf8.bytes ("tag:yaml.org,2002:" ++ name)

/-- Whether a tag is of the document's own making. -/
def isLocalTag (t : TagText) : Bool :=
  t.head? == some 0x21 && (String.fromUTF8? ⟨t.toArray⟩).isSome

/-! ## Views -/

/-- A value in a document: its node, and how many lists and mappings may lie within each other there. -/
structure View where
  /-- The node. -/
  node : Node
  /-- The depth that is left. -/
  depth : Nat
  deriving Repr, Inhabited

/-- Reading values; the state is the number of aliases that may still be followed. -/
abbrev Reading := StateT Nat Option

namespace View

/-- Values lie at most so deep. -/
def maxDepth : Nat := 128

/-- Refuses a value. -/
def refuse {α : Type} : Reading α := failure

/-- The node that a node stands for. -/
def follow (d : Document) : Node → Reading Node
  | .alias number => do
    let left ← get
    if left = 0 then refuse
    set (left - 1)
    match d.targets.find? (·.1 = number) with
    | some (_, n) => return n
    | none => refuse
  | n => return n

/-- The value that a value stands for. -/
def resolve (d : Document) (v : View) : Reading View := do
  return { v with node := ← follow d v.node }

/-- Whether a value stands for nothing where something may be missing. What has the tag of nothing must be
nothing. -/
def isAbsent? (v : View) : Option Bool :=
  match v.node with
  | .scalar .plain none s => some (s = "" || isNullText s)
  | .scalar .plain (some t) s =>
    if t = coreTag "null" then (if isNullText s then some true else none) else some false
  | _ => some false

/-- The text of a scalar. -/
def nodeText? : Node → Option String
  | .scalar _ _ s => some s
  | _ => none

/-- The text of a plain scalar, or of a block with a tag that YAML defines. -/
def plainText? (name : String) : Node → Option String
  | .scalar .plain _ s => some s
  | .scalar .literal t s => if t = some (coreTag name) then some s else none
  | _ => none

/-- The text of a value. -/
def text? (v : View) : Option String :=
  nodeText? v.node

/-- The truth value of a value. -/
def bool? (v : View) : Option Bool :=
  (plainText? "bool" v.node).bind truth?

/-- The number of 64 bits of a value. -/
def nat? (v : View) : Option Nat := do
  let s ← plainText? "int" v.node
  (natural? s.toList).filter (· < Numeral.bound64)

/-- Whether a node is an empty plain scalar, which is as good as an empty collection. -/
def isBare : Node → Bool
  | .scalar .plain _ "" => true
  | _ => false

/-- The items of a list. -/
def items? (v : View) : Option (List View) :=
  match v.node, v.depth with
  | .sequence _ ns, depth + 1 => some (ns.map fun n => ⟨n, depth⟩)
  | n, _ => if isBare n then some [] else none

/-- The text of a key. -/
def keyText (d : Document) (n : Node) : Reading String := do
  match nodeText? (← follow d n) with
  | some s => return s
  | none => refuse

/-- The values of a mapping under the texts of their keys; nothing for a value that is no mapping. -/
def entries (d : Document) (v : View) : Reading (Option (List (String × View))) := do
  match v.node, v.depth with
  | .mapping _ ps, depth + 1 =>
    return some (← ps.mapM fun (k, n) => do return (← keyText d k, ⟨n, depth⟩))
  | .mapping _ _, 0 => refuse
  | n, _ => return if isBare n then some [] else none

/-- The JSON value of a scalar. -/
def scalarJson (style : ScalarStyle) (tag : Option TagText) (s : String) : Option Json :=
  match tag with
  | none => if style == .plain then plainJson s else some (.string s)
  | some t =>
    if isLocalTag t then none
    else if t = coreTag "bool" then (truth? s).map .bool
    else if t = coreTag "int" then
      ((whole? s.toList).bind wholeJson).getD none
    else if t = coreTag "float" then
      (real? s.toList).map fun
        | some x => .number (.float x)
        | none => .null
    else if t = coreTag "null" then if isNullText s then some .null else none
    else if t.head? == some 0x21 && style == .plain then plainJson s
    else some (.string s)

/-- The JSON value of a node at a depth. Of two pairs with one key the later one counts. -/
def nodeJson (d : Document) : Nat → Node → Reading Json
  | depth, n => do
    match depth, ← follow d n with
    | _, .scalar style tag s =>
      match scalarJson style tag s with
      | some j => return j
      | none => refuse
    | depth + 1, .sequence tag ns =>
      if tag.any isLocalTag then refuse
      else return .array (← ns.mapM (nodeJson d depth))
    | depth + 1, .mapping tag ps =>
      if tag.any isLocalTag then refuse
      else do
        let ms ← ps.mapM fun (k, n) => do return (← keyText d k, ← nodeJson d depth n)
        return .object (ms.foldl (fun acc m => Json.put acc m.1 m.2) [])
    | _, _ => refuse

/-- The JSON value of a value. -/
def json (d : Document) (v : View) : Reading Json :=
  nodeJson d v.depth v.node

end View

namespace Document

/-- The value of a document. -/
def view (d : Document) : View := ⟨d.root, View.maxDepth⟩

/-- The number of aliases that may be followed while a document is read. -/
def followLimit (d : Document) : Nat := 100 * d.root.marks

end Document

end Yaml

end Multilint
