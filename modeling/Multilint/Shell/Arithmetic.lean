import Multilint.Decimal.Leading
import Multilint.Shell.Script
/-!
# Arithmetic of a shell

Expressions over whole numbers of 64 bits. A text is read to an expression, which has a value where names have
values. A name stands for the number that its value writes; an unset or empty one is zero. An operand that cannot
change the value is left alone.
-/

namespace Multilint

namespace Shell

/-- An expression. -/
inductive Expression where
  /-- A number. -/
  | number (n : Int)
  /-- The value of a name. -/
  | name (s : String)
  /-- An operator in front of an operand. -/
  | unary (op : String) (a : Expression)
  /-- An operator between operands. -/
  | binary (op : String) (a b : Expression)
  /-- Truth of both. -/
  | both (a b : Expression)
  /-- Truth of one. -/
  | either (a b : Expression)
  /-- One of two, as a condition says. -/
  | choice (condition yes no : Expression)
  /-- A value for a name, perhaps joined to the old one by an operator. -/
  | assign (name : String) (op : Option String) (a : Expression)
  deriving Repr, Inhabited

namespace Expression

/-- What is wrong with an expression. -/
inductive Fault where
  /-- Something is missing or too much. -/
  | expected (what : String)
  /-- A division by zero. -/
  | zeroDivision
  /-- The value of a name is no number. -/
  | noNumber (value : String)
  deriving DecidableEq, Repr

/-- The wording of a fault in an expression of a given text. -/
def Fault.message (text : String) : Fault → String
  | .expected what => "arithmetic expression: expecting " ++ what ++ ": \"" ++ text ++ "\""
  | .zeroDivision => "arithmetic expression: division by zero: \"" ++ text ++ "\""
  | .noNumber value => "Illegal number: " ++ value

/-! ## Reading -/

/-- A token of an expression. -/
inductive Token where
  /-- A number. -/
  | number (n : Int)
  /-- A name. -/
  | name (s : String)
  /-- An operator. -/
  | operator (s : String)
  /-- A character that is no part of an expression. -/
  | other (c : Char)
  deriving DecidableEq, Repr

/-- The operators, in the order they are looked for. -/
def operators : List String :=
  ["<<=", ">>=", "&&", "||", "==", "!=", "<=", ">=", "<<", ">>", "+=", "-=", "*=", "/=", "%=",
    "&=", "^=", "|=", "(", ")", "!", "~", "+", "-", "*", "/", "%", "<", ">", "&", "^", "|", "?",
    ":", "="]

/-- The tokens of a text of at most so many characters. -/
def tokens : Nat → List Char → List Token
  | 0, _ => []
  | _, [] => []
  | n + 1, c :: cs =>
    if c = ' ' || c = '\t' || c = '\n' then tokens n cs
    else
      match Numeral.natural? true (c :: cs) with
      | some (v, rest) => .number (Numeral.clamped64 v) :: tokens n rest
      | none =>
        if isNameChar c then
          let w := (c :: cs).takeWhile isNameChar
          .name (String.ofList w) :: tokens n ((c :: cs).drop w.length)
        else
          match operators.find? fun op => op.toList.isPrefixOf (c :: cs) with
          | some op => .operator op :: tokens n ((c :: cs).drop op.length)
          | none => [.other c]

/-- The operators between two numbers, the weakest first. -/
def levels : List (List String) :=
  [["|"], ["^"], ["&"], ["==", "!="], ["<=", ">=", "<", ">"], ["<<", ">>"], ["+", "-"], ["*", "/", "%"]]

/-- The operator that an assignment applies, behind its name. -/
def assigned? : String → Option (Option String)
  | "=" => some none
  | "+=" => some (some "+")
  | "-=" => some (some "-")
  | "*=" => some (some "*")
  | "/=" => some (some "/")
  | "%=" => some (some "%")
  | "<<=" => some (some "<<")
  | ">>=" => some (some ">>")
  | "&=" => some (some "&")
  | "^=" => some (some "^")
  | "|=" => some (some "|")
  | _ => none

/-- What is read: how strong the operators around it bind. -/
inductive Level where
  /-- An assignment, or whatever stands where one may. -/
  | assignment
  /-- A choice. -/
  | choice
  /-- Operands joined by `||`. -/
  | either
  /-- Operands joined by `&&`. -/
  | both
  /-- Operands joined by operators of given levels. -/
  | joined (ops : List (List String))

/-- The expressions joined to one by operators of a level, given how an operand is read. -/
def joinedTo (operand : List Token → Except Fault (Expression × List Token)) (ops : List String) :
    Nat → Expression → List Token → Except Fault (Expression × List Token)
  | 0, a, ts => .ok (a, ts)
  | n + 1, a, ts =>
    match ts with
    | .operator op :: rest =>
      if ops.contains op then do
        let (b, rest) ← operand rest
        joinedTo operand ops n (.binary op a b) rest
      else .ok (a, ts)
    | ts => .ok (a, ts)

/-- Reads an expression at the start of tokens, of at most so many nested parts. -/
def read : Nat → Level → List Token → Except Fault (Expression × List Token)
  | 0, _, _ => .error (.expected "primary")
  | n + 1, .assignment, ts => do
    match ts with
    | .name s :: .operator op :: rest =>
      match assigned? op with
      | some how =>
        let (a, rest) ← read n .assignment rest
        return (.assign s how a, rest)
      | none => read n .choice ts
    | ts => read n .choice ts
  | n + 1, .choice, ts => do
    let (c, rest) ← read n .either ts
    match rest with
    | .operator "?" :: rest =>
      let (a, rest) ← read n .assignment rest
      match rest with
      | .operator ":" :: rest =>
        let (b, rest) ← read n .choice rest
        return (.choice c a b, rest)
      | _ => throw (.expected "':'")
    | rest => return (c, rest)
  | n + 1, .either, ts => do
    let (a, rest) ← read n .both ts
    match rest with
    | .operator "||" :: rest =>
      let (b, rest) ← read n .either rest
      return (.either a b, rest)
    | rest => return (a, rest)
  | n + 1, .both, ts => do
    let (a, rest) ← read n (.joined levels) ts
    match rest with
    | .operator "&&" :: rest =>
      let (b, rest) ← read n .both rest
      return (.both a b, rest)
    | rest => return (a, rest)
  | n + 1, .joined (ops :: higher), ts => do
    let (a, rest) ← read n (.joined higher) ts
    joinedTo (read n (.joined higher)) ops (rest.length + 1) a rest
  | n + 1, .joined [], ts =>
    match ts with
    | .number v :: rest => .ok (.number v, rest)
    | .name s :: rest => .ok (.name s, rest)
    | .operator "(" :: rest => do
      let (a, rest) ← read n .assignment rest
      match rest with
      | .operator ")" :: rest => return (a, rest)
      | _ => throw (.expected "')'")
    | .operator op :: rest =>
      if ["+", "-", "!", "~"].contains op then do
        let (a, rest) ← read n (.joined []) rest
        return (.unary op a, rest)
      else .error (.expected "primary")
    | _ => .error (.expected "primary")

/-- The expression of a text. -/
def ofText (s : String) : Except Fault Expression := do
  let ts := tokens (s.length + 1) s.toList
  let (e, rest) ← read (16 * ts.length + 32) .assignment ts
  match rest with
  | [] => return e
  | _ :: _ => throw (.expected "EOF")

/-! ## Values -/

/-- The number of 64 bits, with sign, that has the bits of a number. -/
def wrap (n : Int) : Int :=
  Int.bmod n Numeral.bound64

/-- One for a truth, zero for a falsehood. -/
def truth (b : Bool) : Int :=
  if b then 1 else 0

/-- The value of an operator between two numbers. -/
def apply (op : String) (a b : Int) : Except Fault Int :=
  match op with
  | "+" => .ok (wrap (a + b))
  | "-" => .ok (wrap (a - b))
  | "*" => .ok (wrap (a * b))
  | "/" => if b = 0 then .error .zeroDivision else .ok (wrap (a.tdiv b))
  | "%" => if b = 0 then .error .zeroDivision else .ok (wrap (a.tmod b))
  | "<<" => .ok (wrap (a * Int.ofNat (Nat.pow 2 (b % 64).toNat)))
  | ">>" => .ok (a.fdiv (Int.ofNat (Nat.pow 2 (b % 64).toNat)))
  | "<" => .ok (truth (a < b))
  | ">" => .ok (truth (a > b))
  | "<=" => .ok (truth (a ≤ b))
  | ">=" => .ok (truth (a ≥ b))
  | "==" => .ok (truth (a = b))
  | "!=" => .ok (truth (a ≠ b))
  | "&" => .ok ((BitVec.ofInt 64 a &&& BitVec.ofInt 64 b).toInt)
  | "^" => .ok ((BitVec.ofInt 64 a ^^^ BitVec.ofInt 64 b).toInt)
  | _ => .ok ((BitVec.ofInt 64 a ||| BitVec.ofInt 64 b).toInt)

/-- The value of an operator in front of a number. -/
def applyUnary (op : String) (a : Int) : Int :=
  match op with
  | "-" => wrap (-a)
  | "!" => truth (a = 0)
  | "~" => -a - 1
  | _ => a

/-- Values of names, the latest first, and how other names are looked up. -/
structure Names where
  /-- The value of a name that was not assigned. -/
  lookup : String → String
  /-- The values that were assigned. -/
  assigned : List (String × Int) := []

/-- The number that the value of a name writes. -/
def Names.value (names : Names) (s : String) : Except Fault Int :=
  match names.assigned.lookup s with
  | some v => .ok v
  | none =>
    let text := names.lookup s
    let blank := text.toList.all Numeral.isSpace
    match Numeral.signed64? true text.toList with
    | some v => .ok v
    | none => if blank then .ok 0 else .error (.noNumber text)

/-- The value of an expression, and the names after it. -/
def value (names : Names) : Expression → Except Fault (Int × Names)
  | .number n => .ok (n, names)
  | .name s => do return (← names.value s, names)
  | .unary op a => do
    let (v, names) ← value names a
    return (applyUnary op v, names)
  | .binary op a b => do
    let (v, names) ← value names a
    let (w, names) ← value names b
    return (← apply op v w, names)
  | .both a b => do
    let (v, names) ← value names a
    if v = 0 then return (0, names)
    let (w, names) ← value names b
    return (truth (w ≠ 0), names)
  | .either a b => do
    let (v, names) ← value names a
    if v ≠ 0 then return (1, names)
    let (w, names) ← value names b
    return (truth (w ≠ 0), names)
  | .choice c a b => do
    let (v, names) ← value names c
    if v ≠ 0 then value names a else value names b
  | .assign s how a => do
    let (v, names) ← value names a
    let v ← match how with
      | none => .ok v
      | some op => do apply op (← names.value s) v
    return (v, { names with assigned := (s, v) :: names.assigned })

/-- The value of the expression of a text, and the values that names take by it, in order of time. -/
def evaluate (lookup : String → String) (s : String) : Except Fault (Int × List (String × Int)) := do
  let e ← ofText s
  let (v, names) ← value { lookup } e
  return (v, names.assigned.reverse)

end Expression

end Shell

end Multilint
