import Multilint.Decimal.Leading
import Multilint.FileTree
/-!
# Conditions

What `test` says about texts, numbers and files. A condition is a list of words: `!` binds stronger than
`-a`, and that stronger than `-o`; a word alone holds when it is not empty. With three words or four the words
at the ends decide first how the others are read.
-/

namespace Multilint

namespace Condition

/-- What is wrong with a condition. -/
inductive Fault where
  /-- Nothing follows a word that asks about something. -/
  | noArgument (operator : String)
  /-- Something follows a condition. -/
  | unexpected (word : String)
  /-- A parenthesis is not closed. -/
  | unclosed
  /-- A word is no number. -/
  | noNumber (word : String)
  deriving DecidableEq, Repr

/-- The wording of a fault. -/
def Fault.message : Fault → String
  | .noArgument op => op ++ ": argument expected"
  | .unexpected w => if w = "" then "unexpected operator" else w ++ ": unexpected operator"
  | .unclosed => "closing paren expected"
  | .noNumber w => "Illegal number: " ++ w

/-- A number of a condition. -/
def number (s : String) : Except Fault Int :=
  match Numeral.signed64? false s.toList with
  | some n => .ok n
  | none => .error (.noNumber s)

/-- What a letter behind a dash asks about a text or a path. -/
def unary? (tree : FileTree) (dir : Path) : String → Option (String → Except Fault Bool)
  | "-n" => some fun s => .ok (s ≠ "")
  | "-z" => some fun s => .ok (s = "")
  | "-t" => some fun s => do
    let _ ← number s
    return false
  | "-e" | "-r" | "-w" | "-O" | "-G" => some fun s => .ok (tree.leads dir (Path.ofString s))
  | "-f" => some fun s => .ok (tree.isFile dir (Path.ofString s))
  | "-d" => some fun s => .ok (tree.isDir dir (Path.ofString s))
  | "-b" | "-c" | "-p" | "-S" | "-u" | "-g" | "-k" => some fun _ => .ok false
  | "-s" => some fun s =>
    .ok (tree.isDir dir (Path.ofString s) ||
      ((tree.content? dir (Path.ofString s)).any fun bytes => bytes.size > 0))
  | "-x" => some fun s =>
    match tree.resolve dir (Path.ofString s) with
    | .ok ⟨_, .file _ executable⟩ => .ok executable
    | .ok ⟨_, .dir _⟩ => .ok true
    | _ => .ok false
  | "-L" | "-h" => some fun s =>
    match tree.resolveEntry dir (Path.ofString s) with
    | .ok ⟨_, .link _⟩ => .ok true
    | _ => .ok false
  | _ => none

/-- What two numbers that words write have to do with each other. -/
def compare (holds : Int → Int → Bool) (a b : String) : Except Fault Bool := do
  let x ← number a
  let y ← number b
  return holds x y

/-- What a word between two others says about them. -/
def binary? (tree : FileTree) (dir : Path) : String → Option (String → String → Except Fault Bool)
  | "=" => some fun a b => .ok (a = b)
  | "!=" => some fun a b => .ok (a ≠ b)
  | "<" => some fun a b => .ok (a < b)
  | ">" => some fun a b => .ok (b < a)
  | "-eq" => some (compare fun a b => a = b)
  | "-ne" => some (compare fun a b => a ≠ b)
  | "-lt" => some (compare fun a b => a < b)
  | "-le" => some (compare fun a b => a ≤ b)
  | "-gt" => some (compare fun a b => b < a)
  | "-ge" => some (compare fun a b => b ≤ a)
  | "-nt" | "-ot" => some fun _ _ => .ok false
  | "-ef" => some fun a b =>
    match tree.resolve dir (Path.ofString a), tree.resolve dir (Path.ofString b) with
    | .ok x, .ok y => .ok (x.names = y.names)
    | _, _ => .ok false
  | _ => none

/-- What a word is in a condition. -/
inductive Role where
  /-- It asks about the word behind it. -/
  | unary
  /-- It compares the words around it. -/
  | binary
  /-- It negates. -/
  | negation
  /-- It joins conditions that must all hold. -/
  | both
  /-- It joins conditions of which one must hold. -/
  | either
  /-- It opens a group. -/
  | opening
  /-- It closes a group. -/
  | closing
  /-- A text. -/
  | operand
  /-- There is none. -/
  | finish
  deriving DecidableEq, Repr

/-- Reads the words of conditions about files. -/
structure Reader where
  /-- The files. -/
  tree : FileTree
  /-- The directory that paths start from. -/
  dir : Path

namespace Reader

/-- What a word can be besides a text. -/
def special? (r : Reader) (w : String) : Option Role :=
  match w with
  | "!" => some .negation
  | "-a" => some .both
  | "-o" => some .either
  | "(" => some .opening
  | ")" => some .closing
  | w =>
    if (unary? r.tree r.dir w).isSome then some .unary
    else if (binary? r.tree r.dir w).isSome then some .binary
    else none

/-- What the first of some words is. A word that asks about something is a text where nothing follows, or where
a comparison does. -/
def role (r : Reader) : List String → Role
  | [] => .finish
  | w :: rest =>
    match r.special? w, rest with
    | none, _ => .operand
    | some .unary, [] => .operand
    | some .unary, [_] => .unary
    | some .unary, next :: _ => if r.special? next = some .binary then .operand else .unary
    | some .opening, [] => .operand
    | some role, _ => role

/-- How strong the words that join conditions bind. -/
inductive Level where
  /-- Conditions joined by `-o`. -/
  | either
  /-- Conditions joined by `-a`. -/
  | both
  /-- One condition, perhaps negated. -/
  | single
  /-- One condition. -/
  | plain

/-- Reads a condition at words of which the first has a given role, of at most so many nested parts; gives its
truth and the words from its last one on. -/
def read (r : Reader) : Nat → Level → Role → List String → Except Fault (Bool × List String)
  | 0, _, _, ws => .ok (false, ws)
  | n + 1, .either, role, ws => do
    let (a, ws) ← read r n .both role ws
    if r.role (ws.drop 1) = .either then
      let (b, ws) ← read r n .either (r.role (ws.drop 2)) (ws.drop 2)
      return (a || b, ws)
    else return (a, ws)
  | n + 1, .both, role, ws => do
    let (a, ws) ← read r n .single role ws
    if r.role (ws.drop 1) = .both then
      let (b, ws) ← read r n .both (r.role (ws.drop 2)) (ws.drop 2)
      return (a && b, ws)
    else return (a, ws)
  | n + 1, .single, role, ws =>
    if role = .negation then do
      let next := r.role (ws.drop 1)
      let (a, ws) ← read r n .single next (if next = .finish then ws else ws.drop 1)
      return (!a, ws)
    else read r n .plain role ws
  | n + 1, .plain, role, ws =>
    match role, ws with
    | .finish, ws => .ok (false, ws)
    | .opening, _ :: ws =>
      let next := r.role ws
      if next = .closing then .ok (false, ws)
      else do
        let (a, ws) ← read r n .either next ws
        if r.role (ws.drop 1) = .closing then return (a, ws.drop 1) else throw .unclosed
    | .unary, [op] => .error (.noArgument op)
    | .unary, op :: w :: rest =>
      match unary? r.tree r.dir op with
      | some f => do return (← f w, w :: rest)
      | none => .ok (w ≠ "", w :: rest)
    | _, a :: op :: rest =>
      match (if r.role (op :: rest) = .binary then binary? r.tree r.dir op else none), rest with
      | some f, b :: rest => do return (← f a b, b :: rest)
      | some _, [] => .error (.noArgument op)
      | none, _ => .ok (a ≠ "", a :: op :: rest)
    | _, [a] => .ok (a ≠ "", [a])
    | _, [] => .ok (false, [])

/-- Whether words hold as a condition of which the first word has a given role. -/
def whole (r : Reader) (role : Role) (ws : List String) : Except Fault Bool := do
  let (a, rest) ← read r (4 * ws.length + 8) .either role ws
  match rest with
  | last :: _ :: _ => throw (.unexpected last)
  | _ => return a

/-- Whether words hold as a condition, at most so many of them being left out at the ends; the flag says whether
one of those negates. -/
def holds (r : Reader) : Nat → Bool → List String → Except Fault Bool
  | 0, negated, _ => .ok negated
  | n + 1, negated, ws =>
    let compared : Bool := ws.length = 3 && (ws[1]?.any fun w => r.special? w = some .binary)
    let few : Bool := ws.length = 3 || ws.length = 4
    let valued (role : Role) (ws : List String) : Except Fault Bool := do
      let a ← whole r role ws
      return a != negated
    if ws.isEmpty then .ok negated
    else if compared then valued .operand ws
    else if few && ws.head? = some "(" && ws.getLast? = some ")" then
      let inner := (ws.drop 1).dropLast
      valued (r.role inner) inner
    else if few && ws.head? = some "!" then holds r n true (ws.drop 1)
    else valued (r.role ws) ws

end Reader

/-- Whether a condition holds. -/
def holds (tree : FileTree) (dir : Path) (words : List String) : Except Fault Bool :=
  Reader.holds ⟨tree, dir⟩ (words.length + 1) false words

end Condition

end Multilint
