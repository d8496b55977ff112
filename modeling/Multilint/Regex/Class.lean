import Multilint.Regex.Written
import Multilint.Text.Basic
/-!
# Reading characters and sets

The parts of a written expression that stand for single characters: escapes, and sets in brackets with
ranges, named classes, nested sets and set operations.
-/

namespace Multilint

namespace Regex

/-- What is left to read, and what has been read that counts further on. -/
structure Unread where
  /-- The text not read yet. -/
  rest : List Char
  /-- Whether blanks and comments say nothing. -/
  spaced : Bool := false
  /-- The number of groups. -/
  groups : Nat := 0
  /-- The names of groups. -/
  names : List String := []

/-- A reader of a part of an expression; nothing where the expression is refused. -/
abbrev Reader := StateT Unread Option

namespace Reader

/-- The text not read yet. -/
def rest : Reader (List Char) := do return (← get).rest

/-- Goes on with another text. -/
def goOn (cs : List Char) : Reader Unit := modify ({ · with rest := cs })

/-- Refuses the expression. -/
def refuse {α : Type} : Reader α := failure

/-- What there must be. -/
def need {α : Type} : Option α → Reader α
  | some a => return a
  | none => refuse

/-- The next character. -/
def next : Reader Char := do
  match ← rest with
  | [] => refuse
  | c :: cs => do goOn cs; return c

/-- Whether a given text comes next; if so, it is read. -/
def accept (s : String) : Reader Bool := do
  match Text.after? s.toList (← rest) with
  | some cs => do goOn cs; return true
  | none => return false

/-- The text behind blanks and comments. -/
def behindSpace : List Char → List Char
  | [] => []
  | '#' :: cs => behindComment cs
  | c :: cs => if Text.isBlank c then behindSpace cs else c :: cs
where
  /-- The text behind a comment and what may be passed over after it. -/
  behindComment : List Char → List Char
    | [] => []
    | '\n' :: cs => behindSpace cs
    | _ :: cs => behindComment cs

/-- A text without the blanks and comments it starts with, where they say nothing. -/
def passSpace (cs : List Char) : Reader (List Char) := do
  return if (← get).spaced then behindSpace cs else cs

/-- Passes over blanks and comments where they say nothing. -/
def skipSpace : Reader Unit := do goOn (← passSpace (← rest))

/-- The characters of a class that come next, with blanks and comments passed over behind each of them.
The fuel bounds their number. -/
def spacedRun (p : Char → Bool) : Nat → Reader (List Char)
  | 0 => return []
  | fuel + 1 => do
    match ← rest with
    | [] => return []
    | c :: cs =>
      if p c then do
        goOn (← passSpace cs)
        return c :: (← spacedRun p fuel)
      else return []

/-- What stands up to a closing brace, which is read. -/
def upToBrace : Reader (List Char) := do
  skipSpace
  let cs ← spacedRun (· ≠ '\x7d') (← rest).length
  if ← accept "\x7d" then return cs else refuse

end Reader

open Reader

/-- What an escape or a plain character stands for. -/
inductive Atom where
  /-- A character. -/
  | letter (l : Letter)
  /-- A set. -/
  | set (s : WrittenSet)
  /-- A place. -/
  | place (p : WrittenPlace)

/-! ## Escapes -/

/-- A fixed number of hexadecimal digits, with blanks and comments passed over between them. -/
def fixedDigits : Nat → Reader (List Char)
  | 0 => return []
  | n + 1 => do
    skipSpace
    return (← next) :: (← fixedDigits n)

/-- A character written as hexadecimal digits, in braces or of a fixed number. -/
def hexEscape (count : Nat) : Reader Letter := do
  skipSpace
  let braced ← accept "\x7b"
  let ds ← if braced then upToBrace else fixedDigits count
  skipSpace
  if ds.isEmpty then refuse
  else return ⟨← need (Numeral.hexChar? ds), !braced && count = 2⟩

/-- What follows a text at its first occurrence, and what stands before it. -/
def cutAt? (mark : List Char) : List Char → Option (List Char × List Char)
  | [] => none
  | c :: cs =>
    match Text.after? mark (c :: cs) with
    | some r => some ([], r)
    | none => (cutAt? mark cs).map fun (l, r) => (c :: l, r)

/-- A property that letters name, alone or with a value. All signs between the two say the same. -/
def propertyNamed (name : List Char) (negated : Bool) : WrittenSet :=
  match (cutAt? ['!', '='] name).or ((cutAt? [':'] name).or (cutAt? ['='] name)) with
  | some (property, value) =>
    .property (String.ofList property) (some (String.ofList value)) negated
  | none => .property (String.ofList name) none negated

/-- A property behind its letter: one letter more, or a name in braces. -/
def propertyEscape (negated : Bool) : Reader WrittenSet := do
  skipSpace
  if ← accept "\x7b" then return propertyNamed (← upToBrace) negated
  else do
    let c ← next
    skipSpace
    if c = '\\' then refuse else return .property (String.singleton c) none negated

/-- The place of a word behind its escape. A brace that no letter or hyphen follows starts a counted
repetition instead. -/
def wordPlace : Reader WrittenPlace := do
  let isName (c : Char) : Bool := c.isAlpha || c == '-'
  match ← rest with
  | '\x7b' :: cs => do
    let cs ← passSpace cs
    match cs with
    | [] => refuse
    | c :: _ =>
      if isName c then do
        goOn cs
        let name ← spacedRun isName cs.length
        if ← accept "\x7d" then
          match String.ofList name with
          | "start" => return .wordStart
          | "end" => return .wordEnd
          | "start-half" => return .noWordBefore
          | "end-half" => return .noWordAfter
          | _ => refuse
        else refuse
      else return .wordEdge
  | _ => return .wordEdge

/-- What follows a backslash. -/
def escape : Reader Atom := do
  let plain (c : Char) : Reader Atom := return .letter ⟨c, false⟩
  match ← next with
  | 'd' => return .set (.shorthand .numeral false)
  | 'D' => return .set (.shorthand .numeral true)
  | 's' => return .set (.shorthand .blank false)
  | 'S' => return .set (.shorthand .blank true)
  | 'w' => return .set (.shorthand .word false)
  | 'W' => return .set (.shorthand .word true)
  | 'p' => return .set (← propertyEscape false)
  | 'P' => return .set (← propertyEscape true)
  | 'A' => return .place .textStart
  | 'z' => return .place .textEnd
  | 'b' => return .place (← wordPlace)
  | 'B' => return .place .noWordEdge
  | '<' => return .place .wordStart
  | '>' => return .place .wordEnd
  | 'a' => plain '\x07'
  | 'f' => plain '\x0c'
  | 'n' => plain '\n'
  | 'r' => plain '\r'
  | 't' => plain '\t'
  | 'v' => plain '\x0b'
  | 'x' => return .letter (← hexEscape 2)
  | 'u' => return .letter (← hexEscape 4)
  | 'U' => return .letter (← hexEscape 8)
  | c => if c.toNat < 128 && !c.isAlphanum then plain c else refuse

/-! ## Sets in brackets -/

/-- The set of a named class of ASCII characters. -/
def asciiClass? (name : String) : Option CharSet :=
  match name with
  | "alnum" => some (.listed "30-39 41-5A 61-7A")
  | "alpha" => some (.listed "41-5A 61-7A")
  | "ascii" => some .ascii
  | "blank" => some (.listed "9 20")
  | "cntrl" => some (.listed "0-1F 7F")
  | "digit" => some (.listed "30-39")
  | "graph" => some (.listed "21-7E")
  | "lower" => some (.listed "61-7A")
  | "print" => some (.listed "20-7E")
  | "punct" => some (.listed "21-2F 3A-40 5B-60 7B-7E")
  | "space" => some (.listed "9-D 20")
  | "upper" => some (.listed "41-5A")
  | "word" => some (.listed "30-39 41-5A 5F 61-7A")
  | "xdigit" => some (.listed "30-39 41-46 61-66")
  | _ => none

/-- A named class, behind the bracket it starts with, and the rest. -/
def namedClass? : List Char → Option (WrittenSet × List Char)
  | ':' :: cs =>
    let (negated, cs) := match cs with
      | '^' :: r => (true, r)
      | r => (false, r)
    let name := cs.takeWhile (· ≠ ':')
    match asciiClass? (String.ofList name), cs.drop name.length with
    | some s, ':' :: ']' :: r => some (.asciiClass s negated, r)
    | _, _ => none
  | _ => none

/-- One end of a range, or what stands alone. -/
def setAtom : Reader Atom := do
  match ← next with
  | '\\' => escape
  | c => return .letter ⟨c, false⟩

/-- The character at an end of a range. -/
def rangeEnd : Atom → Reader Letter
  | .letter l => return l
  | _ => refuse

/-- The character by which a hyphen is told from a range. Where blanks say nothing it is the first one
that is neither a blank nor the sign that starts a comment, even inside of the comment. -/
def behindHyphen? (spaced : Bool) (cs : List Char) : Option Char :=
  if spaced then (seek false cs).or cs.head? else cs.head?
where
  /-- The first character that counts; inside of a comment the sign that starts one counts too. -/
  seek (comment : Bool) : List Char → Option Char
    | [] => none
    | c :: cs =>
      if Text.isBlank c then seek comment cs
      else if c == '#' && !comment then seek true cs
      else some c

/-- A range, a character or a class of its own. -/
def setItem : Reader WrittenSet := do
  let first ← setAtom
  skipSpace
  let alone : Reader WrittenSet := match first with
    | .letter l => return .letter l
    | .set s => return s
    | .place _ => refuse
  match ← rest with
  | '-' :: cs =>
    let sign := behindHyphen? (← get).spaced cs
    if sign == some ']' || sign == some '-' then alone
    else do
      goOn (← passSpace cs)
      let lo ← rangeEnd first
      let hi ← rangeEnd (← setAtom)
      if lo.char ≤ hi.char then return .range lo hi else refuse
  | _ => alone

/-- The hyphens a set starts with. The fuel bounds their number. -/
def leadingHyphens : Nat → Reader (List WrittenSet)
  | 0 => return []
  | fuel + 1 => do
    if ← accept "-" then do
      skipSpace
      return .letter ⟨'-', false⟩ :: (← leadingHyphens fuel)
    else return []

/-- The operation that two signs stand for. -/
def operation? : List Char → Option (SetOperation × List Char)
  | '&' :: '&' :: cs => some (.inter, cs)
  | '-' :: '-' :: cs => some (.diff, cs)
  | '~' :: '~' :: cs => some (.symmDiff, cs)
  | _ => none

mutual

/-- A set behind its opening bracket. The fuel bounds the number of characters. -/
def bracketed : Nat → Reader WrittenSet
  | 0 => refuse
  | fuel + 1 => do
    skipSpace
    let negated ← accept "^"
    skipSpace
    let hyphens ← leadingHyphens (← rest).length
    let first ← if hyphens.isEmpty then accept "]" else pure false
    let members := if first then [.letter ⟨']', false⟩] else hyphens
    return .bracketed negated (← setRest fuel id members)

/-- What is left of a set up to its closing bracket: `apply` is the operation under way, and `members`
have been read for its second operand, the last one first. -/
def setRest : Nat → (WrittenSet → WrittenSet) → List WrittenSet → Reader WrittenSet
  | 0, _, _ => refuse
  | fuel + 1, apply, members => do
    skipSpace
    let operand := apply (.ofMembers members.reverse)
    let cs ← rest
    match operation? cs with
    | some (o, r) => do goOn r; setRest fuel (.operation o operand) []
    | none =>
      match cs with
      | [] => refuse
      | ']' :: cs => do goOn cs; return operand
      | '[' :: cs =>
        match namedClass? cs with
        | some (s, r) => do goOn r; setRest fuel apply (s :: members)
        | none => do
          goOn cs
          let s ← bracketed fuel
          setRest fuel apply (s :: members)
      | _ => do
        let s ← setItem
        setRest fuel apply (s :: members)

end

end Regex

end Multilint
