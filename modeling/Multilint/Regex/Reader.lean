import Multilint.Regex.Class
import Multilint.Unicode.Property
/-!
# Reading regular expressions

`Written.ofText?` reads the expression a text writes. It refuses whatever cannot be searched for from left
to right in one go: conditions on the text around a match, and references to groups.
-/

namespace Multilint

namespace Regex

open Reader

/-! ## Groups -/

/-- The flag of a letter. -/
def flag? : Char → Option Flag
  | 'i' => some .anyCase
  | 'm' => some .byLine
  | 's' => some .dotAll
  | 'U' => some .lazy
  | 'u' => some .unicode
  | 'R' => some .crlf
  | 'x' => some .spaced
  | _ => none

/-- The change that letters write. Those behind a minus sign switch off. No letter and no sign comes
twice, and a minus sign has letters behind it. -/
def flagChange? (cs : List Char) : Option FlagChange :=
  if cs.Nodup && cs.getLast? != some '-' then do
    let (on, off) := cs.span (· ≠ '-')
    let on ← on.mapM flag?
    let off ← (off.drop 1).mapM flag?
    return on.map (·, true) ++ off.map (·, false)
  else none

/-- Whether blanks and comments say nothing after a change. -/
def switchSpaced (c : FlagChange) : Reader Unit :=
  modify fun u => c.foldl (fun u e => if e.1 = .spaced then { u with spaced := e.2 } else u) u

/-- Whether a text is the name of a group. -/
def isGroupName : List Char → Bool
  | [] => false
  | c :: cs =>
    let isLetter c := c == '_' || Unicode.Property.alphabetic.has c
    isLetter c && cs.all fun c => isLetter c || (Unicode.category "N").has c || ['.', '[', ']'].contains c

/-- The name of a group, up to the bracket that ends it. -/
def groupName : Reader Unit := do
  let r ← rest
  let name := r.takeWhile (· ≠ '>')
  let names := (← get).names
  match r.drop name.length with
  | _ :: cs =>
    let s := String.ofList name
    if isGroupName name && !names.contains s then
      modify fun u => { u with rest := cs, names := s :: names }
    else refuse
  | [] => refuse

/-- The number of a new group. -/
def openGroup : Reader Nat := do
  modify fun u => { u with groups := u.groups + 1 }
  return (← get).groups

/-- What an opening parenthesis starts. -/
inductive Opening where
  /-- A change of flags, all between parentheses. -/
  | flags (c : FlagChange)
  /-- A group with its number, if it has one, and its flags. -/
  | group (index : Option Nat) (c : FlagChange)

/-- What follows an opening parenthesis. -/
def opening : Reader Opening := do
  skipSpace
  let r ← rest
  if ["?=", "?!", "?<=", "?<!"].any fun p => (Text.after? p.toList r).isSome then refuse
  else if (← accept "?P<") || (← accept "?<") then do
    groupName
    return .group (← openGroup) []
  else if ← accept "?" then do
    let letters := (← rest).takeWhile fun c => c ≠ ':' && c ≠ ')'
    goOn ((← rest).drop letters.length)
    let c ← need (flagChange? letters)
    match ← next with
    | ':' => return .group none c
    | _ => if c.isEmpty then refuse else return .flags c
  else return .group (← openGroup) []

/-! ## Repetitions -/

/-- The number of repetitions that digits between blanks write. -/
def count : Reader Nat := do
  goOn ((← rest).dropWhile Text.isBlank)
  let ds ← spacedRun Numeral.isDigit (← rest).length
  let _ ← spacedRun Text.isBlank (← rest).length
  let n := Numeral.value ds
  if ds.isEmpty || n ≥ 0x100000000 then refuse else return n

/-- The bounds of a counted repetition, behind the brace. -/
def bounds : Reader (Nat × Option Nat) := do
  skipSpace
  let lo ← count
  if ← accept "\x7d" then return (lo, some lo)
  else if ← accept "," then do
    skipSpace
    if ← accept "\x7d" then return (lo, none)
    else do
      let hi ← count
      if (← accept "\x7d") && lo ≤ hi then return (lo, some hi) else refuse
  else refuse

/-- The bounds of the repetition that a sign stands for. -/
def repetition? : Char → Option (Reader (Nat × Option Nat))
  | '*' => some (return (0, none))
  | '+' => some (return (1, none))
  | '?' => some (return (0, some 1))
  | '\x7b' => some do
    let b ← bounds
    skipSpace
    return b
  | _ => none

/-! ## Expressions -/

/-- The expression of an atom. -/
def ofAtom : Atom → Written
  | .letter l => .letter l
  | .set s => .set s
  | .place p => .place p

/-- What a character stands for that starts neither a group nor a repetition. -/
def item : Char → Reader Written
  | '[' => do return .set (← bracketed (2 * (← rest).length + 2))
  | '.' => return .dot
  | '^' => return .place .start
  | '$' => return .place .stop
  | '\\' => do return ofAtom (← escape)
  | c => return .letter ⟨c, false⟩

mutual

/-- The branches up to the end of a group or of the text. The fuel bounds the number of characters. -/
def branches : Nat → Reader (List Written)
  | 0 => refuse
  | fuel + 1 => do
    let w ← items fuel []
    if ← accept "|" then return w :: (← branches fuel)
    else return [w]

/-- What stands one after another up to the end of a branch. `done` has been read, the last item
first. -/
def items : Nat → List Written → Reader Written
  | 0, _ => refuse
  | fuel + 1, done => do
    skipSpace
    match ← rest with
    | [] | '|' :: _ | ')' :: _ => return .ofItems done.reverse
    | '(' :: cs => do
      goOn cs
      match ← opening with
      | .flags c => do
        switchSpaced c
        items fuel (.flags c :: done)
      | .group index c => do
        let spaced := (← get).spaced
        switchSpaced c
        let w := Written.ofBranches (← branches fuel)
        if ← accept ")" then do
          modify fun u => { u with spaced := spaced }
          items fuel (.group index c w :: done)
        else refuse
    | c :: cs => do
      goOn cs
      match repetition? c with
      | some bounds =>
        match done with
        | w :: ws =>
          if w.isRepeatable then do
            let (lo, hi) ← bounds
            let marked ← accept "?"
            items fuel (.rep w lo hi marked :: ws)
          else refuse
        | [] => refuse
      | none => do items fuel ((← item c) :: done)

end

/-- The expression a text writes. -/
def Written.ofText? (s : String) : Option Written := do
  let cs := s.toList
  let (ws, u) ← (branches (3 * cs.length + 3)).run { rest := cs }
  let w := Written.ofBranches ws
  if u.rest.isEmpty && w.height ≤ heightLimit then some w else none

end Regex

end Multilint
