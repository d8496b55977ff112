import Multilint.Machine.Program
import Multilint.Text.Numeral
/-!
# Patterns of a shell

What a pattern fits, byte for byte. A character that came from quotes stands for itself. The same patterns choose
an arm of a selection, cut values, and stand for the files of a directory.
-/

namespace Multilint

namespace Shell

/-- A character, and whether it came from quotes. -/
abbrev Marked := Char × Bool

/-- The text of characters. -/
def unmarked (ms : List Marked) : String :=
  String.ofList (ms.map (·.1))

/-- A byte of a pattern, and whether it came from quotes. -/
abbrev MarkedByte := UInt8 × Bool

/-- The bytes of characters. -/
def markedBytes (ms : List Marked) : List MarkedByte :=
  ms.flatMap fun m => (Utf8.bytes m.1.toString).map (·, m.2)

/-- Bytes that a part of a bracket stands for. -/
inductive ByteSet where
  /-- All from one to another. -/
  | range (first last : UInt8)
  /-- Those of a kind. -/
  | kind (p : Char → Bool)

/-- Whether a byte is in a set. -/
def ByteSet.has (b : UInt8) : ByteSet → Bool
  | .range first last => first ≤ b && b ≤ last
  | .kind p => b < 128 && p (Char.ofNat b.toNat)

/-- A part of a pattern. -/
inductive PatternPart where
  /-- A byte. -/
  | byte (b : UInt8)
  /-- Any byte. -/
  | one
  /-- Any bytes. -/
  | many
  /-- A byte in one of some sets, or in none of them. -/
  | among (negated : Bool) (sets : List ByteSet)

namespace PatternPart

/-- The kinds of characters that have a name. -/
def kind? : String → Option (Char → Bool)
  | "alnum" => some Char.isAlphanum
  | "alpha" => some Char.isAlpha
  | "blank" => some fun c => c = ' ' || c = '\t'
  | "cntrl" => some fun c => c < ' ' || c = '\x7f'
  | "digit" => some Char.isDigit
  | "graph" => some fun c => ' ' < c && c < '\x7f'
  | "lower" => some Char.isLower
  | "print" => some fun c => ' ' ≤ c && c < '\x7f'
  | "punct" => some fun c => ' ' < c && c < '\x7f' && !c.isAlphanum
  | "space" => some fun c => c = ' ' || ('\t' ≤ c && c ≤ '\r')
  | "upper" => some Char.isUpper
  | "xdigit" => some fun c => (Numeral.hexValue? c).isSome
  | _ => none

/-- The byte of an ASCII character. -/
def ascii (c : Char) : UInt8 :=
  UInt8.ofNat c.toNat

/-- Whether a byte is a character that did not come from quotes. -/
def isBare (c : Char) (m : MarkedByte) : Bool :=
  m.1 = ascii c && !m.2

/-- The named kind at the start of a bracket's part, behind its first character, and what follows it. -/
def kindAt? (ms : List MarkedByte) : Option ((Char → Bool) × List MarkedByte) :=
  match ms with
  | m :: rest =>
    if !isBare ':' m then none
    else
      let name := rest.takeWhile fun m => (Char.ofNat m.1.toNat).isAlpha
      match rest.drop name.length with
      | a :: b :: behind =>
        if isBare ':' a && isBare ']' b then
          (kind? (Utf8.text (name.map (·.1)))).map (·, behind)
        else none
      | _ => none
  | [] => none

/-- The sets of a bracket, of at most so many parts, and what follows it. A bracket at the start of a part may name a
kind of characters, and a backslash takes the next byte as it is. -/
def sets : Nat → Bool → List MarkedByte → Option (List ByteSet × List MarkedByte)
  | 0, _, _ => none
  | _, _, [] => none
  | n + 1, first, m :: rest =>
    if isBare ']' m && !first then some ([], rest)
    else
      match (if isBare '[' m then kindAt? rest else none) with
      | some (p, behind) => (sets n false behind).map fun (ss, r) => (.kind p :: ss, r)
      | none =>
        let (m, rest) := match rest with
          | x :: behind => if isBare '\\' m then (x, behind) else (m, rest)
          | [] => (m, rest)
        match rest with
        | dash :: d :: behind =>
          if isBare '-' dash && !isBare ']' d then
            let (d, behind) := match behind with
              | x :: more => if isBare '\\' d then (x, more) else (d, behind)
              | [] => (d, behind)
            (sets n false behind).map fun (ss, r) => (.range m.1 d.1 :: ss, r)
          else (sets n false rest).map fun (ss, r) => (.range m.1 m.1 :: ss, r)
        | _ => (sets n false rest).map fun (ss, r) => (.range m.1 m.1 :: ss, r)

/-- The parts of a pattern of at most so many bytes. A bracket that is not closed is a byte. -/
def ofMarked : Nat → List MarkedByte → List PatternPart
  | 0, _ => []
  | _, [] => []
  | n + 1, m :: rest =>
    if isBare '*' m then .many :: ofMarked n rest
    else if isBare '?' m then .one :: ofMarked n rest
    else if isBare '\\' m then
      match rest with
      | x :: behind => .byte x.1 :: ofMarked n behind
      | [] => [.byte m.1]
    else if isBare '[' m then
      let negated := rest.head?.any (isBare '!')
      let inner := if negated then rest.drop 1 else rest
      match sets (inner.length + 1) true inner with
      | some (ss, behind) => .among negated ss :: ofMarked n behind
      | none => .byte m.1 :: ofMarked n rest
    else .byte m.1 :: ofMarked n rest

/-- The parts that a list ends with, the longest first. -/
def endings {α : Type} : List α → List (List α)
  | [] => [[]]
  | c :: cs => (c :: cs) :: endings cs

/-- Whether a pattern fits bytes. -/
def fits : List PatternPart → List UInt8 → Bool
  | [], s => s.isEmpty
  | .byte b :: ps, x :: xs => b = x && fits ps xs
  | .one :: ps, _ :: xs => fits ps xs
  | .among negated ss :: ps, x :: xs => (ss.any (ByteSet.has x)) != negated && fits ps xs
  | .many :: ps, s => (endings s).any (fits ps)
  | _, [] => false

end PatternPart

/-- The pattern of characters. -/
def patternOf (ms : List Marked) : List PatternPart :=
  let bs := markedBytes ms
  PatternPart.ofMarked (bs.length + 1) bs

/-- Whether characters contain something that makes them a pattern. -/
def isPattern (ms : List Marked) : Bool :=
  ms.any fun m => !m.2 && ['*', '?', '['].contains m.1

/-- Bytes without the part at their start that a pattern fits. -/
def cutStart (longest : Bool) (p : List PatternPart) (s : List UInt8) : List UInt8 :=
  let lengths := List.range (s.length + 1)
  match (if longest then lengths.reverse else lengths).find? fun n => PatternPart.fits p (s.take n) with
  | some n => s.drop n
  | none => s

/-- Bytes without the part at their end that a pattern fits. -/
def cutEnd (longest : Bool) (p : List PatternPart) (s : List UInt8) : List UInt8 :=
  let lengths := List.range (s.length + 1)
  match (if longest then lengths else lengths.reverse).find? fun n => PatternPart.fits p (s.drop n) with
  | some n => s.take n
  | none => s

/-! ## Files -/

/-- The characters between slashes. -/
def segments : List Marked → List (List Marked)
  | [] => [[]]
  | m :: ms =>
    match segments ms with
    | [] => [[m]]
    | s :: ss => if m.1 = '/' then [] :: s :: ss else (m :: s) :: ss

/-- The paths that segments stand for behind given ones. -/
def pathsOf (tree : FileTree) (dir : Path) : List String → List (List Marked) → List (List String)
  | before, [] => [before]
  | before, s :: rest =>
    if !isPattern s then pathsOf tree dir (before ++ [unmarked s]) rest
    else
      let here := Path.ofString ("/".intercalate before)
      let base := if before.isEmpty then Path.ofString "." else if before.all (· = "") then Path.root else here
      let names := match tree.resolve dir base with
        | .ok ⟨_, .dir es⟩ => Program.listing true (("." , .dir []) :: ("..", .dir []) :: es)
        | _ => []
      let dotted := (s.head?.any fun m => m.1 = '.')
      let pattern := patternOf s
      let chosen := names.filter fun n =>
        (dotted || !n.startsWith ".") && PatternPart.fits pattern (Utf8.bytes n)
      chosen.flatMap fun n => pathsOf tree dir (before ++ [n]) rest

/-- The fields that a field stands for: the paths it fits, or itself where there are none. -/
def fieldsOf (tree : FileTree) (dir : Path) (ms : List Marked) : List String :=
  if !isPattern ms then [unmarked ms]
  else
    let found := (pathsOf tree dir [] (segments ms)).map ("/".intercalate ·)
    match found.filter fun p => tree.leads dir (Path.ofString p) with
    | [] => [unmarked ms]
    | ps => ps

end Shell

end Multilint
