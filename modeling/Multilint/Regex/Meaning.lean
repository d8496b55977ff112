import Multilint.Regex.Basic
import Multilint.Regex.Written
import Multilint.Unicode.Lookup
/-!
# The meaning of written expressions

`Written.meaning?` works the flags of a written expression into its parts. It refuses sets that have no
meaning: unknown properties, and without Unicode whatever could match a part of a character.
-/

namespace Multilint

namespace Regex

/-! ## Sets -/

/-- A set with all spellings of its letters, if the flags say so. -/
def Flags.spellings (f : Flags) (s : CharSet) : CharSet :=
  if f.anyCase then
    (if f.unicode then Unicode.foldings else Unicode.asciiFoldings).close s
  else s

/-- A set or what is outside of it. Without Unicode nothing is, because that could be a part of a
character. -/
def Flags.outside? (f : Flags) (negated : Bool) (s : CharSet) : Option CharSet :=
  if negated then if f.unicode then some s.compl else none
  else some s

/-- A character that a set may have. -/
def Flags.member? (f : Flags) (l : Letter) : Option Char :=
  if f.unicode || l.char.toNat < 0x80 then some l.char else none

/-- The set of a class that has an escape of its own. -/
def Shorthand.set (s : Shorthand) (unicode : Bool) : CharSet :=
  match s, unicode with
  | .numeral, true => .ofRanges Text.digitRanges
  | .numeral, false => .listed "30-39"
  | .blank, true => Unicode.Property.whiteSpace
  | .blank, false => .listed "9-D 20"
  | .word, true => .ofRanges Text.wordRanges
  | .word, false => .listed "30-39 41-5A 5F 61-7A"

/-- The set of an operation. -/
def SetOperation.apply : SetOperation → CharSet → CharSet → CharSet
  | .inter => .inter
  | .diff => .diff
  | .symmDiff => .symmDiff

namespace WrittenSet

mutual

/-- The set that is written. Spellings are added before what is outside is taken. -/
def meaning? (f : Flags) : WrittenSet → Option CharSet
  | .letter l => do return .single (← f.member? l)
  | .range lo hi => do return .range (← f.member? lo) (← f.member? hi)
  | .asciiClass s negated => f.outside? negated (f.spellings s)
  | .shorthand s negated => f.outside? negated (s.set f.unicode)
  | .property name value negated =>
    if f.unicode then do
      let s ← match value with
        | some v => Unicode.valued? name v
        | none => Unicode.named? name
      f.outside? negated (f.spellings s)
    else none
  | .bracketed negated s => do f.outside? negated (f.spellings (← s.meaning? f))
  | .members ss => do return .unions (← meanings? f ss)
  | .operation o s t => do
    return o.apply (f.spellings (← s.meaning? f)) (f.spellings (← t.meaning? f))

/-- The sets that are written. -/
def meanings? (f : Flags) : List WrittenSet → Option (List CharSet)
  | [] => some []
  | s :: ss => do return (← s.meaning? f) :: (← meanings? f ss)

end

end WrittenSet

/-! ## Expressions -/

/-- The expression of a letter. Without Unicode an octet that is no character is refused. -/
def Flags.letter? (f : Flags) (l : Letter) : Option Regex :=
  if f.unicode || !l.octet || l.char.toNat < 0x80 then some (ofSet (f.spellings (.single l.char)))
  else none

/-- The expression of a dot: no line end, unless the flags say otherwise. -/
def Flags.dot? (f : Flags) : Option Regex :=
  if f.unicode then
    some (.one (if f.dotAll then .all else (CharSet.listed (if f.crlf then "A D" else "A")).compl))
  else none

/-- The anchor of a place. -/
def Flags.anchor (f : Flags) : WrittenPlace → Anchor
  | .start => if f.byLine then .lineStart f.crlf else .textStart
  | .stop => if f.byLine then .lineEnd f.crlf else .textEnd
  | .textStart => .textStart
  | .textEnd => .textEnd
  | .wordEdge => .word .edge f.unicode
  | .noWordEdge => .word .noEdge f.unicode
  | .wordStart => .word .start f.unicode
  | .wordEnd => .word .stop f.unicode
  | .noWordBefore => .word .noneBefore f.unicode
  | .noWordAfter => .word .noneAfter f.unicode

namespace Written

mutual

/-- The expression that is written, and the flags behind it. A change of flags lasts to the end of the
group, also in the branches behind the one where it stands. -/
def meaning? : Written → StateT Flags Option Regex
  | .empty => return .empty
  | .flags c => do
    modify fun f => f.change c
    return .empty
  | .letter l => do (← get).letter? l
  | .dot => do (← get).dot?
  | .place p => do return .anchor ((← get).anchor p)
  | .set s => do return ofSet (← s.meaning? (← get))
  | .group index c w => do
    let f ← get
    modify fun f => f.change c
    let r ← w.meaning?
    modify fun _ => f
    return match index with
      | some i => .group i r
      | none => r
  | .seq ws => do return ofSeq (← meanings? ws)
  | .alt ws => do return ofAlt (← meanings? ws)
  | .rep w lo hi marked => do
    let f ← get
    let r ← w.meaning?
    return ofRep r lo hi (marked == f.lazy)

/-- The expressions that are written. -/
def meanings? : List Written → StateT Flags Option (List Regex)
  | [] => return []
  | w :: ws => do return (← w.meaning?) :: (← meanings? ws)

end

end Written

end Regex

end Multilint
