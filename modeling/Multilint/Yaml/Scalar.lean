import Multilint.Yaml.Token
/-!
# Scalars of YAML

A scalar may go over several lines. A single line break within a plain or quoted scalar is read as a
blank, and of several breaks all but the first stay. A block keeps its breaks or folds them in the same
way, except around lines that are indented further.
-/

namespace Multilint

namespace Yaml

/-- The gap between two parts of a scalar: blanks on one line, or a first break and more of them. -/
structure Gap where
  /-- The blanks before a break. -/
  blanks : List Char := []
  /-- The first break. -/
  first : Option (List Char) := none
  /-- The breaks behind it. -/
  more : List Char := []

/-- What a gap is read as. -/
def Gap.read (g : Gap) : List Char :=
  match g.first with
  | none => g.blanks
  | some b => if b == ['\n'] then (if g.more.isEmpty then [' '] else g.more) else b ++ g.more

/-- Reads a gap of blanks and breaks. A tab in the indentation of a plain scalar is refused; the least
column is that of the indentation. The fuel is the number of characters. -/
def gapAt (tabLimit : Nat) : Nat → Gap → Spot → Option (Gap × Spot)
  | 0, g, s => some (g, s)
  | fuel + 1, g, s =>
    match s.rest with
    | c :: _ =>
      if isBlank c then
        match g.first with
        | none => gapAt tabLimit fuel { g with blanks := g.blanks ++ [c] } (s.skip 1)
        | some _ =>
          if c == '\t' && s.column < tabLimit then none
          else gapAt tabLimit fuel g (s.skip 1)
      else if isBreak c then
        let (b, s) := s.newline
        match g.first with
        | none => gapAt tabLimit fuel { blanks := [], first := some b, more := [] } s
        | some _ => gapAt tabLimit fuel { g with more := g.more ++ b } s
      else some (g, s)
    | [] => some (g, s)

/-! ## Plain scalars -/

/-- A character that ends a plain scalar in brackets or braces. -/
def isFlowMark (c : Char) : Bool :=
  c == ',' || c == '[' || c == ']' || c == '\x7b' || c == '\x7d'

/-- The characters of a plain scalar up to the next blank or the end of the scalar. -/
def plainWord (flow : Bool) : List Char → Option (List Char)
  | [] => some []
  | c :: cs =>
    if isSpace c then some []
    else if c == ':' && flow && cs.head?.any (fun d => isFlowMark d || d == '?') then none
    else if (c == ':' && spaceAhead cs) || (flow && isFlowMark c) then some []
    else (plainWord flow cs).map (c :: ·)

/-- A plain scalar: its text so far and the gap behind it. The result says whether a line break is the
last thing read. -/
def plainFrom (flow : Bool) (indent : Nat) :
    Nat → List Char → Gap → Spot → Option (List Char × Bool × Spot)
  | 0, _, _, _ => none
  | fuel + 1, text, gap, s =>
    let stop := some (text, gap.first.isSome, s)
    if s.documentMark.isSome || s.rest.head? == some '#' then stop
    else
      match plainWord flow s.rest with
      | none => none
      | some word =>
        let text := if word.isEmpty then text else text ++ gap.read ++ word
        let gap := if word.isEmpty then gap else {}
        let s := s.skip word.length
        if !s.rest.head?.any isSpace then some (text, gap.first.isSome, s)
        else
          match gapAt indent s.rest.length gap s with
          | none => none
          | some (gap, s) =>
            if !flow && s.column < indent then some (text, gap.first.isSome, s)
            else plainFrom flow indent fuel text gap s

/-! ## Quoted scalars -/

/-- The character that a number of hexadecimal digits writes, and what follows. -/
def hexChar? (count : Nat) (s : List Char) : Option Char :=
  if s.length < count then none else Numeral.hexChar? (s.take count)

/-- The character that an escape of one letter stands for. -/
def shortEscape? : Char → Option Char
  | '0' => some '\x00'
  | 'a' => some '\x07'
  | 'b' => some '\x08'
  | 't' => some '\t'
  | '\t' => some '\t'
  | 'n' => some '\n'
  | 'v' => some '\x0b'
  | 'f' => some '\x0c'
  | 'r' => some '\r'
  | 'e' => some '\x1b'
  | ' ' => some ' '
  | '"' => some '"'
  | '/' => some '/'
  | '\\' => some '\\'
  | 'N' => some '\x85'
  | '_' => some '\xa0'
  | 'L' => some '\u2028'
  | 'P' => some '\u2029'
  | _ => none

/-- The number of hexadecimal digits behind an escape letter. -/
def escapeDigits? : Char → Option Nat
  | 'x' => some 2
  | 'u' => some 4
  | 'U' => some 8
  | _ => none

/-- The character of an escape behind its backslash, and the characters it takes. -/
def escape? : List Char → Option (Char × Nat)
  | [] => none
  | c :: cs =>
    match shortEscape? c with
    | some d => some (d, 1)
    | none => do
      let n ← escapeDigits? c
      return (← hexChar? n cs, n + 1)

/-- A quoted scalar behind its opening quote: its text so far, and the gap before the next character. -/
def quotedFrom (double : Bool) : Nat → List Char → Gap → Spot → Option (List Char × Spot)
  | 0, _, _, _ => none
  | fuel + 1, text, gap, s =>
    if s.documentMark.isSome then none
    else
      let put (cs : List Char) (n : Nat) :=
        quotedFrom double fuel (text ++ gap.read ++ cs) {} (s.skip n)
      match s.rest with
      | [] => none
      | c :: cs =>
        if isSpace c then
          match gapAt 0 s.rest.length gap s with
          | none => none
          | some (gap, s) => quotedFrom double fuel text gap s
        else if double then
          if c == '"' then some (text ++ gap.read, s.skip 1)
          else if c == '\\' then
            if cs.head?.any isBreak then
              let (_, s) := (s.skip 1).newline
              quotedFrom double fuel (text ++ gap.read) { first := some [], more := [] } s
            else
              match escape? cs with
              | none => none
              | some (d, n) => put [d] (n + 1)
          else put [c] 1
        else if c == '\'' then
          if cs.head? == some '\'' then put ['\''] 2 else some (text ++ gap.read, s.skip 1)
        else put [c] 1

/-! ## Blocks -/

/-- What a block does with the line breaks at its end. -/
inductive Chomping where
  /-- All of them go. -/
  | strip
  /-- One of them stays. -/
  | clip
  /-- All of them stay. -/
  | keep
  deriving DecidableEq, Repr

/-- The header of a block: chomping and indentation in any order, each at most once. -/
def blockHeader? : List Char → Option (Chomping × Option Nat × Nat)
  | c :: cs =>
    let sign? (c : Char) : Option Chomping :=
      if c == '+' then some .keep else if c == '-' then some .strip else none
    match sign? c with
    | some ch =>
      match cs.head? with
      | some d =>
        if Numeral.isDigit d then
          if d == '0' then none else some (ch, some (Numeral.digitValue d), 2)
        else some (ch, none, 1)
      | none => some (ch, none, 1)
    | none =>
      if Numeral.isDigit c then
        if c == '0' then none
        else
          match cs.head?.bind sign? with
          | some ch => some (ch, some (Numeral.digitValue c), 2)
          | none => some (.clip, some (Numeral.digitValue c), 1)
      else some (.clip, none, 0)
  | [] => some (.clip, none, 0)

/-- The breaks before a line of a block, and the widest indentation among the lines passed. The
indentation is not known before the first line with content. -/
def blockBreaks (indent : Option Nat) :
    Nat → List Char → Nat → Spot → Option (List Char × Nat × Spot)
  | 0, _, _, _ => none
  | fuel + 1, breaks, widest, s =>
    let inMargin (column : Nat) : Bool := indent.all (column < ·)
    let wanted := match indent with
      | none => (s.rest.takeWhile (· == ' ')).length
      | some n => min (n - s.column) (s.rest.takeWhile (· == ' ')).length
    let s := s.skip wanted
    let widest := max widest s.column
    match s.rest with
    | c :: _ =>
      if c == '\t' && inMargin s.column then none
      else if isBreak c then
        let (b, s) := s.newline
        blockBreaks indent fuel (breaks ++ b) widest s
      else some (breaks, widest, s)
    | [] => some (breaks, widest, s)

/-- What is known of a block while its lines are read. -/
structure BlockText where
  /-- The text up to the last line. -/
  text : List Char := []
  /-- The break behind the last line. -/
  leading : List Char := []
  /-- The breaks of empty lines behind it. -/
  trailing : List Char := []
  /-- The last line starts with a blank. -/
  indented : Bool := false

/-- The text with the breaks before another line. -/
def BlockText.join (b : BlockText) (folds : Bool) (blank : Bool) : List Char :=
  if folds && b.leading == ['\n'] && !b.indented && !blank then
    b.text ++ (if b.trailing.isEmpty then [' '] else []) ++ b.trailing
  else b.text ++ b.leading ++ b.trailing

/-- The lines of a block. -/
def blockLines (folds : Bool) (indent : Nat) : Nat → BlockText → Spot → Option (BlockText × Spot)
  | 0, _, _ => none
  | fuel + 1, b, s =>
    match s.rest with
    | [] => some (b, s)
    | c :: _ =>
      if s.column ≠ indent then some (b, s)
      else
        let blank := isBlank c
        let text := b.join folds blank
        let line := s.rest.takeWhile fun c => !isBreak c
        let s := s.skip line.length
        let (leading, s) := s.newline
        match blockBreaks (some indent) (s.rest.length + 1) [] 0 s with
        | none => none
        | some (trailing, _, s) =>
          blockLines folds indent fuel ⟨text ++ line, leading, trailing, blank⟩ s

/-- A block behind its mark. `parent` is the indentation around it; none is the outermost. -/
def blockScalar (folds : Bool) (parent : Option Nat) (s : Spot) : Option (List Char × Spot) := do
  let (chomping, step, n) ← blockHeader? s.rest
  let s := (s.skip n).skipWhile isBlank
  let s := if s.rest.head? == some '#' then s.skipWhile (fun c => !isBreak c) else s
  if !s.rest.head?.all isBreak then none
  let (_, s) := s.newline
  let given := step.map fun k => parent.getD 0 + k
  let (trailing, widest, s) ← blockBreaks given (s.rest.length + 1) [] 0 s
  let indent := given.getD (max (max widest ((parent.map (· + 1)).getD 0)) 1)
  let (b, s) ← blockLines folds indent (s.rest.length + 1) { trailing } s
  let tail := match chomping with
    | .strip => []
    | .clip => b.leading
    | .keep => b.leading ++ b.trailing
  return (b.text ++ tail, s)

end Yaml

end Multilint
