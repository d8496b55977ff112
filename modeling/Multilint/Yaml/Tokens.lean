import Multilint.Text.Utf8
import Multilint.Yaml.Scalar
/-!
# The tokens of a YAML text

Blocks are found by indentation: a token further to the right than the block around it opens a block,
and one further to the left closes blocks. That a scalar is a key shows only at the colon behind it, so
each token that may be a key leaves a mark, and a key token is put there when the colon comes.
-/

namespace Multilint

namespace Yaml

/-- A token that may turn out to be a key. -/
structure Candidate where
  /-- The number of tokens before it. -/
  position : Nat
  /-- Where it starts. -/
  index : Nat
  /-- The line it starts in. -/
  line : Nat
  /-- The column it starts at. -/
  column : Nat
  /-- It has to be a key. -/
  required : Bool
  deriving Repr

/-- The state of reading tokens. -/
structure Lexing where
  /-- What is left to read. -/
  spot : Spot
  /-- The tokens so far. -/
  tokens : List Token := []
  /-- The column of the innermost block; none is outside of all blocks. -/
  indent : Option Nat := none
  /-- The columns of the blocks around it. -/
  outer : List (Option Nat) := []
  /-- The number of open brackets and braces. -/
  flow : Nat := 0
  /-- A key may start here. -/
  keyAllowed : Bool := true
  /-- The last candidate for a key, for each open bracket from the innermost, and outside of them. -/
  candidates : List (Option Candidate) := [none]

namespace Lexing

/-- One more token. -/
def emit (l : Lexing) (t : Token) : Lexing :=
  { l with tokens := l.tokens ++ [t] }

/-- A token in front of others. -/
def emitAt (l : Lexing) (n : Nat) (t : Token) : Lexing :=
  { l with tokens := l.tokens.take n ++ t :: l.tokens.drop n }

/-- Whether brackets or braces are open. -/
def inFlow (l : Lexing) : Bool := l.flow > 0

/-- The column of the next token. -/
def column (l : Lexing) : Nat := l.spot.column

/-- Whether a column lies to the right of the innermost block. -/
def isDeeper (l : Lexing) (column : Nat) : Bool :=
  l.indent.all (· < column)

/-- Opens a block at a column to the right of the innermost one. -/
def openBlock (l : Lexing) (column position : Nat) (t : Token) : Lexing :=
  if l.inFlow || !l.isDeeper column then l
  else
    { l with outer := l.indent :: l.outer, indent := some column }.emitAt position t

/-- The tokens, the innermost block and the ones around it when blocks to the right of a column are
closed; all of them without a column. -/
def closing (column : Option Nat) :
    List (Option Nat) → Option Nat → List Token → List Token × Option Nat × List (Option Nat)
  | outer, none, ts => (ts, none, outer)
  | [], some i, ts => (ts, some i, [])
  | o :: outer, some i, ts =>
    if column.all (· < i) then closing column outer o (ts ++ [.blockEnd])
    else (ts, some i, o :: outer)

/-- Closes the blocks to the right of a column. -/
def closeBlocks (l : Lexing) (column : Option Nat) : Lexing :=
  if l.inFlow then l
  else
    let (tokens, indent, outer) := closing column l.outer l.indent l.tokens
    { l with tokens, indent, outer }

/-- Gives up the last candidate; one that has to be a key is a fault. -/
def dropCandidate (l : Lexing) : Option Lexing :=
  match l.candidates with
  | some c :: cs => if c.required then none else some { l with candidates := none :: cs }
  | cs => some { l with candidates := cs }

/-- Makes the next token a candidate, where keys are allowed. -/
def addCandidate (l : Lexing) : Option Lexing :=
  if l.keyAllowed then do
    let l ← l.dropCandidate
    let c : Candidate :=
      { position := l.tokens.length, index := l.spot.index, line := l.spot.line
        column := l.column, required := !l.inFlow && l.indent == some l.column }
    return { l with candidates := some c :: l.candidates.drop 1 }
  else some l

/-- A key is on one line and has at most so many characters. -/
def keyLimit : Nat := 1024

/-- Whether it is too late for a candidate to be a key. -/
def isStale (s : Spot) (c : Candidate) : Bool :=
  c.line < s.line || c.index + keyLimit < s.index

/-- Gives up the candidates that it is too late for. -/
def dropStale (l : Lexing) : Option Lexing := do
  let candidates ← l.candidates.mapM fun
    | some c =>
      if isStale l.spot c then (if c.required then none else some none) else some (some c)
    | none => some none
  return { l with candidates }

/-! ## Between tokens -/

/-- Passes over blanks, comments and line breaks, and over the mark of the byte order where a line starts
with it. Behind a break outside of brackets a key may start, and tabs are blanks only where no key may.
The fuel is the number of characters. -/
def skipGaps : Nat → Lexing → Lexing
  | 0, l => l
  | fuel + 1, l =>
    match l.spot.rest with
    | c :: _ =>
      if c == ' ' || (c == '\t' && (l.inFlow || !l.keyAllowed)) ||
          (c == '\ufeff' && l.spot.column == 0) then
        skipGaps fuel { l with spot := l.spot.skip 1 }
      else if c == '#' then
        skipGaps fuel { l with spot := l.spot.skipWhile fun c => !isBreak c }
      else if isBreak c then
        skipGaps fuel { l with spot := l.spot.newline.2, keyAllowed := l.keyAllowed || !l.inFlow }
      else l
    | [] => l

/-! ## Tokens -/

/-- A character of a name. -/
def isNameChar (c : Char) : Bool :=
  c.isAlphanum || c == '_' || c == '-'

/-- What may follow the name of an anchor. -/
def endsName (s : List Char) : Bool :=
  s.head?.all fun c =>
    isSpace c || ['?', ':', ',', ']', '\x7d', '%', '@', Char.ofNat 0x60].contains c

/-- The name behind a mark of one character. -/
def name? (l : Lexing) : Option (String × Lexing) :=
  let s := l.spot.skip 1
  let name := s.rest.takeWhile isNameChar
  let s := s.skip name.length
  if name.isEmpty || !endsName s.rest then none
  else some (String.ofList name, { l with spot := s })

/-- A character of a tag. Commas and brackets stand only in tags given in full and in what a handle
stands for. -/
def isTagChar (full : Bool) (c : Char) : Bool :=
  isNameChar c || ";/?:@&=+$.%!~*'()".toList.contains c ||
    (full && (c == ',' || c == '[' || c == ']'))

/-- The number of octets that follow the first one of a character. -/
def octetsBehind? (first : Nat) : Option Nat :=
  if first < 0x80 then some 0
  else if first < 0xC0 then none
  else if first < 0xE0 then some 1
  else if first < 0xF0 then some 2
  else if first < 0xF8 then some 3
  else none

/-- The octets of the characters of a tag. Escapes come in groups, each as long as its first octet says. -/
def tagOctets? : Nat → List Char → Option TagText
  | owed, [] => if owed = 0 then some [] else none
  | owed, c :: cs =>
    if c == '%' || owed > 0 then
      match c, cs with
      | '%', h :: l :: cs => do
        let octet ← Numeral.valueIn? 16 [h, l]
        let owed ← if owed > 0 then
            (if 0x80 ≤ octet && octet < 0xC0 then some (owed - 1) else none)
          else octetsBehind? octet
        return UInt8.ofNat octet :: (← tagOctets? owed cs)
      | _, _ => none
    else do return Utf8.bytes (String.singleton c) ++ (← tagOctets? 0 cs)

/-- A tag behind its exclamation mark: given in full, with a handle, or with the first handle. -/
def tag? (s : List Char) : Option (Token × Nat) :=
  match s with
  | '<' :: cs => do
    let uri := cs.takeWhile (isTagChar true)
    let '>' :: _ := cs.drop uri.length | none
    if uri.isEmpty then none
    else return (.tag none (← tagOctets? 0 uri), uri.length + 2)
  | cs =>
    let handle := cs.takeWhile isNameChar
    match cs.drop handle.length with
    | '!' :: r => do
      let rest := r.takeWhile (isTagChar false)
      if rest.isEmpty then none
      else
        return (.tag (some ("!" ++ String.ofList handle ++ "!")) (← tagOctets? 0 rest),
          handle.length + 1 + rest.length)
    | _ => do
      let rest := cs.takeWhile (isTagChar false)
      if rest.isEmpty then return (.tag none (Utf8.bytes "!"), 0)
      else return (.tag (some "!") (← tagOctets? 0 rest), rest.length)

/-- The version that digits and a dot write, and what follows. -/
def version? (s : List Char) : Option (Bool × List Char) :=
  let (major, r) := Numeral.spanDigits s
  match r with
  | '.' :: r =>
    let (minor, r) := Numeral.spanDigits r
    if major.isEmpty || minor.isEmpty || major.length > 9 || minor.length > 9 then none
    else
      some (Numeral.value major == 1 && (Numeral.value minor == 1 || Numeral.value minor == 2), r)
  | _ => none

/-- A handle of tags and what it stands for. -/
def tagHandle? (s : List Char) : Option (Token × List Char) :=
  match s with
  | '!' :: cs =>
    let name := cs.takeWhile isNameChar
    let (handle, r) := match cs.drop name.length with
      | '!' :: r => (some ("!" ++ String.ofList name ++ "!"), r)
      | r => (if name.isEmpty then some "!" else none, r)
    do
      let handle ← handle
      let r' := r.dropWhile isBlank
      let expansion := r'.takeWhile (isTagChar true)
      let r'' := r'.drop expansion.length
      if r'.length == r.length || expansion.isEmpty || !spaceAhead r'' then none
      else return (.tagHandle handle (← tagOctets? 0 expansion), r'')
  | _ => none

/-- A directive behind its percent sign, and the rest of its line. -/
def directive? (s : List Char) : Option (Token × List Char) :=
  let name := s.takeWhile isNameChar
  let r := s.drop name.length
  if !r.head?.any isBlank then none
  else
    let body := r.dropWhile isBlank
    match String.ofList name with
    | "YAML" => (version? body).map fun (ok, r) => (.version ok, r)
    | "TAG" => tagHandle? body
    | _ => none

/-- The rest of a line that only blanks and a comment may stand on. -/
def lineEnd? (s : List Char) : Option (List Char) :=
  let r := s.dropWhile isBlank
  let r := if r.head? == some '#' then r.dropWhile fun c => !isBreak c else r
  if r.head?.all isBreak then some r else none

/-- Outside of all blocks, where no key can start before the next line. -/
def between (l : Lexing) : Option Lexing := do
  let l ← (l.closeBlocks none).dropCandidate
  return { l with keyAllowed := false }

/-- A directive. -/
def readDirective (l : Lexing) : Option Lexing := do
  let l ← l.between
  let s := l.spot.skip 1
  let (t, r) ← directive? s.rest
  let r ← lineEnd? r
  let s := (s.skip (s.rest.length - r.length)).newline.2
  return { l with spot := s }.emit t

/-- A mark of a document. -/
def readDocumentMark (l : Lexing) (t : Token) : Option Lexing := do
  let l ← l.between
  return { l with spot := l.spot.skip 3 }.emit t

/-- An opening bracket or brace. -/
def openFlow (l : Lexing) (t : Token) : Option Lexing := do
  let l ← l.addCandidate
  return { l with
    candidates := none :: l.candidates, flow := l.flow + 1, keyAllowed := true
    spot := l.spot.skip 1 }.emit t

/-- A closing bracket or brace. -/
def closeFlow (l : Lexing) (t : Token) : Option Lexing := do
  let l ← l.dropCandidate
  let l := if l.inFlow then { l with candidates := l.candidates.drop 1, flow := l.flow - 1 } else l
  return { l with keyAllowed := false, spot := l.spot.skip 1 }.emit t

/-- A comma in brackets or braces. -/
def readFlowEntry (l : Lexing) : Option Lexing := do
  let l ← l.dropCandidate
  return { l with keyAllowed := true, spot := l.spot.skip 1 }.emit .flowEntry

/-- The hyphen of an entry. -/
def readBlockEntry (l : Lexing) : Option Lexing := do
  if !l.inFlow && !l.keyAllowed then none
  let l := l.openBlock l.column l.tokens.length .blockSequenceStart
  let l ← l.dropCandidate
  return { l with keyAllowed := true, spot := l.spot.skip 1 }.emit .blockEntry

/-- The mark of a key. -/
def readKey (l : Lexing) : Option Lexing := do
  if !l.inFlow && !l.keyAllowed then none
  let l := l.openBlock l.column l.tokens.length .blockMappingStart
  let l ← l.dropCandidate
  return { l with keyAllowed := !l.inFlow, spot := l.spot.skip 1 }.emit .key

/-- The colon of a value. -/
def readValue (l : Lexing) : Option Lexing :=
  let finish (l : Lexing) : Lexing := { l with spot := l.spot.skip 1 }.emit .value
  match l.candidates with
  | some c :: cs =>
    let l := { l with candidates := none :: cs, keyAllowed := false }
    some (finish ((l.emitAt c.position .key).openBlock c.column c.position .blockMappingStart))
  | _ =>
    if !l.inFlow && !l.keyAllowed then none
    else
      let l := l.openBlock l.column l.tokens.length .blockMappingStart
      some (finish { l with keyAllowed := !l.inFlow })

/-- The name behind an ampersand or an asterisk. -/
def readName (l : Lexing) (t : String → Token) : Option Lexing := do
  let l ← l.addCandidate
  let (name, l) ← name? { l with keyAllowed := false }
  return l.emit (t name)

/-- A tag. -/
def readTag (l : Lexing) : Option Lexing := do
  let l ← l.addCandidate
  let s := l.spot.skip 1
  let (t, n) ← tag? s.rest
  let s := s.skip n
  if spaceAhead s.rest || (l.inFlow && s.rest.head? == some ',') then
    return { l with keyAllowed := false, spot := s }.emit t
  else none

/-- A block scalar. -/
def readBlockScalar (l : Lexing) (style : ScalarStyle) : Option Lexing := do
  let l ← l.dropCandidate
  let (text, s) ← blockScalar (style == .folded) l.indent (l.spot.skip 1)
  return { l with keyAllowed := true, spot := s }.emit (.scalar style (String.ofList text))

/-- A quoted scalar. -/
def readQuoted (l : Lexing) (double : Bool) : Option Lexing := do
  let l ← l.addCandidate
  let s := l.spot.skip 1
  let (text, s) ← quotedFrom double (2 * s.rest.length + 1) [] {} s
  return { l with keyAllowed := false, spot := s }.emit (.scalar .quoted (String.ofList text))

/-- A plain scalar. -/
def readPlain (l : Lexing) : Option Lexing := do
  let l ← l.addCandidate
  let indent := (l.indent.map (· + 1)).getD 0
  let (text, broken, s) ← plainFrom l.inFlow indent (l.spot.rest.length + 1) [] {} l.spot
  return { l with keyAllowed := broken, spot := s }.emit (.scalar .plain (String.ofList text))

/-- Whether a plain scalar may start. -/
def startsPlain (flow : Bool) : List Char → Bool
  | [] => false
  | c :: cs =>
    let special := "-?:,[]\x7b\x7d#&*!|>'\"%@".toList ++ [Char.ofNat 0x60]
    !(isSpace c || special.contains c) || (c == '-' && !cs.head?.any isBlank) ||
      (!flow && (c == '?' || c == ':') && !spaceAhead cs)

/-- The next token, which starts with a given character. -/
def readToken (l : Lexing) (c : Char) (cs : List Char) : Option Lexing :=
  match l.spot.documentMark with
  | some t => l.readDocumentMark t
  | none =>
    let gapAhead := spaceAhead cs
    if c == '%' && l.column == 0 then l.readDirective
    else if c == '[' then l.openFlow .flowSequenceStart
    else if c == '\x7b' then l.openFlow .flowMappingStart
    else if c == ']' then l.closeFlow .flowSequenceEnd
    else if c == '\x7d' then l.closeFlow .flowMappingEnd
    else if c == ',' then l.readFlowEntry
    else if c == '-' && gapAhead then l.readBlockEntry
    else if c == '?' && (l.inFlow || gapAhead) then l.readKey
    else if c == ':' && (l.inFlow || gapAhead) then l.readValue
    else if c == '*' then l.readName .alias
    else if c == '&' then l.readName .anchor
    else if c == '!' then l.readTag
    else if c == '|' && !l.inFlow then l.readBlockScalar .literal
    else if c == '>' && !l.inFlow then l.readBlockScalar .folded
    else if c == '\'' then l.readQuoted false
    else if c == '"' then l.readQuoted true
    else if startsPlain l.inFlow (c :: cs) then l.readPlain
    else none

/-- Reads to the end. Every token takes at least one character, so the number of characters is fuel
enough. -/
def finish : Nat → Lexing → Option (List Token)
  | 0, _ => none
  | fuel + 1, l => do
    let l := skipGaps (l.spot.rest.length + 1) l
    let l ← l.dropStale
    match l.spot.rest with
    | [] =>
      let l ← (l.closeBlocks none).dropCandidate
      return l.tokens
    | c :: cs =>
      let l := l.closeBlocks (some l.column)
      finish fuel (← l.readToken c cs)

end Lexing

/-- The tokens of a text. -/
def Token.ofText? (text : List Char) : Option (List Token) :=
  if text.all isAllowed then Lexing.finish (text.length + 1) { spot := { rest := text } }
  else none

end Yaml

end Multilint
