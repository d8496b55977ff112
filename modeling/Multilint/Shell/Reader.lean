import Multilint.Shell.Token
/-!
# Reading scripts

A script is read one command line at a time, from its characters to words, tokens and commands. Scripts inside
words are read on the way, so the end of one is found by its grammar. The text of a redirection stands behind
the line of its command; it is taken out of the script as soon as its mark has been read.
-/

namespace Multilint

namespace Shell

/-- What is left of a script. -/
structure Source where
  /-- The characters. -/
  rest : List Char
  /-- The line they start on. -/
  line : Nat := 1
  /-- The lines of texts that were taken out behind the current one. -/
  skipped : Nat := 0
  /-- A token that has been read and comes again. -/
  held : Option Token := none
  /-- Texts that stand for a word where a command starts. -/
  aliases : List (String × String) := []
  /-- The aliases whose texts are being read, with the number of characters behind them. -/
  current : List (String × Nat) := []

/-- A step of reading. -/
abbrev Reading := StateT Source (Except ScriptFault)

namespace Reading

/-- A fault at the current line. -/
def fault {α : Type} (cause : Misreading) : Reading α := do
  throw ⟨(← get).line, cause⟩

/-- A fault about a token that stands where it cannot stand. -/
def unexpected {α : Type} (t : Token) (expected : Option String) : Reading α :=
  fault (.unexpected (t.shown true) expected)

/-- Goes on with characters, so many lines further. -/
def continueAt (rest : List Char) (lines : Nat) : Reading Unit :=
  modify fun s => { s with rest, line := s.line + lines }

/-- Goes over a number of characters. -/
def skip (n : Nat) : Reading Unit := do
  let s ← get
  continueAt (s.rest.drop n) ((s.rest.take n).count '\n')

/-- Lets a token come again. -/
def hold (t : Token) : Reading Unit :=
  modify fun s => { s with held := some t }

/-- The text of an alias for a token that is not being read already. -/
def alias? (t : Token) : Reading (Option (String × String)) := do
  let s ← get
  if s.aliases.isEmpty then return none
  match t.plain? with
  | none => return none
  | some name =>
    let left := s.rest.length
    let inUse := s.current.any fun a => a.1 = name && left ≥ a.2
    return if inUse then none else (s.aliases.lookup name).map (name, ·)

end Reading

/-- Where a piece of a word stands. -/
inductive Place where
  /-- Outside of quotes, up to a character that ends the word. -/
  | bare
  /-- In double quotes, up to the closing one. -/
  | quotes
  /-- In braces, up to the closing one; the flag says whether they stand in quotes. -/
  | brace (quoted : Bool)
  /-- In an expression, inside of so many parentheses. -/
  | expression (depth : Nat)
  /-- In a text behind a line, up to a line that is its mark. -/
  | text (mark : List Char) (strip : Bool)
  /-- In the mark of a text, where a dollar sign is a character. -/
  | mark

namespace Place

/-- Whether pieces at a place count as quoted. -/
def quoted : Place → Bool
  | .bare | .mark => false
  | .brace q => q
  | .quotes | .expression _ | .text .. => true

/-- The fault of a script that ends at a place, if that is one. -/
def openAtEnd? : Place → Option Misreading
  | .bare | .mark | .text .. => none
  | .quotes | .brace true => some .openQuote
  | .brace false => some .openBrace
  | .expression _ => some .openExpression

/-- Whether a backslash keeps a character from its meaning at a place; elsewhere it is a character. -/
def escapes (here : Place) (c : Char) : Bool :=
  match here with
  | .bare | .mark | .brace false => true
  | .brace true => ['$', backquote, '\\', '"', '\x7d'].contains c
  | .quotes | .expression _ => ['$', backquote, '\\', '"'].contains c
  | .text .. => ['$', backquote, '\\'].contains c

end Place

/-- A text in front of pieces. -/
def consText (cs : List Char) : Word → Word
  | .text s :: rest => .text (String.ofList (cs ++ s.toList)) :: rest
  | rest => .text (String.ofList cs) :: rest

/-- A character that a backslash keeps from its meaning, in front of pieces. -/
def consEscaped (here : Place) (c : Char) (w : Word) : Word :=
  if here.quoted then consText [c] w else .quoted [.text c.toString] :: w

/-- The assignment that a word is in front of a command. -/
def assignment? : Word → Option (String × Word)
  | .text s :: rest =>
    let name := s.toList.takeWhile (· ≠ '=')
    match s.toList.drop name.length with
    | '=' :: value =>
      if isName name then
        some (String.ofList name, if value.isEmpty then rest else .text (String.ofList value) :: rest)
      else none
    | _ => none
  | _ => none

/-- The parts of a simple command, the last ones first. -/
structure Parts where
  /-- The assignments. -/
  assignments : List (String × Word) := []
  /-- The words. -/
  words : List Word := []
  /-- The redirections. -/
  redirections : List Redirection := []

/-- How a list ends. -/
inductive Extent where
  /-- At the end of a line. -/
  | line
  /-- Before something that cannot go on; it must not be empty. -/
  | filled
  /-- Before something that cannot go on. -/
  | any
  deriving DecidableEq

namespace Reading

mutual

/-- Reads the pieces of a word at a place, of at most so many nested parts. -/
def pieces : Nat → Place → Reading Word
  | 0, _ => fault .openQuote
  | n + 1, here => do
    let cs := (← get).rest
    let run := cs.takeWhile isOrdinary
    if !run.isEmpty then
      skip run.length
      return consText run (← pieces n here)
    match cs with
    | [] =>
      match here.openAtEnd? with
      | some cause => fault cause
      | none => return []
    | '\\' :: '\n' :: _ =>
      skip 2
      pieces n here
    | ['\\'] =>
      skip 1
      return consEscaped here '\\' (← pieces n here)
    | '\\' :: c :: _ =>
      skip 2
      let more ← pieces n here
      return if here.escapes c then consEscaped here c more else consText ['\\', c] more
    | '$' :: _ =>
      match here with
      | .mark =>
        skip 1
        return consText ['$'] (← pieces n here)
      | _ =>
        skip 1
        dollar n here
    | c :: _ => special n here c

/-- Reads on at a character that may end a word or mean something at a place. -/
def special : Nat → Place → Char → Reading Word
  | 0, _, _ => fault .openQuote
  | n + 1, here, c => do
    let asText (next : Place) : Reading Word := do
      skip 1
      return consText [c] (← pieces n next)
    match here, c with
    | .quotes, '"' | .brace _, '\x7d' =>
      skip 1
      return []
    | .bare, '"' | .mark, '"' | .brace false, '"' =>
      skip 1
      let inner ← pieces n .quotes
      return .quoted inner :: (← pieces n here)
    | .brace true, '"' =>
      skip 1
      let inner ← pieces n .quotes
      return inner ++ (← pieces n here)
    | .bare, '\'' | .mark, '\'' | .brace false, '\'' =>
      skip 1
      let inner := (← get).rest.takeWhile (· ≠ '\'')
      skip inner.length
      if (← get).rest.isEmpty then fault .openQuote
      skip 1
      return .quoted (if inner.isEmpty then [] else [.text (String.ofList inner)]) :: (← pieces n here)
    | .expression d, '(' => asText (.expression (d + 1))
    | .expression 0, ')' =>
      match (← get).rest with
      | ')' :: ')' :: _ =>
        skip 2
        return []
      | _ => asText here
    | .expression (d + 1), ')' => asText (.expression d)
    | .text mark strip, '\n' =>
      skip 1
      return consText ['\n'] (← textLines n mark strip)
    | here, c =>
      if !here.quoted && isBreak c && (here matches .bare | .mark) then return []
      else if c = backquote && !(here matches .mark) then
        match untilBackquote here.quoted ((← get).rest.drop 1) with
        | none =>
          let s ← get
          throw ⟨s.line + s.rest.count '\n', .openBackquote⟩
        | some (inner, rest) =>
          let used := (← get).rest.length - rest.length
          skip used
          match (list n .any).run { rest := inner } with
          | .ok (s, _) => return .output s :: (← pieces n here)
          | .error e => throw e
      else asText here

/-- Reads the lines of a text behind a line. -/
def textLines : Nat → List Char → Bool → Reading Word
  | 0, _, _ => return []
  | n + 1, mark, strip => do
    let cs := (← get).rest
    match behindMark? mark strip cs with
    | some rest =>
      continueAt rest 1
      return []
    | none =>
      if strip then continueAt (cs.dropWhile (· = '\t')) 0
      pieces n (.text mark strip)

/-- Reads what a dollar sign starts at a place, and the pieces behind it. -/
def dollar : Nat → Place → Reading Word
  | 0, _ => fault .openQuote
  | n + 1, here => do
    match (← get).rest with
    | '(' :: '(' :: _ =>
      skip 2
      let inner ← pieces n (.expression 0)
      return .number inner :: (← pieces n here)
    | '(' :: _ =>
      skip 1
      let s ← list n .any
      expectOperator n ")"
      return .output s :: (← pieces n here)
    | '\x7b' :: cs =>
      let (found, rest) := Braced.ofText cs
      continueAt rest 0
      let piece : Piece ← match found with
        | .length name => pure (.length name)
        | .parameter name => pure (.parameter name none)
        | .changed name how => do
          let w ← pieces n (.brace (here.quoted && !how.isCut))
          pure (.parameter name (some (how, w)))
        | .bad => do
          let _ ← pieces n (.brace here.quoted)
          pure .bad
      return piece :: (← pieces n here)
    | c :: cs =>
      if isSpecial c then
        skip 1
        return .parameter c.toString none :: (← pieces n here)
      else if isNameChar c then
        let name := (c :: cs).takeWhile isNameChar
        skip name.length
        return .parameter (String.ofList name) none :: (← pieces n here)
      else return consText ['$'] (← pieces n here)
    | [] => return consText ['$'] (← pieces n here)

/-- Reads a token whose words stand at a place. -/
def token : Nat → Place → Reading Token
  | 0, _ => return .finish
  | n + 1, here => do
    skip ((← get).rest.takeWhile fun c => c = ' ' || c = '\t').length
    let cs := (← get).rest
    match cs with
    | [] => return .finish
    | '\n' :: _ =>
      skip 1
      modify fun s => { s with line := s.line + s.skipped, skipped := 0 }
      return .newline
    | '#' :: _ =>
      skip (cs.takeWhile (· ≠ '\n')).length
      token n here
    | '\\' :: '\n' :: _ =>
      skip 2
      token n here
    | c :: rest =>
      match operator? cs with
      | some (op, rest) =>
        continueAt rest 0
        return .operator op
      | none =>
        match redirection? cs, (if c.isDigit then redirection? rest else none) with
        | some (d, how, strip, rest), _ =>
          continueAt rest 0
          return .redirection d how strip
        | none, some (_, how, strip, rest) =>
          continueAt rest 0
          return .redirection (c.toNat - '0'.toNat) how strip
        | none, none => return .word (← pieces n here)

/-- The next token. Where a command may start, an alias gives way to its text. -/
def next : Nat → Bool → Reading Token
  | 0, _ => return .finish
  | n + 1, start => do
    let t ← match (← get).held with
      | some t => do
        modify fun s => { s with held := none }
        pure t
      | none => token n .bare
    if !start then return t
    match ← alias? t with
    | none => return t
    | some (name, text) =>
      modify fun s =>
        { s with
          current := (name, s.rest.length) :: s.current.filter fun a => s.rest.length ≥ a.2
          rest := text.toList ++ s.rest }
      next n start

/-- The next token behind ends of lines. -/
def nextBehindLines : Nat → Bool → Reading Token
  | 0, _ => return .finish
  | n + 1, start => do
    match ← next n start with
    | .newline => nextBehindLines n start
    | t => return t

/-- Reads an operator. -/
def expectOperator : Nat → String → Reading Unit
  | 0, _ => return
  | n + 1, op => do
    let t ← next n false
    if !t.isOperator op then unexpected t (some (Token.inQuotes op))

/-- Reads a reserved word. -/
def expectReserved : Nat → String → Reading Unit
  | 0, _ => return
  | n + 1, word => do
    let t ← next n false
    if !t.isReserved word then unexpected t (some (Token.inQuotes word))

/-- Goes to the start of the next line. -/
def untilLine : Nat → Reading Unit
  | 0 => return
  | n + 1 => do
    match ← token n .bare with
    | .newline | .finish => return
    | _ => untilLine n

/-- Takes the text with a mark out of the script: it starts behind the current line. -/
def takeText : Nat → Word → Bool → Reading Word
  | 0, _, _ => return []
  | n + 1, mark, strip => do
    let s ← get
    let ending := (mark.map fun
      | .text t => t
      | .quoted [.text t] => t
      | _ => "").foldr (· ++ ·) ""
    match (untilLine n).run { s with held := none } with
    | .error _ => return []
    | .ok (_, below) =>
      let before := s.rest.take (s.rest.length - below.rest.length)
      if (Word.plain? mark).isSome then
        match (textLines n ending.toList strip).run below with
        | .error e => throw e
        | .ok (w, behind) =>
          set { s with
            rest := before ++ behind.rest
            skipped := s.skipped + (behind.line - below.line) }
          return w
      else
        let (w, behind) := linesUntil ending.toList strip (below.rest.length + 1) below.rest
        set { s with
          rest := before ++ behind
          skipped := s.skipped + (below.rest.count '\n' - behind.count '\n') }
        return if w.isEmpty then [] else [.text (String.ofList w)]

/-- Reads the target of a redirection. -/
def redirection : Nat → Nat → Direction → Bool → Reading Redirection
  | 0, d, how, _ => return ⟨d, how, []⟩
  | n + 1, d, how, strip => do
    let t ← token n (if how = .text then .mark else .bare)
    match t with
    | .word w =>
      if how = .text then return ⟨d, how, [.quoted (← takeText n w strip)]⟩
      return ⟨d, how, w⟩
    | t => fault (.unexpected (t.shown false) none)

/-- Reads the redirections behind a compound command. -/
def redirections : Nat → Reading (List Redirection)
  | 0 => return []
  | n + 1 => do
    match ← next n true with
    | .redirection d how strip =>
      let r ← redirection n d how strip
      return r :: (← redirections n)
    | t =>
      hold t
      return []

/-- Reads a list. -/
def list : Nat → Extent → Reading Script
  | 0, _ => fault .openQuote
  | n + 1, extent => do
    let t ← if extent = .line then next n true else nextBehindLines n true
    match t with
    | .newline => return .nothing
    | t =>
      hold t
      if t matches .finish then return .nothing
      if extent = .any && t.endsList then return .nothing
      let a ← joined n
      let after := if extent = .line then extent else .any
      match ← next n false with
      | .operator "&" => return .inOrder (.background a) (← list n after)
      | .operator ";" => return .inOrder a (← list n after)
      | .newline => if extent = .line then return a else return .inOrder a (← list n after)
      | t =>
        if extent = .line && !(t matches .finish) then unexpected t none
        hold t
        return a

/-- Reads pipelines joined by `&&` and `||`. -/
def joined : Nat → Reading Script
  | 0 => fault .openQuote
  | n + 1 => do joinedTo n (← pipeline n false)

/-- Reads the pipelines that follow one. -/
def joinedTo : Nat → Script → Reading Script
  | 0, s => return s
  | n + 1, s => do
    match ← next n false with
    | .operator "&&" => joinedTo n (.both s (← pipeline n true))
    | .operator "||" => joinedTo n (.either s (← pipeline n true))
    | t =>
      hold t
      return s

/-- Reads commands joined by `|`, perhaps negated; the flag says whether lines may end before them. -/
def pipeline : Nat → Bool → Reading Script
  | 0, _ => fault .openQuote
  | n + 1, lines => do
    let t ← if lines then nextBehindLines n true else next n true
    if t.isReserved "!" then return .negated (← stages n)
    hold t
    stages n

/-- Reads commands joined by `|`. -/
def stages : Nat → Reading Script
  | 0 => fault .openQuote
  | n + 1 => do
    let a ← command n false
    let more ← furtherStages n
    return if more.isEmpty then a else .pipeline (a :: more)

/-- Reads the stages that follow one. -/
def furtherStages : Nat → Reading (List Script)
  | 0 => return []
  | n + 1 => do
    match ← next n false with
    | .operator "|" =>
      let a ← command n true
      return a :: (← furtherStages n)
    | t =>
      hold t
      return []

/-- Reads a command. -/
def command : Nat → Bool → Reading Script
  | 0, _ => fault .openQuote
  | n + 1, lines => do
    let line := (← get).line
    let t ← if lines then nextBehindLines n true else next n true
    let redirected (s : Script) : Reading Script := do
      let rs ← redirections n
      return if rs.isEmpty then s else .redirected line s rs
    match t with
    | .operator "(" =>
      let s ← list n .filled
      expectOperator n ")"
      return .subshell line s (← redirections n)
    | .word _ =>
      match t.reserved? with
      | none =>
        hold t
        simple n (← get).line {}
      | some "\x7b" =>
        let s ← list n .filled
        expectReserved n "\x7d"
        redirected s
      | some "if" =>
        let s ← choice n
        redirected s
      | some "while" => redirected (← loop n false)
      | some "until" => redirected (← loop n true)
      | some "for" => redirected (← eachLoop n line)
      | some "case" => redirected (← selection n line)
      | some _ => unexpected t none
    | .redirection .. =>
      hold t
      simple n (← get).line {}
    | t => unexpected t none

/-- Reads a choice behind its first word. -/
def choice : Nat → Reading Script
  | 0 => fault .openQuote
  | n + 1 => do
    let condition ← list n .filled
    expectReserved n "then"
    let yes ← list n .filled
    let t ← next n false
    if t.isReserved "elif" then return .choice condition yes (← choice n)
    if t.isReserved "else" then
      let no ← list n .filled
      expectReserved n "fi"
      return .choice condition yes no
    if !t.isReserved "fi" then unexpected t (some (Token.inQuotes "fi"))
    return .choice condition yes .nothing

/-- Reads a loop behind its first word. -/
def loop : Nat → Bool → Reading Script
  | 0, _ => fault .openQuote
  | n + 1, reversed => do
    let condition ← list n .filled
    expectReserved n "do"
    let body ← list n .filled
    expectReserved n "done"
    return .loop reversed condition body

/-- Reads a loop over words behind its first word. -/
def eachLoop : Nat → Nat → Reading Script
  | 0, _ => fault .openQuote
  | n + 1, line => do
    let t ← next n false
    let name ← match t.plain? with
      | some name => if isName name.toList then pure name else fault .badVariable
      | none => fault .badVariable
    let t ← nextBehindLines n false
    let words ← if t.isReserved "in" then some <$> words n else do
      if !t.isOperator ";" then hold t
      pure none
    let t ← nextBehindLines n false
    if !t.isReserved "do" then unexpected t (some (Token.inQuotes "do"))
    let body ← list n .filled
    expectReserved n "done"
    return .each line name words body

/-- Reads words up to the end of a line or a semicolon. -/
def words : Nat → Reading (List Word)
  | 0 => return []
  | n + 1 => do
    match ← next n false with
    | .word w => return w :: (← words n)
    | .newline | .operator ";" => return []
    | t => unexpected t none

/-- Reads a selection behind its first word. -/
def selection : Nat → Nat → Reading Script
  | 0, _ => fault .openQuote
  | n + 1, line => do
    match ← next n false with
    | .word w =>
      let t ← nextBehindLines n false
      if !t.isReserved "in" then unexpected t (some (Token.inQuotes "in"))
      return .select line w (← arms n)
    | t => fault (.unexpected (t.shown false) (some "word"))

/-- Reads the arms of a selection. -/
def arms : Nat → Reading (List (List Word × Script))
  | 0 => fault .openQuote
  | n + 1 => do
    let t ← nextBehindLines n false
    if t.isReserved "esac" then return []
    let t ← if t.isOperator "(" then next n false else pure t
    let ps ← patterns n t
    let body ← list n .any
    let t ← nextBehindLines n false
    if t.isReserved "esac" then return [(ps, body)]
    if !t.isOperator ";;" then unexpected t (some (Token.inQuotes ";;"))
    return (ps, body) :: (← arms n)

/-- Reads the patterns of an arm, of which the first is a given token. -/
def patterns : Nat → Token → Reading (List Word)
  | 0, _ => return []
  | n + 1, t => do
    let w : Word := match t with
      | .word w => w
      | _ => []
    let t ← next n false
    if t.isOperator "|" then return w :: (← patterns n (← next n false))
    if !t.isOperator ")" then fault (.unexpected (t.shown false) (some (Token.inQuotes ")")))
    return [w]

/-- Reads the rest of a simple command, or the definition of a function. -/
def simple : Nat → Nat → Parts → Reading Script
  | 0, _, _ => fault .openQuote
  | n + 1, line, p => do
    let t ← next n p.words.isEmpty
    let finished : Reading Script := do
      hold t
      return .simple line p.assignments.reverse p.words.reverse p.redirections.reverse
    match t with
    | .word w =>
      match (if p.words.isEmpty then assignment? w else none) with
      | some a => simple n line { p with assignments := a :: p.assignments }
      | none => simple n line { p with words := w :: p.words }
    | .redirection d how strip =>
      let r ← redirection n d how strip
      simple n line { p with redirections := r :: p.redirections }
    | .operator "(" =>
      match p with
      | ⟨[], [w], []⟩ =>
        let t ← next n false
        if !t.isOperator ")" then
          fault (.unexpected (t.shown false) (some (Token.inQuotes ")")))
        match Word.plain? w with
        | some name =>
          if !isName name.toList || specialCommands.contains name then fault .badFunction
          return .define name (← command n true)
        | none => fault .badFunction
      | _ => finished
    | _ => finished

end

end Reading

/-- The number of nested parts that is enough for a text of so many characters. -/
def readingBound (characters : Nat) : Nat :=
  12 * characters + 64

/-- Reads the command line at the start of what is left; at the end there is none. -/
def Script.line? (bound : Nat) (s : Source) : Except ScriptFault (Option (Script × Source)) := do
  let (t, s) ← (Reading.next bound true).run s
  if t matches .finish then return none
  some <$> (Reading.list bound .line).run { s with held := some t }

end Shell

end Multilint
