import Multilint.Shell.Script
/-!
# Tokens of scripts

What a script is cut into: words, operators, redirections and the ends of lines. Some words are reserved where
a command may start, and only there. A script that cannot be cut or put together has a fault, and the line on
which that shows.
-/

namespace Multilint

namespace Shell

/-- A token. -/
inductive Token where
  /-- A word. -/
  | word (w : Word)
  /-- An operator. -/
  | operator (s : String)
  /-- The start of a redirection; the flag is for a text from which tabs at the starts of lines are taken. -/
  | redirection (descriptor : Nat) (direction : Direction) (strip : Bool)
  /-- The end of a line. -/
  | newline
  /-- The end of the script. -/
  | finish
  deriving Inhabited

/-- Why a script cannot be read. -/
inductive Misreading where
  /-- A quoted text is not closed. -/
  | openQuote
  /-- A brace behind a dollar sign is not closed. -/
  | openBrace
  /-- An expression is not closed. -/
  | openExpression
  /-- A script in backquotes is not closed. -/
  | openBackquote
  /-- A redirection copies something that is no descriptor. -/
  | badDescriptor
  /-- A loop has no variable. -/
  | badVariable
  /-- A function cannot have this name. -/
  | badFunction
  /-- Something stands where it cannot stand; perhaps only one thing could. -/
  | unexpected (what : String) (expected : Option String)
  deriving DecidableEq, Repr

/-- The wording of a fault. -/
def Misreading.message : Misreading → String
  | .openQuote => "Unterminated quoted string"
  | .openBrace => "Missing '\x7d'"
  | .openExpression => "Missing '))'"
  | .openBackquote => "EOF in backquote substitution"
  | .badDescriptor => "Bad fd number"
  | .badVariable => "Bad for loop variable"
  | .badFunction => "Bad function name"
  | .unexpected what none => what ++ " unexpected"
  | .unexpected what (some e) => what ++ " unexpected (expecting " ++ e ++ ")"

/-- A fault of a script, and the line on which it shows. -/
structure ScriptFault where
  /-- The line. -/
  line : Nat
  /-- The fault. -/
  cause : Misreading
  deriving DecidableEq, Repr

/-- The wording of a fault. -/
def ScriptFault.message (f : ScriptFault) : String :=
  "Syntax error: " ++ f.cause.message

/-- The text of a word that is nothing but a text outside of quotes. -/
def Word.plain? : Word → Option String
  | [.text s] => some s
  | _ => none

/-- The words that are reserved where a command may start. -/
def reservedWords : List String :=
  ["!", "case", "do", "done", "elif", "else", "esac", "fi", "for", "if", "in", "then", "until", "while",
    "\x7b", "\x7d"]

/-- The commands of the shell that no function can be called like. A fault of one of them ends the shell. -/
def specialCommands : List String :=
  [".", ":", "break", "continue", "eval", "exec", "exit", "export", "local", "readonly", "return", "set",
    "shift", "times", "trap", "unset"]

namespace Token

/-- The text of a token that is a plain word. -/
def plain? : Token → Option String
  | .word w => Word.plain? w
  | _ => none

/-- The reserved word that a token is where a command may start. -/
def reserved? (t : Token) : Option String :=
  t.plain?.filter reservedWords.contains

/-- Whether a token is a given reserved word. -/
def isReserved (word : String) (t : Token) : Bool :=
  t.reserved? = some word

/-- Whether a token is a given operator. -/
def isOperator (op : String) : Token → Bool
  | .operator s => s = op
  | _ => false

/-- Whether a list may end before a token. -/
def endsList : Token → Bool
  | .finish => true
  | .operator s => s = ")" || s = ";;"
  | t => t.reserved?.any ["do", "done", "elif", "else", "esac", "fi", "then", "\x7d"].contains

/-- A text in the quotes of messages. -/
def inQuotes (s : String) : String :=
  "\"" ++ s ++ "\""

/-- A token as a fault names it; the flag says whether reserved words are told from others. -/
def shown (reserved : Bool) (t : Token) : String :=
  match t with
  | .word _ => if reserved then (t.reserved?.map inQuotes).getD "word" else "word"
  | .operator s => inQuotes s
  | .redirection .. => "redirection"
  | .newline => "newline"
  | .finish => "end of file"

end Token

/-! ## Characters -/

/-- The character of scripts inside words in the old style. -/
def backquote : Char := Char.ofNat 0x60

/-- A character that ends a word. -/
def isBreak (c : Char) : Bool :=
  [' ', '\t', '\n', ';', '&', '|', '<', '>', '(', ')'].contains c

/-- A character that stands for itself everywhere. -/
def isOrdinary (c : Char) : Bool :=
  !isBreak c && !(['"', '\'', '\\', '$', backquote, '\x7b', '\x7d'].contains c)

/-- A parameter that is one character. -/
def isSpecial (c : Char) : Bool :=
  c.isDigit || ['*', '@', '#', '?', '-', '$', '!'].contains c

/-- What is done with the value of a parameter behind whose name a text stands. -/
def change? : List Char → Option (Change × List Char)
  | ':' :: '-' :: r => some (.orElse true, r)
  | '-' :: r => some (.orElse false, r)
  | ':' :: '=' :: r => some (.assign true, r)
  | '=' :: r => some (.assign false, r)
  | ':' :: '+' :: r => some (.andThen true, r)
  | '+' :: r => some (.andThen false, r)
  | ':' :: '?' :: r => some (.demand true, r)
  | '?' :: r => some (.demand false, r)
  | '%' :: '%' :: r => some (.cutEnd true, r)
  | '%' :: r => some (.cutEnd false, r)
  | '#' :: '#' :: r => some (.cutStart true, r)
  | '#' :: r => some (.cutStart false, r)
  | _ => none

/-- Whether a change means a pattern by its word. -/
def Change.isCut : Change → Bool
  | .cutEnd _ | .cutStart _ => true
  | _ => false

/-- What stands in braces behind a dollar sign. -/
inductive Braced where
  /-- The length of a parameter's value. -/
  | length (name : String)
  /-- A parameter. -/
  | parameter (name : String)
  /-- A parameter whose value is changed by means of the word that follows. -/
  | changed (name : String) (how : Change)
  /-- No parameter. -/
  | bad

namespace Braced

/-- What stands behind the name of a parameter. -/
def behind (name rest : List Char) : Braced × List Char :=
  match rest with
  | '\x7d' :: r => (.parameter (String.ofList name), r)
  | rest =>
    match change? rest with
    | some (how, r) => (.changed (String.ofList name) how, r)
    | none => (.bad, rest.drop (if rest.head? = some ':' then 2 else 1))

/-- The length of the parameter of a name. -/
def lengthOf (name rest : List Char) : Braced × List Char :=
  match rest with
  | '\x7d' :: r => (.length (String.ofList name), r)
  | rest => (.bad, rest)

/-- Reads what stands behind an opening brace. A number sign asks for a length where a parameter and the
closing brace follow, and is a parameter itself elsewhere. -/
def ofText : List Char → Braced × List Char
  | '#' :: cs =>
    let name := cs.takeWhile isNameChar
    let number := cs.takeWhile Char.isDigit
    if !number.isEmpty then lengthOf number (cs.drop number.length)
    else if !name.isEmpty then lengthOf name (cs.drop name.length)
    else
      match cs with
      | d :: '\x7d' :: r =>
        if d = '\x7d' then (.parameter "#", '\x7d' :: r)
        else if isSpecial d then (.length d.toString, r)
        else (.bad, '\x7d' :: r)
      | _ => behind ['#'] cs
  | c :: cs =>
    if c.isDigit then
      let number := (c :: cs).takeWhile Char.isDigit
      behind number ((c :: cs).drop number.length)
    else if isNameChar c then
      let name := (c :: cs).takeWhile isNameChar
      behind name ((c :: cs).drop name.length)
    else if isSpecial c then behind [c] cs
    else if c = '\x7d' then (.bad, c :: cs)
    else (.bad, cs)
  | [] => (.bad, [])

end Braced

/-- The script in backquotes, without the backslashes that keep characters from their meaning, and the text
behind it; the flag says whether the backquotes stand in quotes. -/
def untilBackquote (quoted : Bool) : List Char → Option (List Char × List Char)
  | [] => none
  | '\\' :: '\n' :: cs => untilBackquote quoted cs
  | '\\' :: c :: cs =>
    (untilBackquote quoted cs).map fun (a, r) =>
      (if ['\\', backquote, '$'].contains c || (quoted && c = '"') then c :: a else '\\' :: c :: a, r)
  | c :: cs =>
    if c = backquote then some ([], cs)
    else (untilBackquote quoted cs).map fun (a, r) => (c :: a, r)

/-- The operator at the start of a text. -/
def operator? : List Char → Option (String × List Char)
  | '&' :: '&' :: r => some ("&&", r)
  | '|' :: '|' :: r => some ("||", r)
  | ';' :: ';' :: r => some (";;", r)
  | c :: r => if [';', '&', '|', '(', ')'].contains c then some (c.toString, r) else none
  | [] => none

/-- What the text behind a redirected descriptor starts: the usual descriptor, what is done, and whether tabs
are taken away. -/
def redirection? : List Char → Option (Nat × Direction × Bool × List Char)
  | '>' :: '>' :: r => some (1, .append, false, r)
  | '>' :: '|' :: r => some (1, .overwrite, false, r)
  | '>' :: '&' :: r => some (1, .copy, false, r)
  | '>' :: r => some (1, .output, false, r)
  | '<' :: '<' :: '-' :: r => some (0, .text, true, r)
  | '<' :: '<' :: r => some (0, .text, false, r)
  | '<' :: '&' :: r => some (0, .copy, false, r)
  | '<' :: '>' :: r => some (0, .inOut, false, r)
  | '<' :: r => some (0, .input, false, r)
  | _ => none

/-- The text behind the line that ends a text inside a script, if the first line is that one. -/
def behindMark? (mark : List Char) (strip : Bool) (cs : List Char) : Option (List Char) :=
  let cs := if strip then cs.dropWhile (· = '\t') else cs
  let line := cs.takeWhile (· ≠ '\n')
  if line = mark then some ((cs.drop line.length).drop 1) else none

/-- The lines of a text inside a script up to its mark, and what follows, of at most so many lines. -/
def linesUntil (mark : List Char) (strip : Bool) : Nat → List Char → List Char × List Char
  | 0, cs => ([], cs)
  | _, [] => ([], [])
  | n + 1, cs =>
    match behindMark? mark strip cs with
    | some rest => ([], rest)
    | none =>
      let cs := if strip then cs.dropWhile (· = '\t') else cs
      let line := cs.takeWhile (· ≠ '\n')
      let ending := (cs.drop line.length).take 1
      let (more, rest) := linesUntil mark strip n (cs.drop (line.length + 1))
      (line ++ ending ++ more, rest)

end Shell

end Multilint
