/-!
# Scripts

What a shell carries out, as it stands in the text of a script: nothing is expanded yet. Words hold scripts,
whose output they stand for, and scripts hold words.
-/

namespace Multilint

namespace Shell

/-- What is done with the value of a parameter. The flag says whether an empty value counts as none. -/
inductive Change where
  /-- Another value where there is none. -/
  | orElse (empty : Bool)
  /-- Another value where there is none, which the parameter keeps. -/
  | assign (empty : Bool)
  /-- Another value where there is one. -/
  | andThen (empty : Bool)
  /-- A fault where there is none. -/
  | demand (empty : Bool)
  /-- Without what a pattern fits at the end: the longest such part, or the shortest. -/
  | cutEnd (longest : Bool)
  /-- Without what a pattern fits at the start. -/
  | cutStart (longest : Bool)
  deriving DecidableEq, Repr

/-- What a redirection does with its target. -/
inductive Direction where
  /-- Input comes from a file. -/
  | input
  /-- Output makes a file anew, though not where that is forbidden. -/
  | output
  /-- Output makes a file anew. -/
  | overwrite
  /-- Output goes to the end of a file. -/
  | append
  /-- Input comes from a file and output goes to it. -/
  | inOut
  /-- A descriptor leads where another one leads. -/
  | copy
  /-- Input is the target itself. -/
  | text
  deriving DecidableEq, Repr

mutual

/-- A piece of a word. -/
inductive Piece where
  /-- A text as it stands. -/
  | text (s : String)
  /-- Pieces in quotes. -/
  | quoted (pieces : List Piece)
  /-- The value of a parameter, perhaps changed by means of a word. -/
  | parameter (name : String) (change : Option (Change × List Piece))
  /-- The length of a parameter's value. -/
  | length (name : String)
  /-- What a script writes. -/
  | output (s : Script)
  /-- The value of an expression. -/
  | number (expression : List Piece)
  /-- Something in braces that is no parameter. -/
  | bad

/-- A redirection of a descriptor. -/
structure Redirection where
  /-- The descriptor. -/
  descriptor : Nat
  /-- What is done. -/
  direction : Direction
  /-- A file, another descriptor or a text. -/
  target : List Piece

/-- A script. -/
inductive Script where
  /-- Nothing. -/
  | nothing
  /-- Assignments, and a command with arguments, on a line of a given number. -/
  | simple (line : Nat) (assignments : List (String × List Piece)) (words : List (List Piece))
      (redirections : List Redirection)
  /-- Commands that read what the one before them writes. -/
  | pipeline (stages : List Script)
  /-- Success and failure change places. -/
  | negated (s : Script)
  /-- The second one if the first one succeeds. -/
  | both (a b : Script)
  /-- The second one if the first one fails. -/
  | either (a b : Script)
  /-- One after the other. -/
  | inOrder (a b : Script)
  /-- Started without waiting for its end. -/
  | background (s : Script)
  /-- With redirections. -/
  | redirected (line : Nat) (s : Script) (redirections : List Redirection)
  /-- In a shell of its own. -/
  | subshell (line : Nat) (s : Script) (redirections : List Redirection)
  /-- One of two, as a condition says. -/
  | choice (condition yes no : Script)
  /-- Again and again while a condition succeeds, or until it does. -/
  | loop (reversed : Bool) (condition body : Script)
  /-- Once for each word, or for each argument of the script. -/
  | each (line : Nat) (name : String) (words : Option (List (List Piece))) (body : Script)
  /-- The first arm of which a pattern fits a word. -/
  | select (line : Nat) (word : List Piece) (arms : List (List (List Piece) × Script))
  /-- A name for a script. -/
  | define (name : String) (body : Script)

end

/-- A word. -/
abbrev Word := List Piece

instance : Inhabited Piece := ⟨.bad⟩

instance : Inhabited Script := ⟨.nothing⟩

/-- A character of a name that is not the first one. -/
def isNameChar (c : Char) : Bool :=
  c.isAlphanum || c = '_'

/-- Whether a text is a name. -/
def isName (s : List Char) : Bool :=
  match s with
  | c :: cs => (c.isAlpha || c = '_') && cs.all isNameChar
  | [] => false

end Shell

end Multilint
