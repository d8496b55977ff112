import Multilint.Text.Basic
/-!
# Glob patterns

A pattern is a list of tokens: characters, `?`, classes in brackets, `*` and `**`. It matches a whole
text, never a part of one. A `**` between slashes stands for any number of directories.
-/

namespace Multilint

/-- A member of a bracketed class: the characters between two ends, both included. -/
structure GlobRange where
  /-- The first character. -/
  low : Char
  /-- The last character. -/
  high : Char
  deriving DecidableEq, Repr

/-- One token of a pattern. -/
inductive GlobToken where
  /-- A character, for itself. -/
  | char (c : Char)
  /-- `?`: one character. -/
  | anyChar
  /-- A class: one character of some range. -/
  | within (ranges : List GlobRange)
  /-- A class that starts with `!`: one character of none of the ranges. -/
  | outside (ranges : List GlobRange)
  /-- `*`: any characters. -/
  | anyRun
  /-- `**`: any directories, each with its slash; at the end of a text, anything. -/
  | anyDirs
  deriving DecidableEq, Repr

/-- A compiled pattern. -/
structure Glob where
  /-- The pattern as it was written. -/
  text : String
  /-- What it consists of. -/
  tokens : List GlobToken
  deriving DecidableEq, Repr

/-- What makes a pattern invalid. -/
inductive GlobFault where
  /-- Three stars or more. -/
  | tooManyStars
  /-- A `**` that shares its path component with something else. -/
  | sharedComponent
  /-- A bracket that opens no class. -/
  | badClass
  deriving DecidableEq, Repr

/-- The wording of a fault. -/
def GlobFault.message : GlobFault → String
  | .tooManyStars => "wildcards are either regular `*` or recursive `**`"
  | .sharedComponent => "recursive wildcards must form a single path component"
  | .badClass => "invalid range pattern"

/-- A fault, behind so many characters of the pattern. -/
structure GlobFailure where
  /-- What is wrong. -/
  fault : GlobFault
  /-- The number of characters before the place. -/
  position : Nat
  deriving DecidableEq, Repr

/-- The message of a failure. -/
def GlobFailure.message (e : GlobFailure) : String :=
  "Pattern syntax error near position " ++ toString e.position ++ ": " ++ e.fault.message

namespace Glob

/-! ## Reading -/

/-- The members of a class: ranges written with a hyphen, and single characters. -/
def classRanges : List Char → List GlobRange
  | [] => []
  | a :: '-' :: b :: rest => ⟨a, b⟩ :: classRanges rest
  | a :: rest => ⟨a, a⟩ :: classRanges rest

/-- The class behind an opening bracket and the number of characters it takes after the bracket. A
closing bracket in the first place is a member. -/
def class? (s : List Char) : Option (GlobToken × Nat) :=
  match s with
  | '!' :: c :: rest =>
    let inner := rest.takeWhile (· ≠ ']')
    if inner.length < rest.length then
      some (.outside (classRanges (c :: inner)), inner.length + 3)
    else none
  | '!' :: [] => none
  | c :: rest =>
    let inner := rest.takeWhile (· ≠ ']')
    if inner.length < rest.length then
      some (.within (classRanges (c :: inner)), inner.length + 2)
    else none
  | [] => none

/-- The tokens from a position on. `skip` characters belong to the token before, `before` is the
character in front, and `done` are the tokens read, last first. -/
def tokensFrom (skip position : Nat) (before : Option Char) (done : List GlobToken) :
    List Char → Except GlobFailure (List GlobToken)
  | [] => .ok done.reverse
  | c :: cs =>
    match skip with
    | skip + 1 => tokensFrom skip (position + 1) (some c) done cs
    | 0 =>
      if c = '?' then tokensFrom 0 (position + 1) (some c) (.anyChar :: done) cs
      else if c = '*' then
        match (cs.takeWhile (· = '*')).length with
        | 0 => tokensFrom 0 (position + 1) (some c) (.anyRun :: done) cs
        | 1 =>
          if position = 0 || before = some '/' then
            -- Two neighbouring `**` say the same as one.
            let done' := if 1 < done.length && done.head? = some .anyDirs then done
              else .anyDirs :: done
            match cs.drop 1 with
            | [] => tokensFrom 1 (position + 1) (some c) done' cs
            | x :: _ =>
              if x = '/' then tokensFrom 2 (position + 1) (some c) done' cs
              else .error ⟨.sharedComponent, position + 2⟩
          else .error ⟨.sharedComponent, position - 1⟩
        | _ => .error ⟨.tooManyStars, position + 2⟩
      else if c = '[' then
        match class? cs with
        | some (t, n) => tokensFrom n (position + 1) (some c) (t :: done) cs
        | none => .error ⟨.badClass, position⟩
      else tokensFrom 0 (position + 1) (some c) (.char c :: done) cs

/-- The pattern a text writes. -/
def ofText (s : String) : Except GlobFailure Glob :=
  match tokensFrom 0 0 none [] s.toList with
  | .ok ts => .ok ⟨s, ts⟩
  | .error e => .error e

/-! ## Matching -/

/-- How the separator is treated. -/
inductive Slashes where
  /-- A wildcard matches it like any other character. -/
  | plain
  /-- Only a slash or `**` matches it. -/
  | kept
  deriving DecidableEq, Repr

/-- Whether a range holds a character. -/
def inRanges (rs : List GlobRange) (c : Char) : Bool :=
  rs.any fun r => r.low ≤ c && c ≤ r.high

/-- Whether a token of one character matches it. -/
def accepts (m : Slashes) (t : GlobToken) (c : Char) : Bool :=
  match t with
  | .char x => x = c
  | .anyChar => m = .plain || c ≠ '/'
  | .within rs => (m = .plain || c ≠ '/') && inRanges rs c
  | .outside rs => (m = .plain || c ≠ '/') && !inRanges rs c
  | .anyRun | .anyDirs => false

/-- What `*` may leave of a text. -/
def runRests (m : Slashes) : List Char → List (List Char)
  | [] => [[]]
  | c :: cs => (c :: cs) :: if m = .kept && c = '/' then [] else runRests m cs

/-- What `**` may leave of a text behind a slash, and nothing. -/
def dirRests : List Char → List (List Char)
  | [] => [[]]
  | c :: cs => if c = '/' then cs :: dirRests cs else dirRests cs

/-- Whether tokens match a whole text. -/
def matchTokens (m : Slashes) : List GlobToken → List Char → Bool
  | [], s => s.isEmpty
  | .anyRun :: ts, s => (runRests m s).any (matchTokens m ts)
  | .anyDirs :: ts, s => matchTokens m ts s || (dirRests s).any (matchTokens m ts)
  | t :: ts, s =>
    match s with
    | [] => false
    | c :: cs => accepts m t c && matchTokens m ts cs

/-- Whether a pattern matches a text, slashes being characters like any other. -/
def matchesText (g : Glob) (s : String) : Bool :=
  matchTokens .plain g.tokens s.toList

/-- Whether a pattern matches a path, no wildcard but `**` reaching over a slash. -/
def matchesPath (g : Glob) (s : String) : Bool :=
  matchTokens .kept g.tokens s.toList

end Glob

end Multilint
