import Multilint.Shell.Pattern
import Multilint.Shell.State
/-!
# Fields

What a word comes to: the values in it are put together, values outside of quotes are split at separators, and a
field that is a pattern becomes the paths it fits.
-/

namespace Multilint

namespace Shell

/-- A part of a word whose parameters and scripts have been replaced. -/
inductive Expanded where
  /-- A text that stays whole. -/
  | text (ms : List Marked)
  /-- A text that is split at separators. -/
  | split (s : String)
  /-- The boundary between two fields. -/
  | boundary

/-- The characters of a text. -/
def mark (quoted : Bool) (s : String) : List Marked :=
  s.toList.map (·, quoted)

/-- A value in quotes or outside of them. -/
def Expanded.value (quoted : Bool) (s : String) : Expanded :=
  if quoted then .text (mark true s) else .split s

/-- A part as it counts inside a value: a text outside of quotes is split like the value. -/
def Expanded.inValue : Expanded → Expanded
  | .text ms => if !ms.isEmpty && ms.all fun m => !m.2 then .split (unmarked ms) else .text ms
  | e => e

/-- Several values, each a field of its own or split into more. -/
def Expanded.each (quoted : Bool) : List String → List Expanded
  | [] => []
  | [s] => [.value quoted s]
  | s :: ss => .value quoted s :: .boundary :: each quoted ss

/-- All of a word in one. -/
def joinedMarks (es : List Expanded) : List Marked :=
  es.flatMap fun
    | .text ms => ms
    | .split s => mark false s
    | .boundary => [(' ', true)]

/-- All of a word as a text. -/
def joinedText (es : List Expanded) : String :=
  unmarked (joinedMarks es)

/-- Fields, the last first, and the one that has begun. -/
structure Splitting where
  /-- The fields. -/
  done : List (List Marked) := []
  /-- The one that has begun, its parts in order of time, the last first. -/
  begun : Option (List (List Marked)) := none
  /-- A blank has ended a field, and another separator may still belong to that end. -/
  behindBlank : Bool := false

namespace Splitting

/-- Ends the field that has begun. -/
def close (f : Splitting) : Splitting :=
  match f.begun with
  | some parts => { done := parts.reverse.flatten :: f.done, behindBlank := true }
  | none => f

/-- More of a field. -/
def push (f : Splitting) (ms : List Marked) : Splitting :=
  { f with begun := some (ms :: f.begun.getD []), behindBlank := false }

/-- A separator that is no blank ends a field, also an empty one. -/
def separate (f : Splitting) : Splitting :=
  match f.begun with
  | some _ => { f.close with behindBlank := false }
  | none => if f.behindBlank then { f with behindBlank := false } else { f with done := [] :: f.done }

/-- Whether a character is a blank as a separator. -/
def isBlank (c : Char) : Bool :=
  [' ', '\t', '\n'].contains c

/-- One more part, where given characters are separators. -/
def add (separators : List Char) (f : Splitting) : Expanded → Splitting
  | .text ms => f.push ms
  | .boundary => f.close
  | .split s =>
    s.toList.foldl (fun f c =>
      if !separators.contains c then f.push [(c, false)]
      else if isBlank c then f.close
      else f.separate) f

end Splitting

/-- The fields of a word. -/
def fields (separators : String) (es : List Expanded) : List (List Marked) :=
  (es.foldl (Splitting.add separators.toList) {}).close.done.reverse

/-- What a value comes to when it is changed by means of a pattern. -/
def cut (how : Change) (pattern : List Marked) (s : String) : String :=
  match how with
  | .cutEnd longest => Utf8.text (cutEnd longest (patternOf pattern) (Utf8.bytes s))
  | .cutStart longest => Utf8.text (cutStart longest (patternOf pattern) (Utf8.bytes s))
  | _ => s

/-! ## Home directories -/

/-- The directory of a user; nobody is the user of the process. -/
def homeOf? (p : Process) (user : String) : Option String :=
  if user = "" then valueOf? p "HOME" else if user = "root" then some "/root" else none

/-- A text that may start with a tilde, with what the tilde stands for in front; in an assignment a colon ends the
user's name. -/
def atHome (p : Process) (assigned last : Bool) (s : List Char) : List Marked :=
  match s with
  | '~' :: cs =>
    let user := cs.takeWhile fun c => c ≠ '/' && !(assigned && c = ':')
    let behind := cs.drop user.length
    match (if behind.isEmpty && !last then none else homeOf? p (String.ofList user)) with
    | some home => mark true home ++ behind.map (·, false)
    | none => s.map (·, false)
  | s => s.map (·, false)

/-- The parts of an assigned text behind its colons. -/
def atHomes (p : Process) (last : Bool) (s : List Char) : List (List Char) → List Marked
  | [] => atHome p true last s
  | next :: more => atHome p true true s ++ (':', false) :: atHomes p last next more

/-- An assigned text with what tildes at its start and behind colons stand for. -/
def assignedText (p : Process) (first last : Bool) (s : String) : List Marked :=
  match Text.splitOn ':' s.toList with
  | [] => []
  | part :: more =>
    if first then atHomes p last part more
    else
      match more with
      | [] => part.map (·, false)
      | next :: more => part.map (·, false) ++ (':', false) :: atHomes p last next more

end Shell

end Multilint
