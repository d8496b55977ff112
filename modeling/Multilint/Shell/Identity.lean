import Multilint.Shell.Options
import Multilint.Shell.Start
/-!
# What command names are

A command name is a reserved word, an alias, a function, a command of the shell or a file. Scripts can ask which of
these it is, and can name a command in a way that rules functions out.
-/

namespace Multilint

namespace Shell

/-- What a command name is, as `type` and `command` say it; the flag asks for a sentence. -/
def description (sentence : Bool) (name : String) : Run (Option String) := do
  let p ← ofProcess id
  let said (what plain : String) : Option String :=
    some ((if sentence then name ++ " is " ++ what else plain) ++ "\n")
  if reservedWords.contains name then return said "a shell keyword" name
  match p.aliases.lookup name with
  | some text => return said ("an alias for " ++ text) ("alias " ++ name ++ "=" ++ quotedText text)
  | none =>
    if (p.functions.lookup name).isSome then return said "a shell function" name
    if specialCommands.contains name then return said "a special shell builtin" name
    if isBuiltin name then return said "a shell builtin" name
    match pathOf? (← get).tree p.dir (searchPath p) name with
    | some path => return said path path
    | none => return none

/-- Says what a command name is. -/
def describe (sentence : Bool) (name : String) : Run Unit := do
  match ← description sentence name with
  | some text =>
    say text
    setStatus 0
  | none =>
    if sentence then say (name ++ ": not found\n")
    setStatus 127

/-- Says what names are; the status is that of one that is nothing. -/
def describeAll (names : List String) : Run Unit := do
  let mut status := 0
  for name in names do
    describe true name
    status := max status (← ofProcess Process.status)
  setStatus status

/-- `hash`: looks for commands. -/
def lookFor (args : List String) : Run Unit := do
  let k ← chosen (plainLetters "rv") args
  setStatus 0
  k.rest.forM fun name => do
    let p ← ofProcess id
    if !isBuiltin name && (p.functions.lookup name).isNone &&
        (pathOf? (← get).tree p.dir (searchPath p) name).isNone then
      complain (name ++ ": not found")
      setStatus 1

/-- The path of a script that is read into the shell. -/
def scriptPath (name : String) : Run String := do
  let p ← ofProcess id
  let tree := (← get).tree
  if name.toList.contains '/' then return name
  else
    match ((searchPath p).map fun d => inDirectory d name).find? fun f => tree.isFile p.dir (Path.ofString f) with
    | some path => return path
    | none => fail (name ++ ": not found")

/-- The name of a command behind `command` with its options, its arguments, and whether there is one; the flag says
whether something stood in front. -/
def behindCommand : Nat → Bool → List String → Option (Bool × List String)
  | 0, _, _ => none
  | n + 1, found, words =>
    match words with
    | "command" :: rest =>
      let rest := rest.dropWhile fun a => a = "-p"
      match rest with
      | "--" :: rest => behindCommand n true rest
      | a :: _ => if a.startsWith "-" && a ≠ "-" then some (found, words) else behindCommand n true rest
      | [] => some (found, words)
    | words => some (found, words)

end Shell

end Multilint
