import Multilint.Regex.Basic
/-!
# Programs that search

An expression is turned into steps at numbered places. A step takes a character, tests the place in the
text, or goes on at two places of which the first is preferred. Repetitions go back to where they started,
so a program is no larger than the expression with its counted repetitions written out.
-/

namespace Multilint

namespace Regex

/-- A step of a program, with the places where it goes on. -/
inductive Step where
  /-- Takes a given character. -/
  | letter (c : Char) (next : Nat)
  /-- Takes a character of a set. -/
  | one (s : CharSet) (next : Nat)
  /-- Goes on where an anchor holds. -/
  | anchor (a : Anchor) (next : Nat)
  /-- Notes that the group starts here. -/
  | start (next : Nat)
  /-- Notes that the group ends here. -/
  | stop (next : Nat)
  /-- Goes on at two places. -/
  | fork (first second : Nat)
  /-- Ends the match. -/
  | done
  deriving Repr

/-- The steps of a program. -/
abbrev Steps := Array Step

/-- Adds steps and tells where they start. -/
abbrev Build := StateM Steps Nat

namespace Build

/-- Adds a step. -/
def step (s : Step) : Build :=
  modifyGet fun steps => (steps.size, steps.push s)

/-- Goes on at one of two places, the first of which is preferred by a greedy repetition. -/
def choice (greedy : Bool) (more out : Nat) : Step :=
  if greedy then .fork more out else .fork out more

/-- Steps from which one comes back to a step that chooses between them and what follows: where the steps
start, and where the choice stands. -/
def loop (body : Nat → Build) (greedy : Bool) (next : Nat) : StateM Steps (Nat × Nat) := do
  let again ← step .done
  let first ← body again
  modify fun steps => steps.setIfInBounds again (choice greedy first next)
  return (first, again)

/-- The same steps a number of times. -/
def times (body : Nat → Build) (n : Nat) (next : Nat) : Build := fun steps =>
  n.repeat (fun (next, steps) => body next steps) (next, steps)

/-- The same steps at most a number of times, each time only after the time before. All ways out lead to one
place. -/
def upTo (body : Nat → Build) (greedy : Bool) (n : Nat) (next : Nat) : Build :=
  times (fun more => do step (choice greedy (← body more) next)) n next

end Build

open Build

mutual

/-- The steps of an expression in front of a place. Only the group of a given number is noted. -/
def steps (index : Nat) : Regex → Nat → Build
  | .empty, next => return next
  | .literal cs, next => cs.foldrM (fun c next => step (.letter c next)) next
  | .one s, next => step (.one s next)
  | .anchor a, next => step (.anchor a next)
  | .group i r, next =>
    if i = index then do
      let stop ← step (.stop next)
      let first ← r.steps index stop
      step (.start first)
    else r.steps index next
  | .seq rs, next => stepsOfSeq index rs next
  | .alt rs, next => stepsOfAlt index rs next
  | .rep r 0 none greedy, next => do
    let (first, again) ← loop (fun next => r.steps index next) greedy next
    if r.isLong then return again else step (choice greedy first next)
  | .rep r (lo + 1) none greedy, next => do
    let (first, _) ← loop (fun next => r.steps index next) greedy next
    times (fun next => r.steps index next) lo first
  | .rep r lo (some hi) greedy, next => do
    let rest ← upTo (fun next => r.steps index next) greedy (hi - lo) next
    times (fun next => r.steps index next) lo rest

/-- The steps of expressions one after another. -/
def stepsOfSeq (index : Nat) : List Regex → Nat → Build
  | [], next => return next
  | r :: rs, next => do r.steps index (← stepsOfSeq index rs next)

/-- The steps of expressions of which the first is preferred. -/
def stepsOfAlt (index : Nat) : List Regex → Nat → Build
  | [], _ => step (.one .empty 0)
  | [r], next => r.steps index next
  | r :: rs, next => do
    let others ← stepsOfAlt index rs next
    step (.fork (← r.steps index next) others)

end

/-- A program. -/
structure Program where
  /-- Its steps. -/
  steps : Steps
  /-- The place where it starts. -/
  start : Nat
  deriving Repr

/-- The program that searches for an expression and notes the group of a given number. -/
def program (r : Regex) (index : Nat) : Program :=
  let (start, steps) := (r.steps index 0).run #[.done]
  ⟨steps, start⟩

end Regex

end Multilint
