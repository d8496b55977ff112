import Multilint.Shell.State
/-!
# Conditions, loops and calls

What surrounds a script while it is carried out: a condition, which may fail without ending a careful process, the
rounds of a loop, which can be left from inside of it, the call of a function, which gives back what it borrowed, and
a command of the shell, whose faults may be its own.
-/

namespace Multilint

namespace Shell

/-- Runs something and changes the process afterwards, however it ends. -/
def afterwards {α : Type} (x : Run α) (f : Process → Process) : Run α := do
  let a ← tryCatch x fun e => do
    changeProcess f
    throw e
  changeProcess f
  return a

/-- Runs something as a condition: it may fail in a careful process. -/
def asCondition (x : Run Unit) : Run Bool := do
  changeProcess fun p => { p with tested := p.tested + 1 }
  afterwards x fun p => { p with tested := p.tested - 1 }
  return (← ofProcess Process.status) = 0

/-- Ends a careful process after a command that failed. -/
def check : Run Unit := do
  let p ← ofProcess id
  if p.options.contains 'e' && p.tested = 0 && p.status ≠ 0 then throw .exit

/-- How a round of a loop ends. -/
inductive Round where
  /-- Another round follows. -/
  | again
  /-- The loop was left. -/
  | left
  /-- The loop is at its end. -/
  | done

/-- Runs a round of a loop. -/
def round (x : Run Round) : Run Round := do
  changeProcess fun p => { p with loops := p.loops + 1 }
  tryCatch (afterwards x fun p => { p with loops := p.loops - 1 }) fun
    | .leave 0 => return .left
    | .leave (n + 1) => throw (.leave n)
    | .again 0 => return .again
    | .again (n + 1) => throw (.again n)
    | e => throw e

/-- Runs a function or a script read into the shell. -/
def calling (x : Run Unit) : Run Unit :=
  tryCatch x fun
    | .finish => return ()
    | e => throw e

/-- Gives back what a function borrowed: its variables, the options, the arguments and the loops around it. -/
def returned (outer p : Process) : Process :=
  let frame := p.frames.headD {}
  let bindings := frame.saved.foldl (fun bs (name, v) =>
    (v.toList.map (name, ·)) ++ bs.filter (·.1 ≠ name)) p.bindings
  { p with
    bindings
    options := frame.options.getD p.options
    frames := p.frames.drop 1
    arguments := outer.arguments
    optionAt := outer.optionAt
    optionTaken := outer.optionTaken
    loops := outer.loops
    depth := outer.depth }

/-- Runs a command of the shell: messages name it, and its faults are its own unless it is a special one. -/
def asBuiltin (special : Bool) (name : String) (x : Run Unit) : Run Unit := do
  let inside ← ofProcess Process.inside
  changeProcess fun p => { p with inside := some name, broken := false }
  let restore (p : Process) : Process := { p with inside }
  let finish : Run Unit := do
    if ← ofProcess Process.broken then
      complain (name ++ ": I/O error")
      changeProcess fun p => { p with status := p.status ||| 1, broken := false }
  afterwards (do
    tryCatch x fun
      | .fault => if special then throw .fault else return
      | e => throw e
    finish) restore

end Shell

end Multilint
