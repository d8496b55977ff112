import Multilint.Machine.Program
import Multilint.Shell.Script
import Multilint.Shell.Signal
/-!
# The state of a shell

A shell and the shells below it share the files, the streams they write to and what is left of their inputs;
everything else belongs to one process. What is written is kept with the time it was written at, so that it can be
told what had come out at any time. A process that never ends is an escape like the end of a process.
-/

namespace Multilint

namespace Shell

/-- Where a descriptor leads. -/
inductive Handle where
  /-- To a stream: one of the two of a call, or one that somebody else reads. -/
  | stream (n : Nat)
  /-- To a file at given names. -/
  | file (names : List String)
  /-- From an input. -/
  | source (n : Nat)
  /-- Nowhere. -/
  | nowhere
  deriving DecidableEq, Repr

/-- Something written to a stream. -/
structure Write where
  /-- When it was written, in milliseconds. -/
  time : Nat
  /-- The stream. -/
  stream : Nat
  /-- What was written. -/
  flow : Flow
  deriving Repr

/-- A variable. -/
structure Variable where
  /-- Its value, if it has one. -/
  value : Option String := none
  /-- Commands see it. -/
  exported : Bool := false
  /-- It cannot be changed. -/
  fixed : Bool := false
  deriving DecidableEq, Repr

/-- A process started in the background. -/
structure Job where
  /-- When it ends, if it does. -/
  ended : Option Nat
  /-- Its status. -/
  status : Nat
  deriving DecidableEq, Repr

/-- What a function gives back at its end. -/
structure Frame where
  /-- Variables as they were, the last one first. -/
  saved : List (String × Option Variable) := []
  /-- The options as they were, if they were made local. -/
  options : Option (List Char) := none

/-- What belongs to one process. -/
structure Process where
  /-- The time of the process, in milliseconds. -/
  now : Nat := 0
  /-- The directory it is in. -/
  dir : Path
  /-- The variables. -/
  bindings : List (String × Variable) := []
  /-- The arguments. -/
  arguments : List String := []
  /-- What the process is called in messages. -/
  name : String := "sh"
  /-- The command or file in which something is carried out, as messages name it. -/
  inside : Option String := none
  /-- The status of the last command. -/
  status : Nat := 0
  /-- The status of the last script inside a word of the current command. -/
  answer : Nat := 0
  /-- The status that the process had before what is done at a signal or at its end. -/
  kept : Option Nat := none
  /-- The functions. -/
  functions : List (String × Script) := []
  /-- Texts that stand for a word where a command starts. -/
  aliases : List (String × String) := []
  /-- Where the descriptors lead. -/
  handles : List (Nat × Handle) := [(0, .source 0), (1, .stream 1), (2, .stream 2)]
  /-- The last command could not write. -/
  broken : Bool := false
  /-- The processes started in the background. -/
  jobs : List Job := []
  /-- The options, by their letters. -/
  options : List Char := []
  /-- What is done at signals and at the end. -/
  traps : List (Nat × String) := []
  /-- What the process that scripts know by its number does at signals, in a process below it. -/
  above : Option (List (Nat × String)) := none
  /-- The rights that new files do not get. -/
  mask : Nat := 18
  /-- The argument that is looked at next for options, counted from one. -/
  optionAt : Nat := 1
  /-- The number of characters that were taken as options from the argument before that; zero for all. -/
  optionTaken : Nat := 0
  /-- The number of conditions around the current command. -/
  tested : Nat := 0
  /-- The number of loops around the current command. -/
  loops : Nat := 0
  /-- What the functions around the current command give back, the innermost first. -/
  frames : List Frame := []
  /-- The line of the current command. -/
  line : Nat := 1
  /-- The number of functions and programs around the current command. -/
  depth : Nat := 0
  /-- The number by which the process knows itself. -/
  number : Nat := 4242

/-- The state of all processes of a call. -/
structure State where
  /-- The files. -/
  tree : FileTree
  /-- What was written, the last first. -/
  writes : List Write := []
  /-- What is left of the inputs. -/
  sources : List (Nat × Flow) := []
  /-- A number that no stream and no input has. -/
  fresh : Nat := 3
  /-- Signals that the process known by its number has not seen to yet. -/
  pending : List Nat := []
  /-- The time at which the call is given up, in milliseconds. -/
  limit : Nat
  /-- The current process. -/
  process : Process

/-- What leaves the course of a script. -/
inductive Escape where
  /-- The process ends. -/
  | exit
  /-- The process ends for a fault, unless that was the fault of a command that may have one. -/
  | fault
  /-- The process is killed by a signal. -/
  | killed (signal : Nat)
  /-- The process never ends. -/
  | hang
  /-- So many loops end. -/
  | leave (loops : Nat)
  /-- So many loops but one end, and that goes on with its next round. -/
  | again (loops : Nat)
  /-- The function ends. -/
  | finish
  deriving DecidableEq, Repr

/-- A step of a shell. -/
abbrev Run := ExceptT Escape (StateM State)

/-- Something about the current process. -/
def ofProcess {α : Type} (f : Process → α) : Run α :=
  return f (← get).process

/-- Changes the current process. -/
def changeProcess (f : Process → Process) : Run Unit :=
  modify fun s => { s with process := f s.process }

/-- Sets the status. -/
def setStatus (n : Nat) : Run Unit :=
  changeProcess fun p => { p with status := n }

/-- Whether an option is set. -/
def hasOption (letter : Char) : Run Bool :=
  ofProcess fun p => p.options.contains letter

/-- The number of functions and programs that may be inside of one another. -/
def depthLimit : Nat := 500

/-- Goes one function or program deeper; a process that goes too deep is killed for a fault of memory. -/
def deeper : Run Unit := do
  if (← ofProcess Process.depth) ≥ depthLimit then throw (.killed 11)
  changeProcess fun p => { p with depth := p.depth + 1 }

/-! ## Input and output -/

/-- What is left of the input of a descriptor; nothing comes from one that is no input. -/
def inputOf (descriptor : Nat) : Run Flow := do
  let s ← get
  match s.process.handles.lookup descriptor with
  | some (.source n) => return (s.sources.lookup n).getD {}
  | _ => return {}

/-- Leaves so much of the input of a descriptor. -/
def leaveInput (descriptor : Nat) (f : Flow) : Run Unit :=
  modify fun s =>
    match s.process.handles.lookup descriptor with
    | some (.source n) => { s with sources := (n, f) :: s.sources.filter (·.1 ≠ n) }
    | _ => s

/-- A new input. -/
def newSource (f : Flow) : Run Handle :=
  modifyGet fun s => (.source s.fresh, { s with fresh := s.fresh + 1, sources := (s.fresh, f) :: s.sources })

/-- Lets a descriptor lead somewhere, or nowhere any more. -/
def lead (descriptor : Nat) (h : Option Handle) : Run Unit :=
  changeProcess fun p =>
    { p with handles := (h.toList.map (descriptor, ·)) ++ p.handles.filter (·.1 ≠ descriptor) }

/-- What a program started now would find. -/
def surroundings : Run Surroundings := do
  let input ← inputOf 0
  let s ← get
  return { tree := s.tree, dir := s.process.dir, input }

/-- Puts bytes at the end of a file. -/
def appendToFile (tree : FileTree) (names : List String) (bytes : List UInt8) : FileTree :=
  match tree.at? names with
  | some (.file content executable) =>
    FileTree.insert (.file (content ++ ⟨bytes.toArray⟩) executable) names tree
  | _ => FileTree.insert (.file ⟨bytes.toArray⟩ false) names tree

/-- Writes to a descriptor. What has no end can only be written to a stream that somebody reads. -/
def emit (descriptor : Nat) (f : Flow) : Run Unit := do
  if f.bytes.isEmpty && f.round.isEmpty then return
  match (← ofProcess Process.handles).lookup descriptor with
  | some (.stream n) =>
    if f.isEndless && n ≤ 2 then throw .hang
    modify fun s => { s with writes := ⟨s.process.now, n, f⟩ :: s.writes }
  | some (.file names) =>
    if f.isEndless then throw .hang
    modify fun s => { s with tree := appendToFile s.tree names f.bytes }
  | some .nowhere => if f.isEndless then throw .hang
  | some (.source _) | none => changeProcess fun p => { p with broken := true }

/-- Writes a text to standard output. -/
def say (text : String) : Run Unit :=
  emit 1 (.ofText text)

/-- Writes a message of the shell about a line. -/
def complainAt (line : Nat) (message : String) : Run Unit := do
  let p ← ofProcess id
  let inside := match p.inside with
    | some what => what ++ ": "
    | none => ""
  emit 2 (.ofText (p.name ++ ": " ++ toString line ++ ": " ++ inside ++ message ++ "\n"))

/-- Writes a message of the shell. -/
def complain (message : String) : Run Unit := do
  complainAt (← ofProcess Process.line) message

/-- A fault, with a message. -/
def fail {α : Type} (message : String) : Run α := do
  complain message
  setStatus 2
  throw .fault

/-- What was written to a stream before a time, in order of time. -/
def writtenTo (writes : List Write) (stream : Nat) (before : Option Nat) : Flow :=
  let chosen := writes.reverse.filter fun w => w.stream = stream && before.all (w.time < ·)
  ((chosen.mergeSort fun a b => a.time ≤ b.time).map Write.flow).foldr (· ++ ·) {}

/-- Carries out what a program does. Nothing is done any more once the call has been given up. -/
def perform (e : Effect) : Run Unit := do
  changeProcess fun p => { p with now := p.now + e.pause }
  if (← ofProcess Process.now) ≥ (← get).limit then throw .hang
  modify fun s => { s with tree := e.tree }
  if e.reads then leaveInput 0 {}
  emit 1 e.out
  emit 2 (.ofText e.err)
  if e.forever && !e.out.isEndless then throw .hang
  setStatus e.status

/-! ## Processes -/

/-- Runs something in a process of its own. Only time, files and what it writes come out of it. -/
def inProcess (x : Run Unit) : Run Unit := do
  let outer ← ofProcess id
  let ended (status : Nat) : Run Unit :=
    changeProcess fun p => { outer with now := p.now, status := status % 256 }
  try
    x
    ended (← ofProcess Process.status)
  catch
    | .killed n => ended (128 + n); throw (.killed n)
    | .hang => throw .hang
    | _ => ended (← ofProcess Process.status)

/-- Makes the current process one below the one it came from: it catches no signals, but goes on ignoring those
that were ignored. -/
def below : Run Unit :=
  changeProcess fun p =>
    { p with above := some (p.above.getD p.traps), traps := p.traps.filter fun t => t.2 = "" && t.1 ≠ 0 }

/-- The number of bytes that wait between two stages of a pipeline before their writer waits too. -/
def pipeSize : Nat := 65536

/-- Runs something with its standard output led to a stream of its own, and gives what it wrote there. What never
ends has no result, but a stage of a pipeline that goes on writing is read as far as the next stage reads. -/
def reading (isStage : Bool) (x : Run Unit) : Run Flow := do
  let outer ← ofProcess id
  let n := (← get).fresh
  let writes := (← get).writes
  modify fun s => { s with fresh := n + 1, writes := [] }
  let ends ← tryCatch
    (do
      inProcess do
        lead 1 (some (.stream n))
        x
      return true)
    (fun
      | .hang => return false
      | e => throw e)
  let written := (← get).writes
  modify fun s => { s with writes := written.filter (·.stream ≠ n) ++ writes }
  let f := writtenTo written n none
  if ends then return f
  if !isStage || f.bytes.length < pipeSize then throw .hang
  changeProcess fun _ => outer
  return f ++ ⟨[], [Flow.newline]⟩

/-! ## Variables -/

/-- The characters between fields where nothing else is said. -/
def usualSeparators : String := " \t\n"

/-- The variable of a name, if there is one. -/
def binding? (p : Process) (name : String) : Option Variable :=
  p.bindings.lookup name

/-- The value of a variable, if it has one. -/
def valueOf? (p : Process) (name : String) : Option String :=
  (binding? p name).bind Variable.value

/-- The characters between fields; none are different from no word about them. -/
def separators (p : Process) : String :=
  (valueOf? p "IFS").getD usualSeparators

/-- What stands between arguments that are put together. -/
def joint (p : Process) : String :=
  String.ofList ((separators p).toList.take 1)

/-- The order in which the options that are set are listed. -/
def optionOrder : List Char :=
  ['p', 'u', 'b', 'a', 'C', 'E', 'V', 'v', 'x', 's', 'n', 'm', 'i', 'I', 'f', 'e']

/-- The value of a parameter that is no list. -/
def parameter? (p : Process) (name : String) : Option String :=
  match name with
  | "@" | "*" => if p.arguments.isEmpty then none else some ((joint p).intercalate p.arguments)
  | "#" => some (toString p.arguments.length)
  | "?" => some (toString p.status)
  | "$" => some (toString p.number)
  | "!" => if p.jobs.isEmpty then none else some (toString (p.number + p.jobs.length))
  | "-" => some (String.ofList (optionOrder.filter p.options.contains))
  | "0" => some p.name
  | _ =>
    match name.toNat? with
    | some n => if n = 0 then some p.name else p.arguments[n - 1]?
    | none => valueOf? p name

/-- Changes the variable of a name, which there need not be. -/
def setVariable (name : String) (f : Variable → Variable) : Run Unit :=
  changeProcess fun p =>
    let v := f ((binding? p name).getD {})
    { p with bindings := (name, v) :: p.bindings.filter (·.1 ≠ name) }

/-- Gives a variable a value, which one that cannot be changed does not take. -/
def assign (name value : String) : Run Unit := do
  let p ← ofProcess id
  if (binding? p name).any Variable.fixed then fail (name ++ ": is read only")
  let all := p.options.contains 'a'
  setVariable name fun v => { v with value := some value, exported := v.exported || all }
  if name = "OPTIND" then
    changeProcess fun p => { p with optionAt := max 1 (value.toNat?.getD 1), optionTaken := 0 }

end Shell

end Multilint
