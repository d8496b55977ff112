import Multilint.Shell.Builtin.Variables
/-!
# Commands about processes

Commands that send signals and say what is done about them, wait for processes in the background, and show or set
what the system grants a process.
-/

namespace Multilint

namespace Shell

namespace Builtin

/-! ## Signals -/

/-- Sends a signal to the process that scripts know by its number. One that it does something about waits until it
sees to it. -/
def signalSelf (n : Nat) : Run Unit := do
  let p ← ofProcess id
  let traps := p.above.getD p.traps
  match (if Signal.isCatchable n then traps.lookup n else none) with
  | some action =>
    if action ≠ "" then modify fun s => { s with pending := s.pending ++ [n] }
  | none => if !Signal.isHarmless n then throw (.killed n)

/-- How `kill` is used. -/
def killUsage : String :=
  "Usage: kill [-s sigspec | -signum | -sigspec] [pid | job]... or\nkill -l [exitstatus]"

/-- Sends a signal to a process or a job, and says whether it is there. -/
def signalTo (n : Nat) (target : String) : Run Bool := do
  let own ← ofProcess Process.number
  let jobs ← ofProcess Process.jobs
  let conclude (i : Nat) : Run Unit :=
    if n = 0 then return
    else
      changeProcess fun p =>
        { p with jobs := p.jobs.zipIdx.map fun (j, k) => if k = i then ⟨some p.now, 128 + n⟩ else j }
  match target.toList with
  | '%' :: ds =>
    let i := Numeral.value ds
    if ds.isEmpty || !ds.all Char.isDigit || i = 0 || i > jobs.length then
      fail ("No such job: " ++ target)
    conclude (i - 1)
    return true
  | '-' :: ds =>
    let _ ← number (String.ofList ds)
    return false
  | _ =>
    let pid ← number target
    if pid = own then
      signalSelf n
      return true
    else if own < pid && pid ≤ own + jobs.length then
      conclude (pid - own - 1)
      return true
    else return false

/-- `kill`. -/
def kill (args : List String) : Run Unit := do
  if args.isEmpty then fail killUsage
  let first := args.headD ""
  let direct : Option Nat :=
    if first.startsWith "-" then Signal.ofText? 1 (first.drop 1).toString else none
  let (signal, list, targets) ← match direct with
    | some n => pure (some n, false, args.drop 1)
    | none => do
      let k ← chosen [('l', false), ('s', true)] args
      let named ← match k.options.reverse.lookup 's' with
        | some s =>
          match Signal.ofText? 1 s with
          | some n => pure (some n)
          | none => fail ("invalid signal number or name: " ++ s)
        | none => pure none
      pure (named, k.has 'l', k.rest)
  if list then
    if signal.isSome then fail killUsage
    match targets with
    | [] => say ("0\n" ++ String.join ((List.range Signal.bound).drop 1 |>.map fun n => Signal.nameOf n ++ "\n"))
    | t :: _ =>
      let n ← number t
      let n := if n > 128 then n - 128 else n
      if 0 < n && n < Signal.bound then say (Signal.nameOf n ++ "\n")
      else fail ("invalid signal number or exit status: " ++ t)
    setStatus 0
  else
    if targets.isEmpty then fail killUsage
    let mut status := 0
    for t in targets do
      if !(← signalTo (signal.getD 15) t) then
        complain "No such process\n"
        status := 1
    setStatus status

/-- `trap`. -/
def trap (args : List String) : Run Unit := do
  let k ← chosen [] args
  match k.rest with
  | [] =>
    let traps := (← ofProcess Process.traps).mergeSort fun a b => a.1 ≤ b.1
    let shown ← ofProcess fun p => if p.above.isSome then [] else traps
    say (String.join (shown.map fun (n, action) =>
      "trap -- " ++ quotedText action ++ " " ++ Signal.nameOf n ++ "\n"))
    setStatus 0
  | first :: more =>
    let reset : Bool := more.isEmpty || (Signal.ofText? 0 first).isSome && first.toList.all Char.isDigit
    let action : Option String := if reset || first = "-" then none else some first
    let rec change : List String → Run Unit
      | [] => setStatus 0
      | t :: ts =>
        match Signal.ofText? 0 t with
        | none => do
          emit 2 (.ofText ("trap: " ++ t ++ ": bad trap\n"))
          setStatus 1
        | some n => do
          changeProcess fun p =>
            { p with traps := (action.toList.map (n, ·)) ++ p.traps.filter (·.1 ≠ n) }
          change ts
    change (if reset then first :: more else more)

/-! ## Processes in the background -/

/-- Waits until a job has ended, and gives its status. -/
def waitFor (j : Job) : Run Nat := do
  match j.ended with
  | none => throw .hang
  | some t =>
    changeProcess fun p => { p with now := max p.now t }
    return j.status

/-- The job of a number behind a percent sign. -/
def job (text : String) : Run Job := do
  let jobs ← ofProcess Process.jobs
  let ds := text.toList.drop 1
  let i := Numeral.value ds
  match (if ds.isEmpty || !ds.all Char.isDigit || i = 0 then none else jobs[i - 1]?) with
  | some j => return j
  | none => fail ("No such job: " ++ text)

/-- `wait`. -/
def wait (args : List String) : Run Unit := do
  let k ← chosen [] args
  if k.rest.isEmpty then
    let jobs ← ofProcess Process.jobs
    jobs.forM fun j => do
      let _ ← waitFor j
    setStatus 0
  else
    k.rest.forM fun a => do
      if a.startsWith "%" then setStatus (← waitFor (← job a))
      else
        let pid ← number a
        let p ← ofProcess id
        match (if pid > p.number then p.jobs[pid - p.number - 1]? else none) with
        | some j => setStatus (← waitFor j)
        | none => setStatus 127

/-- Whether a job has not ended yet. -/
def isRunning (now : Nat) (j : Job) : Bool :=
  j.ended.all (now < ·)

/-- `jobs`: those that have not ended. -/
def jobs (args : List String) : Run Unit := do
  let k ← chosen (plainLetters "lp") args
  k.rest.forM fun a => do
    let _ ← job a
  let p ← ofProcess id
  let last := p.jobs.length
  say (String.join (p.jobs.zipIdx.map fun (j, i) =>
    let mark := if i + 1 = last then "+" else if i + 2 = last then "-" else " "
    if isRunning p.now j then "[" ++ toString (i + 1) ++ "] " ++ mark ++ " Running                    \n"
    else ""))
  setStatus 0

/-- `fg` and `bg`, which a shell without a terminal does not offer. -/
def toForeground (args : List String) : Run Unit := do
  let _ ← match args with
    | [] =>
      if (← ofProcess Process.jobs).isEmpty then fail "No current job"
      else pure ()
    | a :: _ => do
      let _ ← job a
      pure ()
  fail "job (null) not created under job control"

/-! ## What the system grants -/

/-- A mask in octal digits. -/
def octalMask (n : Nat) : String :=
  let ds := Nat.toDigits 8 n
  String.ofList (List.replicate (4 - ds.length) '0' ++ ds)

/-- The letters of three bits. -/
def rights (bits : Nat) : String :=
  (if bits / 4 % 2 = 1 then "r" else "") ++ (if bits / 2 % 2 = 1 then "w" else "") ++
    (if bits % 2 = 1 then "x" else "")

/-- A mask as the rights that it leaves. -/
def symbolicMask (n : Nat) : String :=
  let left := 511 - n % 512
  "u=" ++ rights (left / 64) ++ ",g=" ++ rights (left / 8 % 8) ++ ",o=" ++ rights (left % 8)

/-- The bits that letters of rights stand for. -/
def rightBits (cs : List Char) : Option Nat :=
  cs.foldr (fun c n =>
    match c with
    | 'r' => n.map (· ||| 4)
    | 'w' => n.map (· ||| 2)
    | 'x' => n.map (· ||| 1)
    | _ => none) (some 0)

/-- The rights that a clause leaves from given ones. -/
def changeRights (left : Nat) (clause : List Char) : Option Nat := do
  let who := clause.takeWhile ['u', 'g', 'o', 'a'].contains
  let op ← (clause.drop who.length).head?
  let bits ← rightBits (clause.drop (who.length + 1))
  let places := if who.isEmpty || who.contains 'a' then ['u', 'g', 'o'] else who
  let shifts := places.map fun c => if c = 'u' then 64 else if c = 'g' then 8 else 1
  let chosen := shifts.eraseDups.foldr (fun s n => n + bits * s) 0
  let all := shifts.eraseDups.foldr (fun s n => n + 7 * s) 0
  match op with
  | '=' => return (left &&& (511 - all)) ||| chosen
  | '+' => return left ||| chosen
  | '-' => return left &&& (511 - chosen)
  | _ => none

/-- `umask`. -/
def umask (args : List String) : Run Unit := do
  let k ← chosen (plainLetters "S") args
  let mask ← ofProcess Process.mask
  match k.rest with
  | [] => say ((if k.has 'S' then symbolicMask mask else octalMask mask) ++ "\n")
  | a :: _ =>
    if a.toList.head?.any Char.isDigit then
      match Numeral.valueIn? 8 a.toList with
      | some n => changeProcess fun p => { p with mask := n % 512 }
      | none => fail ("Illegal number: " ++ a)
    else
      match (Text.splitOn ',' a.toList).foldlM changeRights (511 - mask) with
      | some left => changeProcess fun p => { p with mask := 511 - left }
      | none => fail ("Illegal mode: " ++ a)
  setStatus 0

/-- `ulimit`: nothing is limited. -/
def ulimit (args : List String) : Run Unit := do
  let _ ← chosen (plainLetters "HSatfdsmcnlvprw") args
  say "unlimited\n"
  setStatus 0

/-- `times`: no time has been used. -/
def times : Run Unit := do
  say "0m0.000000s 0m0.000000s\n0m0.000000s 0m0.000000s\n"
  setStatus 0

end Builtin

end Shell

end Multilint
