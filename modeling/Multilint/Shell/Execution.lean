import Multilint.Shell.Arithmetic
import Multilint.Shell.Course
import Multilint.Shell.Expansion
import Multilint.Shell.Identity
import Multilint.Shell.Reader
import Multilint.Shell.Redirect
/-!
# Carrying out scripts

Scripts are carried out step by step; a bound on the steps makes this a function, and a script that has not
ended by then counts as one that never ends. The stages of a pipeline run one after the other, each on what
the one before it wrote, and a command in the background runs to its end at once, on a clock of its own.
-/

namespace Multilint

namespace Shell

/-- How tildes are replaced in a word. -/
inductive Tildes where
  /-- Not at all. -/
  | none
  /-- At the start. -/
  | word
  /-- At the start and behind colons. -/
  | assigned
  deriving DecidableEq

/-- In what a word stands. -/
structure Manner where
  /-- It stands in quotes. -/
  quoted : Bool := false
  /-- It may come to several fields. -/
  full : Bool := false

/-- A text of a word outside of quotes. -/
def textIn (p : Process) (tildes : Tildes) (first last : Bool) (s : String) : List Expanded :=
  let ms := match tildes with
    | .none => mark false s
    | .word => if first then atHome p false last s.toList else mark false s
    | .assigned => assignedText p first last s
  if ms.isEmpty then [] else [.text ms]

mutual

/-- Carries out a script. -/
def run : Nat → Script → Run Unit
  | 0, _ => throw .hang
  | n + 1, script => do
    if ← hasOption 'n' then return
    match script with
    | .nothing => return
    | .simple line assignments words redirections =>
      changeProcess fun p => { p with line := line, answer := 0 }
      simple n assignments words redirections
      check
    | .pipeline stages =>
      stagesOf n stages
      check
    | .negated s =>
      let ok ← asCondition (run n s)
      setStatus (if ok then 1 else 0)
    | .both a b =>
      if ← asCondition (run n a) then run n b
    | .either a b =>
      if !(← asCondition (run n a)) then run n b
    | .inOrder a b =>
      run n a
      run n b
    | .background s => background n s
    | .redirected line s redirections =>
      changeProcess fun p => { p with line := line }
      let ok ← redirecting n redirections (run n s)
      if !ok then setStatus 2
    | .subshell line s redirections =>
      changeProcess fun p => { p with line := line }
      forked n do
        if ← redirectAll n redirections then run n s else setStatus 2
      check
    | .choice condition yes no =>
      if ← asCondition (run n condition) then run n yes
      else if no matches .nothing then setStatus 0
      else run n no
    | .loop reversed condition body => rounds n reversed condition body 0
    | .each line name words body =>
      changeProcess fun p => { p with line := line }
      let values ← match words with
        | some ws => fieldsOfWords n false ws
        | none => ofProcess Process.arguments
      if values.isEmpty then setStatus 0
      eachOf n name values body
    | .select line word arms =>
      changeProcess fun p => { p with line := line }
      let text := joinedText (← expand n {} .word true word)
      armOf n (Utf8.bytes text) arms
    | .define name body =>
      changeProcess fun p =>
        { p with functions := (name, body) :: p.functions.filter (·.1 ≠ name), status := 0 }
    attend n

/-- Sees to the signals that have come. -/
def attend : Nat → Run Unit
  | 0 => throw .hang
  | n + 1 => do
    let s ← get
    match s.pending with
    | [] => return
    | signal :: rest =>
      if s.process.above.isSome then return
      set { s with pending := rest }
      match s.process.traps.lookup signal with
      | some action => act n action
      | none => return
      attend n

/-- Carries out what is done at a signal or at the end, and gives the status back. -/
def act : Nat → String → Run Unit
  | 0, _ => throw .hang
  | n + 1, action => do
    let p ← ofProcess id
    changeProcess fun q => { q with kept := some p.status }
    text n action
    changeProcess fun q => { q with kept := p.kept, status := p.status }

/-- The whole course of a process: at its end it does what it was told to do then. -/
def course : Nat → Run Unit → Run Unit
  | 0, _ => throw .hang
  | n + 1, x => do
    let ending : Escape → Run Unit
      | .killed k => throw (.killed k)
      | .hang => throw .hang
      | _ => return
    tryCatch x ending
    match (← ofProcess Process.traps).lookup 0 with
    | none => return
    | some action =>
      changeProcess fun p =>
        { p with traps := p.traps.filter (·.1 ≠ 0), inside := none, loops := 0 }
      tryCatch (act n action) ending

/-- Runs something in a process below the current one. -/
def forked : Nat → Run Unit → Run Unit
  | 0, _ => throw .hang
  | n + 1, x =>
    inProcess do
      below
      course n x

/-- Starts a script in the background. -/
def background : Nat → Script → Run Unit
  | 0, _ => throw .hang
  | n + 1, s => do
    let before ← ofProcess id
    let job : Job ← tryCatch
      (do
        forked n do
          lead 0 (some .nowhere)
          run n s
        let p ← ofProcess id
        return ⟨some p.now, p.status⟩)
      (fun
        | .killed k => throw (.killed k)
        | _ => return ⟨none, 0⟩)
    changeProcess fun _ => { before with jobs := before.jobs ++ [job], status := 0 }

/-- Carries out the rounds of a loop; the last argument is the status of the last round. -/
def rounds : Nat → Bool → Script → Script → Nat → Run Unit
  | 0, _, _, _, _ => throw .hang
  | n + 1, reversed, condition, body, last => do
    match ← round do
      if (← asCondition (run n condition)) != reversed then
        run n body
        return .again
      else return .done with
    | .again => rounds n reversed condition body (← ofProcess Process.status)
    | .left => return
    | .done => setStatus last

/-- Carries out a body for each value. -/
def eachOf : Nat → String → List String → Script → Run Unit
  | 0, _, _, _ => throw .hang
  | _ + 1, _, [], _ => return
  | n + 1, name, v :: vs, body => do
    assign name v
    match ← round do
      run n body
      return .again with
    | .again => eachOf n name vs body
    | _ => return

/-- Carries out the first arm of which a pattern fits a text. -/
def armOf : Nat → List UInt8 → List (List Word × Script) → Run Unit
  | 0, _, _ => throw .hang
  | _ + 1, _, [] => setStatus 0
  | n + 1, text, (patterns, body) :: arms => do
    if ← fitsOne n text patterns then
      if body matches .nothing then setStatus 0 else run n body
    else armOf n text arms

/-- Whether one of some patterns fits a text. -/
def fitsOne : Nat → List UInt8 → List Word → Run Bool
  | 0, _, _ => throw .hang
  | _ + 1, _, [] => return false
  | n + 1, text, p :: ps => do
    let pattern := patternOf (joinedMarks (← expand n {} .word true p))
    if PatternPart.fits pattern text then return true else fitsOne n text ps

/-- Carries out the stages of a pipeline. -/
def stagesOf : Nat → List Script → Run Unit
  | 0, _ => throw .hang
  | _ + 1, [] => return
  | n + 1, [s] => forked n (run n s)
  | n + 1, s :: ss => do
    let f ← reading true do
      below
      course n (run n s)
    let h ← newSource f
    let handles ← ofProcess Process.handles
    lead 0 (some h)
    afterwards (stagesOf n ss) fun p => { p with handles }

/-- Runs something under redirections, and says whether they were possible. -/
def redirecting : Nat → List Redirection → Run Unit → Run Bool
  | 0, _, _ => throw .hang
  | n + 1, rs, x => do
    let handles ← ofProcess Process.handles
    afterwards (do
      if ← redirectAll n rs then
        x
        return true
      else return false) fun p => { p with handles }

/-- Makes redirections, and says whether all were possible. -/
def redirectAll : Nat → List Redirection → Run Bool
  | 0, _ => throw .hang
  | _ + 1, [] => return true
  | n + 1, r :: rs => do
    let target := joinedText (← expand n {} .word true r.target)
    if ← redirect r target then redirectAll n rs else return false

/-- Carries out a simple command. -/
def simple : Nat → List (String × Word) → List Word → List Redirection → Run Unit
  | 0, _, _, _ => throw .hang
  | n + 1, assignments, words, redirections => do
    let handles ← ofProcess Process.handles
    let declaring := words.head?.any fun w => (Word.plain? w).any declaringCommands.contains
    match behindCommand (words.length + 1) false (← fieldsOfWords n declaring words) with
    | none | some (_, []) =>
      let ok ← redirecting n redirections do
        trace n handles (← assignAll n assignments) []
      if ok then setStatus (← ofProcess Process.answer) else setStatus 2
    | some (plain, name :: args) =>
      let special := !plain && specialCommands.contains name
      let shown := (List.replicate (if plain then 1 else 0) "command") ++ name :: args
      if name = "exec" && args.isEmpty then
        if ← redirectAll n redirections then
          trace n handles (← assignAll n assignments) shown
          setStatus 0
        else
          setStatus 2
          if special then throw .fault
      else
        let x : Run Unit := do
          let before ← ofProcess Process.bindings
          let assigned ← assignAll n assignments
          trace n handles assigned shown
          if special || assigned.isEmpty then command n special plain name args
          else
            assigned.forM fun a => setVariable a.1 fun v => { v with exported := true }
            afterwards (command n special plain name args) fun p =>
              { p with
                bindings := assigned.foldl (fun bs a =>
                  ((before.lookup a.1).toList.map (a.1, ·)) ++ bs.filter (·.1 ≠ a.1)) p.bindings }
        if !(← redirecting n redirections x) then
          setStatus 2
          if special then throw .fault

/-- Writes a command where that is asked for, to where messages went before its redirections. -/
def trace : Nat → List (Nat × Handle) → List (String × String) → List String → Run Unit
  | 0, _, _, _ => throw .hang
  | _ + 1, handles, assigned, words => do
    if assigned.isEmpty && words.isEmpty then return
    if ← hasOption 'x' then
      let p ← ofProcess id
      let front := (valueOf? p "PS4").getD ""
      let all := assigned.map (fun a => a.1 ++ "=" ++ a.2) ++ words
      changeProcess fun p => { p with handles }
      emit 2 (.ofText (front ++ " ".intercalate all ++ "\n"))
      changeProcess fun q => { q with handles := p.handles }

/-- Makes assignments, and gives the values. -/
def assignAll : Nat → List (String × Word) → Run (List (String × String))
  | 0, _ => throw .hang
  | _ + 1, [] => return []
  | n + 1, (name, w) :: rest => do
    let value := joinedText (← expand n {} .assigned true w)
    assign name value
    return (name, value) :: (← assignAll n rest)

/-- Carries out a command: a function, unless that is ruled out, a command of the shell, or a program. -/
def command : Nat → Bool → Bool → String → List String → Run Unit
  | 0, _, _, _, _ => throw .hang
  | n + 1, special, plain, name, args => do
    let functions ← ofProcess Process.functions
    match (if plain then none else functions.lookup name) with
    | some body => function n body args
    | none =>
      match name, args with
      | "eval", args =>
        asBuiltin special name (text n (" ".intercalate args))
      | "command", args =>
        asBuiltin special name do
          let k ← chosen (plainLetters "pvV") args
          match k.rest with
          | [] => setStatus 0
          | what :: _ => describe (k.has 'V') what
      | "type", args => asBuiltin special name (describeAll args)
      | "hash", args => asBuiltin special name (lookFor args)
      | "exec", args =>
        asBuiltin special name do
          let k ← chosen [] args
          match k.rest with
          | [] => setStatus 0
          | what :: rest =>
            let p ← ofProcess id
            if (locate (← get).tree p.dir (searchPath p) what).toOption.isSome then
              changeProcess fun p => { p with traps := p.traps.filter (·.1 ≠ 0) }
            program n what rest
            throw .exit
      | ".", args =>
        asBuiltin special name do
          let k ← chosen [] args
          match k.rest with
          | [] => setStatus 0
          | file :: _ =>
            let path ← scriptPath file
            match (← surroundings).source path with
            | .ok f =>
              changeProcess fun p => { p with inside := some path }
              calling (text n (Utf8.text f.bytes))
            | .error _ => fail ("cannot open " ++ path ++ ": No such file")
      | name, args =>
        match builtin? name args with
        | some x => asBuiltin special name x
        | none => program n name args

/-- Carries out a function. -/
def function : Nat → Script → List String → Run Unit
  | 0, _, _ => throw .hang
  | n + 1, body, args => do
    let outer ← ofProcess id
    deeper
    changeProcess fun p =>
      { p with arguments := args, loops := 0, optionAt := 1, optionTaken := 0, frames := {} :: p.frames }
    afterwards (calling (run n body)) (returned outer)

/-- Starts a program in a process of its own. -/
def program : Nat → String → List String → Run Unit
  | 0, _, _ => throw .hang
  | n + 1, name, args => do
    let p ← ofProcess id
    let fresh (q : Process) : Process :=
      { dir := q.dir, now := q.now, bindings := exportedVariables q, handles := q.handles
        traps := q.traps.filter fun t => t.2 = "" && t.1 ≠ 0, mask := q.mask, depth := q.depth
        name := q.name, line := q.line }
    let tree := (← get).tree
    match locate tree p.dir (searchPath p) name with
    | .error 8 =>
      inProcess do
        changeProcess fun q => { fresh q with number := q.number }
        interpret n p.name ((pathOf? tree p.dir (searchPath p) name).getD name :: args)
    | .error fault =>
      let (message, status) := startFault name fault
      complain message
      setStatus status
    | .ok e =>
      let started : Run Unit := inProcess do
        changeProcess fun q => { fresh q with number := 1000 + q.number }
        deeper
        standard n e.name e.called (e.front ++ args)
      tryCatch started fun
        | .killed k => do
          setStatus (128 + k)
          emit 2 (.ofText (Signal.obituary k))
        | e => throw e

/-- Is a program of the system, called by some name. -/
def standard : Nat → String → String → List String → Run Unit
  | 0, _, _, _ => throw .hang
  | n + 1, name, called, args => do
    if name = "sh" || name = "dash" || name = "bash" then interpret n called args
    else if name = "env" then
      match Settings.take (args.length + 1) args with
      | .error c =>
        emit 2 (.ofText (called ++ ": invalid option -- '" ++ c.toString ++
          "'\nTry '" ++ called ++ " --help' for more information.\n"))
        setStatus 125
      | .ok k =>
        let before ← ofProcess exportedVariables
        let left := (if k.empty then [] else before).filter fun v => !k.removed.contains v.1
        changeProcess fun p => { p with bindings := left }
        k.assigned.forM fun (name, v) => setVariable name fun _ => { value := some v, exported := true }
        match k.command with
        | [] =>
          let vs ← ofProcess exportedVariables
          say (String.join (vs.reverse.map fun (k, v) => k ++ "=" ++ v.value.getD "" ++ "\n"))
          setStatus 0
        | what :: rest =>
          let p ← ofProcess id
          let path := if (valueOf? p "PATH").isSome then searchPath p else defaultPath
          match locate (← get).tree p.dir path what with
          | .ok e => standard n e.name e.called (e.front ++ rest)
          | .error fault =>
            let why := if fault = 13 then "Permission denied" else "No such file or directory"
            emit 2 (.ofText (called ++ ": '" ++ what ++ "': " ++ why ++ "\n"))
            setStatus (if fault = 13 then 126 else 127)
    else plainProgram name called args

/-- Is a shell: of a text, of a file, or of its standard input. -/
def interpret : Nat → String → List String → Run Unit
  | 0, _, _ => throw .hang
  | n + 1, called, args => do
    changeProcess fun p => { p with name := called, line := 0, bindings := startingVariables p }
    let (left, script) ← setOptions true (args.length + 1) args
    let words := match left with
      | .arguments ws => ws
      | .cleared => []
    let start (name : String) (arguments : List String) (s : String) : Run Unit := do
      changeProcess fun p => { p with name, arguments, line := 1 }
      course n (text n s)
    if script then
      match words with
      | [] => fail "-c requires an argument"
      | s :: rest => start (rest.head?.getD called) (rest.drop 1) s
    else if words.isEmpty || (← hasOption 's') then
      let input ← inputOf 0
      if input.isEndless then throw .hang
      leaveInput 0 {}
      start called words (Utf8.text input.bytes)
    else
      let file := words.headD ""
      match (← surroundings).source (if file = "-" then "./-" else file) with
      | .ok f => start file (words.drop 1) (Utf8.text f.bytes)
      | .error _ => fail ("cannot open " ++ file ++ ": No such file")

/-- Reads and carries out the text of a script. -/
def text : Nat → String → Run Unit
  | 0, _ => throw .hang
  | n + 1, s => do
    if !(← lines n (readingBound s.length) { rest := s.toList } false) then setStatus 0

/-- Reads and carries out what is left of a script, a command line at a time, and says whether there was any. -/
def lines : Nat → Nat → Source → Bool → Run Bool
  | 0, _, _, _ => throw .hang
  | n + 1, bound, source, found => do
    let aliases ← ofProcess Process.aliases
    match Script.line? bound { source with aliases } with
    | .error f =>
      complainAt f.line f.message
      setStatus 2
      throw .fault
    | .ok none => return found
    | .ok (some (script, rest)) =>
      run n script
      lines n bound rest (found || !(script matches .nothing))

/-- What the pieces of a word come to; the flag says whether they stand at its start. -/
def expand : Nat → Manner → Tildes → Bool → Word → Run (List Expanded)
  | 0, _, _, _, _ => throw .hang
  | _ + 1, _, _, _, [] => return []
  | n + 1, how, tildes, first, p :: ps => do
    let here ← match p with
      | .text s =>
        if how.quoted then pure [.text (mark true s)]
        else pure (textIn (← ofProcess id) tildes first ps.isEmpty s)
      | p => expandPiece n how p
    return here ++ (← expand n how tildes false ps)

/-- What a piece of a word comes to that is no text. -/
def expandPiece : Nat → Manner → Piece → Run (List Expanded)
  | 0, _, _ => throw .hang
  | n + 1, how, piece => do
    let value (s : String) : List Expanded := [.value how.quoted s]
    match piece with
    | .text s => return [.text (mark how.quoted s)]
    | .quoted [.parameter "@" none] => expandPiece n { how with quoted := true } (.parameter "@" none)
    | .quoted ps => return .text [] :: (← expand n { how with quoted := true } .none false ps)
    | .length name =>
      let p ← ofProcess id
      match parameter? p name with
      | some v => return value (toString v.utf8ByteSize)
      | none =>
        if p.options.contains 'u' && name ≠ "@" && name ≠ "*" then fail (name ++ ": parameter not set")
        return value "0"
    | .output script =>
      let before ← ofProcess Process.status
      let f ← reading false do
        below
        course n (run n script)
      let answer ← ofProcess Process.status
      changeProcess fun p => { p with answer, status := before }
      if f.isEndless then throw .hang
      let written := Utf8.text (f.bytes.filter (· ≠ 0))
      let kept := (written.toList.reverse.dropWhile (· = '\n')).reverse
      return value (String.ofList kept)
    | .number expression =>
      let source := joinedText (← expand n { quoted := true } .none false expression)
      let p ← ofProcess id
      match Expression.evaluate (fun name => (parameter? p name).getD "") source with
      | .ok (v, assigned) =>
        assigned.forM fun (name, v) => assign name (toString v)
        return value (toString v)
      | .error why => fail (why.message source)
    | .bad => fail "Bad substitution"
    | .parameter name none =>
      let p ← ofProcess id
      if how.full && (name = "@" || (name = "*" && !how.quoted)) then
        return Expanded.each how.quoted p.arguments
      match parameter? p name with
      | some v => return value v
      | none =>
        if p.options.contains 'u' && name ≠ "@" && name ≠ "*" then fail (name ++ ": parameter not set")
        return value ""
    | .parameter name (some (change, w)) =>
      let p ← ofProcess id
      let old := parameter? p name
      let missing (empty : Bool) : Bool := old.isNone || (empty && old = some "")
      let kept : Run (List Expanded) := expandPiece n how (.parameter name none)
      let other : Run (List Expanded) := do
        let es ← expand n how (if how.quoted then .none else .word) true w
        return if how.quoted then es else es.map Expanded.inValue
      match change with
      | .orElse empty => if missing empty then other else kept
      | .andThen empty => if missing empty then return (if how.quoted then [.text []] else []) else other
      | .assign empty =>
        if missing empty then
          let v := joinedText (← expand n { how with full := false } .word true w)
          demandName name
          assign name v
          return value v
        else kept
      | .demand empty =>
        if missing empty then
          let v := joinedText (← expand n { how with full := false } .word true w)
          let unset := if empty then "parameter not set or null" else "parameter not set"
          fail (name ++ ": " ++ if v = "" then unset else v)
        else kept
      | change =>
        if old.isNone && p.options.contains 'u' then fail (name ++ ": parameter not set")
        let pattern := joinedMarks (← expand n {} .word true w)
        return value (cut change pattern (old.getD ""))

/-- The fields of words; the flag says whether assignments among them are no fields to be split. -/
def fieldsOfWords : Nat → Bool → List Word → Run (List String)
  | 0, _, _ => throw .hang
  | _ + 1, _, [] => return []
  | n + 1, declaring, w :: ws => do
    let first : List String ← match (if declaring then assignment? w else none) with
      | some (name, value) => do
        let v := joinedText (← expand n {} .assigned true value)
        pure [name ++ "=" ++ v]
      | none => do
        let es ← expand n { full := true } .word true w
        let s ← get
        let found := fields (separators s.process) es
        pure (if s.process.options.contains 'f' then found.map unmarked
          else found.flatMap (fieldsOf s.tree s.process.dir))
    let rest ← fieldsOfWords n declaring ws
    return first ++ rest

end

end Shell

end Multilint
