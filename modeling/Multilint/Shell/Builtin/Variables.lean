import Multilint.Shell.Options
/-!
# Commands about variables

Commands that set and show variables, the arguments of a script and aliases, and those that take values from the
input and from arguments.
-/

namespace Multilint

namespace Shell

/-- A text in quotes as a script would write it: single quotes around everything but single quotes, which stand in
double ones. -/
def quoting : Nat → List Char → List Char
  | 0, _ => []
  | n + 1, s =>
    let plain := s.takeWhile (· ≠ '\'')
    let behind := s.drop plain.length
    let quotes := behind.takeWhile (· = '\'')
    let rest := behind.drop quotes.length
    ('\'' :: plain ++ ['\'']) ++
      if quotes.isEmpty then [] else ('"' :: quotes ++ ['"']) ++ if rest.isEmpty then [] else quoting n rest

/-- A text in quotes. -/
def quotedText (s : String) : String :=
  String.ofList (quoting (s.length + 1) s.toList)

/-- A fault for what is no name. -/
def demandName (s : String) : Run Unit := do
  if !isName s.toList then fail (s ++ ": bad variable name")

/-- Gives a variable a value, by a name that need not be one. -/
def assignNamed (name value : String) : Run Unit := do
  demandName name
  assign name value

/-- The name and the value of an assignment. -/
def splitAssignment (s : String) : String × Option String :=
  let name := s.toList.takeWhile (· ≠ '=')
  match s.toList.drop name.length with
  | _ :: value => (String.ofList name, some (String.ofList value))
  | [] => (s, none)

/-- Whether a text comes before another one in the order of bytes. -/
def bytesLe (a b : String) : Bool :=
  Flow.notAfter (Utf8.bytes a) (Utf8.bytes b)

/-- The list of variables that are chosen, each behind a word. -/
def variableList (front : String) (bare : Bool) (choose : Variable → Bool) : Run String := do
  let p ← ofProcess id
  let chosen := p.bindings.filter fun b => choose b.2 && (bare || b.2.value.isSome)
  let sorted := chosen.mergeSort fun a b => bytesLe a.1 b.1
  return String.join (sorted.map fun (name, v) =>
    front ++ name ++ (match v.value with | some s => "=" ++ quotedText s | none => "") ++ "\n")

namespace Builtin

/-- `set`: options and the arguments of the script. -/
def set (args : List String) : Run Unit := do
  if args.isEmpty then say (← variableList "" false fun _ => true)
  else
    let (left, _) ← setOptions false (args.length + 1) args
    let replace (args : List String) : Run Unit :=
      changeProcess fun p => { p with arguments := args, optionAt := 1, optionTaken := 0 }
    match left with
    | .cleared => replace []
    | .arguments [] => return
    | .arguments rest => replace rest
  setStatus 0

/-- `export` and `readonly`: change variables in a way, with new values or without, or show those that were changed
in that way. -/
def mark (name : String) (change : Variable → Variable) (changed : Variable → Bool) (args : List String) :
    Run Unit := do
  let k ← chosen (plainLetters "p") args
  if k.has 'p' || k.rest.isEmpty then say (← variableList (name ++ " ") true changed)
  else
    k.rest.forM fun a => do
      let (name, value) := splitAssignment a
      demandName name
      if let some v := value then assign name v
      setVariable name change
  setStatus 0

/-- `local`: lets a variable or the options be as they were at the end of the function. -/
def makeLocal (args : List String) : Run Unit := do
  if (← ofProcess Process.frames).isEmpty then fail "not in a function"
  args.forM fun a => do
    let change (f : Process → Frame → Frame) : Run Unit :=
      changeProcess fun p =>
        match p.frames with
        | frame :: rest => { p with frames := f p frame :: rest }
        | [] => p
    if a = "-" then change fun p frame => { frame with options := some (frame.options.getD p.options) }
    else
      let (name, value) := splitAssignment a
      demandName name
      change fun p frame => { frame with saved := (name, binding? p name) :: frame.saved }
      if let some v := value then assign name v
  setStatus 0

/-- `unset`. -/
def unset (args : List String) : Run Unit := do
  let k ← chosen (plainLetters "vf") args
  if k.has 'f' then
    changeProcess fun p => { p with functions := p.functions.filter fun f => !k.rest.contains f.1 }
  else
    k.rest.forM fun name => do
      demandName name
      let p ← ofProcess id
      if (binding? p name).any Variable.fixed then fail (name ++ ": is read only")
      changeProcess fun p => { p with bindings := p.bindings.filter (·.1 ≠ name) }
  setStatus 0

/-- A whole number that an argument of a command says. -/
def number (s : String) : Run Nat :=
  match Numeral.signed64? false s.toList with
  | some n => if 0 ≤ n && n < 0x80000000 then return n.toNat else fail ("Illegal number: " ++ s)
  | none => fail ("Illegal number: " ++ s)

/-- `shift`. -/
def shift (args : List String) : Run Unit := do
  let n ← match args with
    | [] => pure 1
    | a :: _ => number a
  if n > (← ofProcess Process.arguments).length then fail "can't shift that many"
  changeProcess fun p =>
    { p with arguments := p.arguments.drop n, optionAt := 1, optionTaken := 0, status := 0 }

/-! ## Lines of the input -/

/-- A character of a line, and whether a backslash stood in front of it. -/
abbrev Read := Char × Bool

/-- The characters of a line; a backslash takes the next one as it is. -/
def unescaped : List Char → List Read
  | '\\' :: c :: cs => (c, true) :: unescaped cs
  | ['\\'] => []
  | c :: cs => (c, false) :: unescaped cs
  | [] => []

/-- Whether a line ends with a backslash that keeps the end of the line from its meaning. -/
def goesOn (cs : List Char) : Bool :=
  (cs.reverse.takeWhile (· = '\\')).length % 2 = 1

/-- The next line of the standard input, of at most so many joined ones, and whether it has an end. -/
def nextLine (raw : Bool) : Nat → Run (List Read × Bool)
  | 0 => return ([], false)
  | n + 1 => do
    let (bytes, whole, rest) := (← inputOf 0).firstLine
    leaveInput 0 rest
    let cs := Utf8.characters (bytes.filter (· ≠ 0))
    if raw then return (cs.map (·, false), whole)
    else if goesOn cs && whole then
      let (more, whole) ← nextLine raw n
      return (unescaped (cs.dropLast) ++ more, whole)
    else return (unescaped cs, whole)

/-- What the names of `read` get: a field each, and the last one all that is left. -/
structure Separated where
  /-- Separators that are blanks. -/
  isBlank : Read → Bool
  /-- Separators. -/
  isSeparator : Read → Bool

namespace Separated

/-- What follows a field: blanks with at most one other separator among them. -/
def behind (s : Separated) (cs : List Read) : List Read :=
  match cs.dropWhile s.isBlank with
  | c :: rest => if s.isSeparator c then rest.dropWhile s.isBlank else c :: rest
  | [] => []

/-- The text of characters. -/
def text (cs : List Read) : String :=
  String.ofList (cs.map (·.1))

/-- The fields for so many names. The last one loses the blanks at its end, and the separator behind it if it is a
single field. -/
def fields (s : Separated) : Nat → List Read → List String
  | 0, _ => []
  | 1, cs =>
    let field := cs.takeWhile fun c => !s.isSeparator c
    if (s.behind (cs.drop field.length)).isEmpty then [text field]
    else [text (cs.reverse.dropWhile s.isBlank).reverse]
  | n + 2, cs =>
    let field := cs.takeWhile fun c => !s.isSeparator c
    text field :: fields s (n + 1) (s.behind (cs.drop field.length))

end Separated

/-- `read`. -/
def read (args : List String) : Run Unit := do
  let k ← chosen [('p', true), ('r', false)] args
  if k.rest.isEmpty then fail "arg count"
  let (line, whole) ← nextLine (k.has 'r') (((← inputOf 0).bytes.count Flow.newline) + 2)
  let marks := (separators (← ofProcess id)).toList
  let s : Separated :=
    { isSeparator := fun c => !c.2 && marks.contains c.1
      isBlank := fun c => !c.2 && marks.contains c.1 && [' ', '\t', '\n'].contains c.1 }
  (k.rest.zip (s.fields k.rest.length (line.dropWhile s.isBlank))).forM fun (n, w) => assignNamed n w
  setStatus (if whole then 0 else 1)

/-! ## Options of a script -/

/-- What was found among the arguments: a letter for the variable, the value of `OPTARG` if it gets one, a message,
and where to go on. -/
structure Found where
  /-- The letter. -/
  letter : Char
  /-- The argument of the option. -/
  argument : Option String := none
  /-- A message. -/
  message : String := ""
  /-- The argument that is looked at next, counted from one. -/
  optionAt : Nat
  /-- The characters taken from the argument before that; zero for all. -/
  optionTaken : Nat := 0
  /-- There are no more options. -/
  finished : Bool := false

/-- Whether a letter is among those a script knows, and whether it takes an argument. -/
def knownLetter? (c : Char) : List Char → Option Bool
  | [] => none
  | x :: rest =>
    let takes := rest.head? = some ':'
    if x = c && x ≠ ':' then some takes else knownLetter? c rest

/-- The option at a place of the arguments, given the letters that the script knows. -/
def findOption (known : List Char) (args : List String) (index taken : Nat) : Found :=
  let quiet := known.head? = some ':'
  let inside : List Char :=
    if index ≤ 1 || taken = 0 then [] else ((args[index - 2]?).getD "").toList.drop taken
  let start : Option (List Char × Nat × Nat) :=
    if !inside.isEmpty then some (inside, index, taken)
    else
      match ((args[index - 1]?).getD "").toList with
      | '-' :: c :: cs => if c = '-' && cs.isEmpty then none else some (c :: cs, index + 1, 1)
      | _ => none
  match start with
  | none =>
    let dashes : Bool := inside.isEmpty && args[index - 1]? = some "--"
    { letter := '?', optionAt := if dashes then index + 1 else index, finished := true }
  | some ([], index, _) => { letter := '?', optionAt := index, finished := true }
  | some (c :: cs, index, taken) =>
    let on : Nat := if cs.isEmpty then 0 else taken + 1
    match knownLetter? c (if quiet then known.drop 1 else known) with
    | none =>
      if quiet then { letter := '?', argument := some c.toString, optionAt := index, optionTaken := on }
      else
        { letter := '?', message := "Illegal option -" ++ c.toString ++ "\n", optionAt := index, optionTaken := on }
    | some false => { letter := c, argument := some "", optionAt := index, optionTaken := on }
    | some true =>
      if !cs.isEmpty then { letter := c, argument := some (String.ofList cs), optionAt := index }
      else
        match args[index - 1]? with
        | some a => { letter := c, argument := some a, optionAt := index + 1 }
        | none =>
          if quiet then { letter := ':', argument := some c.toString, optionAt := index }
          else
            { letter := '?', message := "No arg for -" ++ c.toString ++ " option\n", optionAt := index }

/-- `getopts`. -/
def getopts (args : List String) : Run Unit := do
  match args with
  | known :: name :: given => do
    let p ← ofProcess id
    let words := if given.isEmpty then p.arguments else given
    let (index, taken) := if p.optionAt > words.length + 1 then (1, 0) else (p.optionAt, p.optionTaken)
    let found := findOption known.toList words index taken
    emit 2 (.ofText found.message)
    match found.argument with
    | some a => assign "OPTARG" a
    | none =>
      if !found.finished then
        changeProcess fun p => { p with bindings := p.bindings.filter (·.1 ≠ "OPTARG") }
    assign "OPTIND" (toString found.optionAt)
    assignNamed name found.letter.toString
    changeProcess fun p =>
      { p with optionAt := found.optionAt, optionTaken := found.optionTaken }
    setStatus (if found.finished then 1 else 0)
  | _ => fail "Usage: getopts optstring var [arg...]"

/-! ## Aliases -/

/-- An alias as it is listed. -/
def aliasLine (a : String × String) : String :=
  a.1 ++ "=" ++ quotedText a.2 ++ "\n"

/-- `alias`. -/
def setAliases (args : List String) : Run Unit := do
  setStatus 0
  if args.isEmpty then
    let all := (← ofProcess Process.aliases).mergeSort fun a b => bytesLe a.1 b.1
    say (String.join (all.map aliasLine))
  args.forM fun a => do
    match splitAssignment a with
    | (name, some text) =>
      changeProcess fun p => { p with aliases := (name, text) :: p.aliases.filter (·.1 ≠ name) }
    | (name, none) =>
      match (← ofProcess Process.aliases).lookup name with
      | some text => say (aliasLine (name, text))
      | none =>
        emit 2 (.ofText ("alias: " ++ name ++ " not found\n"))
        setStatus 1

/-- `unalias`. -/
def unalias (args : List String) : Run Unit := do
  let k ← chosen (plainLetters "a") args
  setStatus 0
  if k.has 'a' then changeProcess fun p => { p with aliases := [] }
  else
    k.rest.forM fun name => do
      if ((← ofProcess Process.aliases).lookup name).isNone then
        emit 2 (.ofText ("unalias: " ++ name ++ " not found\n"))
        setStatus 1
      changeProcess fun p => { p with aliases := p.aliases.filter (·.1 ≠ name) }

end Builtin

end Shell

end Multilint
