import Multilint.Shell.State
/-!
# Options of commands and of the shell

Commands take options from the front of their arguments: letters behind a dash, some of them with an argument. The
shell's own options have letters and names, and a plus sign turns them off.
-/

namespace Multilint

namespace Shell

/-- The options at the front of arguments, with their arguments, and the arguments left. -/
structure Chosen where
  /-- The options. -/
  options : List (Char × String)
  /-- The arguments. -/
  rest : List String

namespace Chosen

/-- The letters of an option word, of which some take the rest of the word or the next one. -/
def letters (known : List (Char × Bool)) (rest : List String) :
    List Char → Except String Chosen
  | [] => .ok ⟨[], rest⟩
  | c :: cs =>
    match known.lookup c with
    | none => .error ("Illegal option -" ++ c.toString)
    | some false => (letters known rest cs).map fun k => { k with options := (c, "") :: k.options }
    | some true =>
      if !cs.isEmpty then .ok ⟨[(c, String.ofList cs)], rest⟩
      else
        match rest with
        | [] => .error ("No arg for -" ++ c.toString ++ " option")
        | a :: rest => .ok ⟨[(c, a)], rest⟩

/-- Takes options from at most so many words. -/
def take (known : List (Char × Bool)) : Nat → List String → Except String Chosen
  | 0, args => .ok ⟨[], args⟩
  | _, [] => .ok ⟨[], []⟩
  | n + 1, a :: rest =>
    match a.toList with
    | ['-', '-'] => .ok ⟨[], rest⟩
    | '-' :: c :: cs => do
      let k ← letters known rest (c :: cs)
      let more ← take known n k.rest
      return ⟨k.options ++ more.options, more.rest⟩
    | _ => .ok ⟨[], a :: rest⟩

/-- Whether an option was chosen. -/
def has (k : Chosen) (c : Char) : Bool :=
  k.options.any (·.1 = c)

end Chosen

/-- The options and the arguments of a command that knows some letters. -/
def chosen (known : List (Char × Bool)) (args : List String) : Run Chosen :=
  match Chosen.take known (args.length + 1) args with
  | .ok k => return k
  | .error why => fail why

/-- Letters that take no argument. -/
def plainLetters (s : String) : List (Char × Bool) :=
  s.toList.map (·, false)

/-! ## Options of the shell -/

/-- The names of the shell's options and their letters, as they are listed. -/
def optionNames : List (String × Option Char) :=
  [("errexit", some 'e'), ("noglob", some 'f'), ("ignoreeof", some 'I'), ("interactive", some 'i'),
    ("monitor", some 'm'), ("noexec", some 'n'), ("stdin", some 's'), ("xtrace", some 'x'),
    ("verbose", some 'v'), ("vi", some 'V'), ("emacs", some 'E'), ("noclobber", some 'C'),
    ("allexport", some 'a'), ("notify", some 'b'), ("nounset", some 'u'), ("privileged", some 'p'),
    ("nolog", none), ("debug", none)]

/-- Turns an option on or off. -/
def setOption (letter : Char) (on : Bool) : Run Unit := do
  if !optionNames.any fun o => o.2 = some letter then fail ("Illegal option -" ++ letter.toString)
  if letter = 'm' && on then complain "can't access tty; job control turned off"
  else
    changeProcess fun p =>
      { p with options := (if on then [letter] else []) ++ p.options.filter (· ≠ letter) }

/-- The list of all options, as settings or as commands that make them. -/
def optionList (asCommands : Bool) : Run String := do
  let p ← ofProcess id
  let isOn (o : String × Option Char) : Bool := o.2.any p.options.contains
  let line (o : String × Option Char) : String :=
    if asCommands then "set " ++ (if isOn o then "-" else "+") ++ "o " ++ o.1 ++ "\n"
    else o.1 ++ String.ofList (List.replicate (16 - o.1.length) ' ') ++ (if isOn o then "on\n" else "off\n")
  return (if asCommands then "" else "Current option settings\n") ++ String.join (optionNames.map line)

/-- Turns an option on or off by its name; without one all are listed. -/
def setNamedOption (name : Option String) (on : Bool) : Run Unit := do
  match name with
  | none => say (← optionList (!on))
  | some name =>
    match optionNames.lookup name with
    | some (some letter) => setOption letter on
    | some none => return
    | none => fail ("Illegal option -o " ++ name)

/-- What the arguments of `set` or of a shell leave behind the options. -/
inductive Leftover where
  /-- The arguments that follow the options. -/
  | arguments (args : List String)
  /-- Two dashes and nothing else. -/
  | cleared

/-- The options that letters behind a sign turn on or off; the flag says whether a shell starts with them. Gives the
words left, and whether a script follows. -/
def setLetters (starting on : Bool) (rest : List String) : List Char → Run (List String × Bool)
  | [] => return (rest, false)
  | c :: cs => do
    if starting && c = 'c' then
      let (rest, _) ← setLetters starting on rest cs
      return (rest, true)
    else if starting && c = 'l' then setLetters starting on rest cs
    else if c = 'o' then
      setNamedOption rest.head? on
      setLetters starting on (rest.drop 1) cs
    else
      setOption c on
      setLetters starting on rest cs

/-- Sets options from at most so many words. -/
def setOptions (starting : Bool) : Nat → List String → Run (Leftover × Bool)
  | 0, args => return (.arguments args, false)
  | _, [] => return (.arguments [], false)
  | n + 1, a :: rest => do
    match a.toList with
    | ['-'] =>
      if !starting then
        changeProcess fun p => { p with options := p.options.filter fun c => c ≠ 'x' && c ≠ 'v' }
      return (.arguments rest, false)
    | ['-', '-'] => return (if rest.isEmpty then .cleared else .arguments rest, false)
    | '-' :: cs =>
      let (rest, script) ← setLetters starting true rest cs
      let (left, more) ← setOptions starting n rest
      return (left, script || more)
    | '+' :: cs =>
      let (rest, script) ← setLetters starting false rest cs
      let (left, more) ← setOptions starting n rest
      return (left, script || more)
    | _ => return (.arguments (a :: rest), false)

end Shell

end Multilint
