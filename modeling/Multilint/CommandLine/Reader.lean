import Multilint.CommandLine.Basic
import Multilint.Text.Numeral
/-!
# Reading command lines

Arguments are read from left to right. An option that takes its value from the next argument is pending
until something else follows: only then is it looked at whether the value is there, whether the option
was given before, and whether the value can be read. So of two mistakes the one that shows first wins,
and a pending option is looked at before the argument that settles it, unless that one is unknown.
-/

namespace Multilint

/-- An option without a value. -/
inductive Switch where
  /-- Much is said. -/
  | verbose
  /-- Walks go into directories of dependencies. -/
  | includeVenv
  /-- Tools run even when they conflict. -/
  | ignoreConflicts
  /-- A tool that does not pass the version gate ends the run. -/
  | strict
  /-- No progress is shown. -/
  | noProgress
  deriving DecidableEq, Repr

/-- The name of a switch. -/
def Switch.name : Switch → String
  | .verbose => "verbose"
  | .includeVenv => "include-venv"
  | .ignoreConflicts => "ignore-conflicts"
  | .strict => "strict"
  | .noProgress => "no-progress"

/-- An option with a value. -/
inductive Setting where
  /-- Where the root is looked for. -/
  | repoRoot
  /-- The tools to run. -/
  | tools
  /-- The exclude patterns. -/
  | exclude
  /-- The key of the format. -/
  | outputFormat
  /-- The seconds a command of any tool may take. -/
  | timeout
  deriving DecidableEq, Repr

namespace Setting

/-- The name of a setting. -/
def name : Setting → String
  | .repoRoot => "repo-root"
  | .tools => "tools"
  | .exclude => "exclude"
  | .outputFormat => "output-format"
  | .timeout => "timeout"

/-- Whether a text can be the value of a setting. -/
def admits : Setting → String → Bool
  | .timeout, text => (Numeral.unsigned64? text.toList).isSome
  | _, _ => true

end Setting

/-- The arguments that a command takes. -/
structure Usage where
  /-- The options without a value. -/
  switches : List Switch
  /-- The options with a value. -/
  settings : List Setting
  /-- Whether it takes words. -/
  words : Bool
  /-- Whether it answers which version this is. -/
  version : Bool

/-- What one argument is. -/
inductive Argument where
  /-- An option behind two dashes, and the value after its equals sign. -/
  | long (name : String) (value : Option String)
  /-- Letters behind one dash. -/
  | short (letters : List Char)
  /-- Anything else; a dash alone is a word. -/
  | word (text : String)
  deriving DecidableEq, Repr

/-- What a text is as an argument. -/
def Argument.ofText (s : String) : Argument :=
  match s.toList with
  | '-' :: '-' :: cs =>
    let name := String.ofList (cs.takeWhile (· ≠ '='))
    match cs.dropWhile (· ≠ '=') with
    | [] => .long name none
    | _ :: value => .long name (some (String.ofList value))
  | '-' :: c :: cs => .short (c :: cs)
  | _ => .word s

/-- What has been read of a command's arguments. -/
structure Given where
  /-- The switches. -/
  switches : List Switch := []
  /-- The settings and their values. -/
  settings : List (Setting × String) := []
  /-- The words. -/
  words : List String := []
  /-- A setting that is not yet looked at, and the argument after it. -/
  pending : Option (Setting × Option String) := none
  deriving DecidableEq, Repr

namespace Given

/-- The value of a setting. -/
def value? (g : Given) (s : Setting) : Option String :=
  g.settings.lookup s

/-- A switch that was given, as it overrides the settings file. -/
def switch? (g : Given) (s : Switch) : Option Bool :=
  if g.switches.contains s then some true else none

/-- Looks at the pending setting. -/
def settle (g : Given) : Except Halt Given :=
  match g.pending with
  | none => .ok g
  | some (_, none) => .error .valueMissing
  | some (s, some text) =>
    if (g.value? s).isSome then .error .givenTwice
    else if !s.admits text then .error .valueUnreadable
    else .ok { g with settings := g.settings ++ [(s, text)], pending := none }

/-- The next setting. A value behind the equals sign is looked at at once. -/
def addSetting (g : Given) (s : Setting) (value : Option String) : Except Halt Given := do
  let g := { ← g.settle with pending := some (s, value) }
  if value.isSome then g.settle else return g

/-- The next switch. -/
def addSwitch (g : Given) (s : Switch) : Except Halt Given := do
  let g ← g.settle
  if g.switches.contains s then throw .givenTwice
  return { g with switches := g.switches ++ [s] }

/-- The next word that is no value. -/
def addWord (u : Usage) (g : Given) (text : String) : Except Halt Given := do
  if !u.words then throw .unknownArgument
  let g ← g.settle
  return { g with words := g.words ++ [text] }

/-- An argument that asks for something else than an order. -/
def halt (g : Given) (h : Halt) : Except Halt Given := do
  let _ ← g.settle
  throw h

/-- The next option behind two dashes. -/
def addLong (u : Usage) (g : Given) (name : String) (value : Option String) : Except Halt Given :=
  match u.settings.find? (·.name = name), u.switches.find? (·.name = name) with
  | some s, _ => g.addSetting s value
  | none, some s => if value.isSome then .error .valueUnwanted else g.addSwitch s
  | none, none =>
    if name = "help" || (name = "version" && u.version) then
      if value.isSome then .error .valueUnwanted
      else g.halt (if name = "help" then .help else .version)
    else .error .unknownArgument

/-- The next letters behind one dash. The first one decides. -/
def addShort (u : Usage) (g : Given) : List Char → Except Halt Given
  | 'h' :: _ => g.halt .help
  | 'V' :: _ => if u.version then g.halt .version else .error .unknownArgument
  | _ => .error .unknownArgument

/-- The next argument. -/
def add (u : Usage) (g : Given) (text : String) : Except Halt Given :=
  match Argument.ofText text with
  | .long name value => addLong u g name value
  | .short letters => addShort u g letters
  | .word text =>
    match g.pending with
    | some (s, none) => .ok { g with pending := some (s, some text) }
    | _ => addWord u g text

/-- All arguments of a command. Behind two dashes alone everything is a word. -/
def ofArguments (u : Usage) : Given → List String → Except Halt Given
  | g, [] => g.settle
  | g, a :: rest => do
    if a = "--" then
      let g ← rest.foldlM (addWord u) g
      g.settle
    else
      let g ← add u g a
      ofArguments u g rest

end Given

/-! ## Commands -/

/-- The commands. -/
inductive CommandName where
  /-- Says which version this is. -/
  | version
  /-- Runs tools to report findings. -/
  | check
  /-- Runs tools to mend findings. -/
  | fmt
  /-- Lists the tools. -/
  | listTools
  /-- Explains the commands. -/
  | help
  deriving DecidableEq, Repr

namespace CommandName

/-- The command of a word. -/
def ofText? : String → Option CommandName
  | "version" => some .version
  | "check" => some .check
  | "fmt" => some .fmt
  | "list-tools" => some .listTools
  | "help" => some .help
  | _ => none

/-- What a run takes. -/
def runUsage : Usage :=
  { switches := [.verbose, .includeVenv, .ignoreConflicts, .strict, .noProgress]
    settings := [.repoRoot, .tools, .exclude, .outputFormat, .timeout]
    words := true, version := false }

/-- What a command takes besides the explanation. -/
def usage : CommandName → Usage
  | .check | .fmt => runUsage
  | .listTools =>
    { switches := [.verbose], settings := [.outputFormat], words := false, version := false }
  | .version | .help => { switches := [.verbose], settings := [], words := false, version := false }

end CommandName

namespace RunArguments

/-- What is given for a run. The run works on the directory it starts in when it is given nothing to work
on. -/
def ofGiven (g : Given) : RunArguments :=
  { inputs := if g.words.isEmpty then ["."] else g.words
    overrides :=
      { repoRoot := g.value? .repoRoot
        tools := (g.value? .tools).map Text.commaList
        exclude := (g.value? .exclude).map Text.commaList
        includeVenv := g.switch? .includeVenv
        outputFormat := g.value? .outputFormat
        timeout := (g.value? .timeout).bind fun s => Numeral.unsigned64? s.toList
        ignoreConflicts := g.switch? .ignoreConflicts
        strict := g.switch? .strict }
    noProgress := g.switches.contains .noProgress }

end RunArguments

namespace CommandLine

/-- What may stand in front of the command. -/
def outerUsage : Usage :=
  { switches := [.verbose], settings := [], words := false, version := true }

/-- The order of a command with the arguments given for it. -/
def orderOf (c : CommandName) (g : Given) : Except Halt Order :=
  match c with
  | .version => .ok .version
  | .check => .ok (.run .check (.ofGiven g))
  | .fmt => .ok (.run .fix (.ofGiven g))
  | .listTools => .ok (.listTools (g.value? .outputFormat))
  | .help => .error .help

/-- The end of a command line without a command. -/
def missing (outer : Given) : Halt :=
  if outer.switches.isEmpty then .nothingGiven else .noCommand

/-- What the explanation of commands comes to: it explains one command, or all of them. -/
def explain : List String → Halt
  | [] => .help
  | [name] => if (CommandName.ofText? name).isSome then .help else .unknownCommand
  | _ => .unknownCommand

/-- A command and its arguments. -/
def ofCommand (outer : Given) (c : CommandName) (rest : List String) : Except Halt CommandLine :=
  if c = .help then .error (explain rest)
  else do
    let g ← Given.ofArguments c.usage {} rest
    return ⟨outer.switches.contains .verbose || g.switches.contains .verbose, ← orderOf c g⟩

/-- The command line that goes on with given arguments. -/
def readOn (outer : Given) : List String → Except Halt CommandLine
  | [] => .error (missing outer)
  | a :: rest =>
    if a = "--" then
      match rest with
      | [] => .error (missing outer)
      | w :: _ =>
        .error (if (CommandName.ofText? w).isSome then .unknownArgument else .unknownCommand)
    else
      match Argument.ofText a with
      | .word w =>
        match CommandName.ofText? w with
        | some c => ofCommand outer c rest
        | none => .error .unknownCommand
      | _ => do
        let outer ← Given.add outerUsage outer a
        readOn outer rest

/-- The command line of given arguments. -/
def ofArguments (arguments : List String) : Except Halt CommandLine :=
  readOn {} arguments

end CommandLine

end Multilint
