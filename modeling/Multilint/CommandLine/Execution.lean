import Multilint.Catalog.Tools
import Multilint.CommandLine.Reader
import Multilint.Format.Report
/-!
# Carrying out command lines

The report goes to standard output, notes go to standard error. A format for programs comes without notes,
but a failure is told in any case, and its status is the exit status.
-/

namespace Multilint

/-- The variables of the environment that matter. -/
structure Environment where
  /-- Colours are refused, whatever the value. -/
  noColor : Option String := none
  /-- The seconds a version command may take. -/
  versionTimeout : Option String := none
  deriving DecidableEq, Repr

/-- What an invocation prints, and how it ends. -/
structure Printout where
  /-- The exit status. -/
  exitCode : Nat
  /-- What goes to standard output. -/
  out : String := ""
  /-- What goes to standard error. -/
  err : String := ""
  deriving DecidableEq, Repr

namespace Environment

/-- Whether notes have colours. -/
def color (e : Environment) : Bool :=
  e.noColor.isNone

/-- Whether a report in a format has colours. -/
def colors (e : Environment) (f : OutputFormat) : Bool :=
  f.forTerminal && e.color

/-- A line with a note. -/
def noteLine (e : Environment) (k : NoteKind) (text : String) : String :=
  k.lead e.color ++ " " ++ text ++ "\n"

end Environment

namespace CommandLine

/-- The version of this program. -/
def versionText : String := "0.1.0"

/-- A text as lines; nothing for an empty one. -/
def printed (text : String) : String :=
  if text = "" then "" else text ++ "\n"

/-- The printed report. -/
def reportText (env : Environment) (stamp : String) (f : OutputFormat) (r : Report) : String :=
  match f with
  | .json => printed (r.document Catalog.toolbox stamp).pretty
  | _ => printed ((r.render Catalog.toolbox f stamp).text f stamp (env.colors f))

/-- The end of a run that gives no report. -/
def failed (env : Environment) (notes : String) (f : Failure) : Printout :=
  { exitCode := f.exitCode, err := notes ++ env.noteLine .error f.message }

/-- The notes in front of a run: that there is no settings file. -/
def opening (env : Environment) (s : Settings) : String :=
  if OutputFormat.ofKey s.outputFormat ≠ .json && s.file.isNone then
    env.noteLine .note "No metalint.toml found; using defaults."
  else ""

/-- The notes behind a run: that there was nothing to do. -/
def closing (env : Environment) (action : Action) (s : Settings) (r : Report) : String :=
  if OutputFormat.ofKey s.outputFormat ≠ .json && r.results.isEmpty then
    env.noteLine .info ("No tool to run for " ++ action.name ++ ".")
  else ""

variable {σ : Type}

/-- Carries out a run with given settings. -/
def runWith (h : Host σ) (env : Environment) (stamp : String) (action : Action) (a : RunArguments)
    (s : Settings) : Calling σ Printout := do
  let notes := opening env s
  match s.runSettings (← h.files) h.dir action.isFix with
  | .error f => return failed env notes f
  | .ok settings =>
    match ← (run h Catalog.toolbox (s.request a.inputs action) settings).run with
    | .error f => return failed env notes f
    | .ok r =>
      return {
        exitCode := r.exitCode
        out := reportText env stamp (OutputFormat.ofKey s.outputFormat) r
        err := notes ++ closing env action s r }

/-- Carries out a run. -/
def runTools (h : Host σ) (env : Environment) (stamp : String) (action : Action) (a : RunArguments) :
    Calling σ Printout := do
  match Settings.resolve (← h.files) h.dir a.overrides env.versionTimeout with
  | .error f => return failed env "" f
  | .ok s => runWith h env stamp action a s

/-- Carries out an order. -/
def carryOut (h : Host σ) (env : Environment) (stamp : String) : Order → Calling σ Printout
  | .version => return { exitCode := 0, out := printed versionText }
  | .listTools format =>
    return {
      exitCode := 0
      out := Catalog.toolbox.listingText (OutputFormat.ofKey (format.getD "grid")) stamp ++ "\n" }
  | .run action a => runTools h env stamp action a

/-- What is printed for a command line that gives no order. -/
def halted (h : Halt) : Printout :=
  match h with
  | .version => { exitCode := h.exitCode, out := "metalint " ++ versionText ++ "\n" }
  | .help => { exitCode := h.exitCode, out := Halt.usage ++ "\n" }
  | h => { exitCode := h.exitCode, err := "error: " ++ h.message ++ "\n\n" ++ Halt.usage ++ "\n" }

/-- Carries out the command line that arguments make. -/
def perform (h : Host σ) (env : Environment) (stamp : String) (arguments : List String) :
    Calling σ Printout :=
  match ofArguments arguments with
  | .ok c => carryOut h env stamp c.order
  | .error e => return halted e

end CommandLine

end Multilint
