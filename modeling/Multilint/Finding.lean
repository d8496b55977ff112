import Multilint.Severity
/-!
# Findings

A finding is one record of what a tool reports, in the form all tools share. Three codes mark the
findings that stand for a command that gave no usable output.
-/

namespace Multilint

/-- One record of what a tool reports. -/
structure Finding where
  /-- The file it is about, as the tool names it. -/
  file : String
  /-- What is the matter. -/
  message : String
  /-- The line, where the tool gives one. -/
  line : Option Nat := none
  /-- The column, where the tool gives one. -/
  column : Option Nat := none
  /-- The rule that was broken; empty where the tool names none. -/
  code : String := ""
  /-- How serious it is. -/
  severity : Severity := .error
  /-- The tool can mend it by itself. -/
  fixable : Bool := false
  deriving DecidableEq, Repr, Inhabited

namespace Finding

/-- The code of a command that ran too long. -/
def timeoutCode : String := "TIMEOUT"

/-- The code of a command that could not be run, or failed without a finding. -/
def runCode : String := "EXEC"

/-- The code of output that its reader refused. -/
def outputCode : String := "PARSE"

/-- The record of a command that ran longer than it may. -/
def timedOut (file : String) (seconds : Nat) : Finding :=
  { file, code := timeoutCode,
    message := "Skipped: execution timed out (" ++ toString seconds ++ "s limit exceeded)" }

/-- The record of a command that could not be run, or failed without a finding. -/
def notRun (file message : String) : Finding :=
  { file, message, code := runCode }

/-- The record of output that its reader refused. -/
def notRead (file message : String) : Finding :=
  { file, message, code := outputCode }

/-- Whether a finding has the code of a command without usable output. -/
def isSynthetic (f : Finding) : Bool :=
  f.code == timeoutCode || f.code == runCode || f.code == outputCode

end Finding

end Multilint
