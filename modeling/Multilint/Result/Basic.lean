import Multilint.Finding
/-!
# Results

A run has one result for each of its tools: what the tool found and whether all is well, or why it did not
run. A fixing run also counts what it mended.
-/

namespace Multilint

/-- Why a tool did not run. -/
inductive SkipReason where
  /-- A tool of higher rank conflicts with it. -/
  | conflict (winner : String)
  /-- Its program was not found. -/
  | notInPath
  /-- Its version command ended without success. -/
  | commandFailed
  /-- Its version command printed no version. -/
  | noVersionParsed
  /-- It is older than it must be. -/
  | belowMinimum (found required : String)
  /-- Its version command took too long. -/
  | timeout
  /-- Its version command was not started. -/
  | osError
  deriving DecidableEq, Repr

namespace SkipReason

/-- Whether the version gate kept the tool from running. -/
def isVersionGate : SkipReason → Bool
  | .conflict _ => false
  | _ => true

/-- The kind of a reason. -/
def kind : SkipReason → String
  | .conflict _ => "conflict"
  | .notInPath => "not_in_path"
  | .commandFailed => "command_failed"
  | .noVersionParsed => "no_version_parsed"
  | .belowMinimum _ _ => "below_minimum"
  | .timeout => "timeout"
  | .osError => "os_error"

/-- The label of a reason in a report. -/
def label : SkipReason → String
  | .conflict w => "conflict (with " ++ w ++ ")"
  | .notInPath => "not-in-path"
  | .commandFailed => "command-failed"
  | .noVersionParsed => "no-version-parsed"
  | .belowMinimum found required => "below-minimum (" ++ found ++ " < " ++ required ++ ")"
  | .timeout => "timeout"
  | .osError => "os-error"

/-- A reason in words. -/
def text : SkipReason → String
  | .conflict w => "conflicts with " ++ w
  | .notInPath => "executable not found in PATH"
  | .commandFailed => "version command failed"
  | .noVersionParsed => "could not parse version"
  | .belowMinimum found required => "version " ++ found ++ " is below the minimum " ++ required
  | .timeout => "version command timed out"
  | .osError => "version command could not be run"

end SkipReason

/-- What a fixing run found, mended and left. -/
structure FixCounts where
  /-- The findings there were. -/
  initial : Nat := 0
  /-- The findings that went away. -/
  fixed : Nat := 0
  /-- The findings that stayed. -/
  remaining : Nat := 0
  deriving DecidableEq, Repr, Inhabited

namespace FixCounts

/-- The counts of a check, a fix and a second check. Where the second check finds more than the first,
all it finds counts as found from the start. -/
def ofRecheck (initial remaining : Nat) : FixCounts :=
  let fixed := initial - remaining
  ⟨fixed + remaining, fixed, remaining⟩

/-- The counts of a fix that did not come to its end. -/
def unresolved (initial : Nat) : FixCounts :=
  ⟨initial, 0, initial⟩

/-- The sums of two counts. -/
def add (a b : FixCounts) : FixCounts :=
  ⟨a.initial + b.initial, a.fixed + b.fixed, a.remaining + b.remaining⟩

instance : Add FixCounts := ⟨add⟩

/-- The sums of a list of counts. -/
def sum (cs : List FixCounts) : FixCounts :=
  cs.foldl add {}

end FixCounts

/-- The result of one tool. How many findings it has (`count`) and whether the tool did not run
(`isSkipped`) are read off its fields and not kept beside them, so they cannot differ from them, and the
three counts of a fixing run are there together or not at all. -/
structure ToolResult where
  /-- The tool. -/
  name : String
  /-- Nothing was found and nothing went wrong. -/
  success : Bool
  /-- The findings, those that stand for commands without usable output included. -/
  findings : List Finding := []
  /-- What there is to say besides. -/
  output : Option String := none
  /-- The counts of a fixing run. -/
  counts : Option FixCounts := none
  /-- The findings in the format of the report. -/
  rendered : Option String := none
  /-- Why the tool did not run. -/
  skip : Option SkipReason := none
  deriving DecidableEq, Repr, Inhabited

namespace ToolResult

/-- A text that says something. -/
def meaningful? (s : String) : Option String :=
  if Text.trimmed s = "" then none else some s

/-- The result of a tool that had nothing to do. -/
def message (name text : String) : ToolResult :=
  { name, success := true, output := meaningful? text }

/-- The result of a tool that did not run. -/
def skipped (name : String) (reason : SkipReason) (text : String) : ToolResult :=
  { message name text with skip := some reason }

/-- The number of findings. -/
def count (r : ToolResult) : Nat :=
  r.findings.length

/-- Whether the tool did not run. -/
def isSkipped (r : ToolResult) : Bool :=
  r.skip.isSome

/-- Whether the version gate kept the tool from running. -/
def isVersionSkip (r : ToolResult) : Bool :=
  r.skip.any SkipReason.isVersionGate

end ToolResult

end Multilint
