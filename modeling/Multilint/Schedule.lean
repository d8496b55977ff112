import Multilint.Tool.Toolbox
/-!
# Schedules

The tools of a run, in the order of their rank. Of two tools that conflict only the one of higher rank
runs; a tool that does not run keeps no other one from running.
-/

namespace Multilint

/-- A tool that does not run, and the tool it conflicts with. -/
structure Dropped where
  /-- The tool. -/
  tool : Tool
  /-- The tool that runs instead. -/
  winner : Tool

/-- The tools that run and those that do not. -/
structure Schedule where
  /-- The tools that run, the highest rank first. -/
  ordered : List Tool := []
  /-- The tools that conflict with one of those. -/
  dropped : List Dropped := []

/-- The order of rank: a higher priority first, and of two equal ones the tool that was registered
first. -/
def Tool.before (t u : Tool) : Bool :=
  u.spec.priority < t.spec.priority || (t.spec.priority = u.spec.priority && t.rank ≤ u.rank)

namespace Schedule

/-- The tools that identities mean, each once, in the order of their first mention. -/
def resolve (box : Toolbox) (ids : List String) : Except Failure (List Tool) :=
  ids.foldlM
    (fun found id => do
      let t ← box.get id
      return if found.any (·.rank = t.rank) then found else found ++ [t])
    []

/-- The tools that are asked for; all of them where none is named. -/
def requested (box : Toolbox) (ids : List String) : Except Failure (List Tool) :=
  if ids.isEmpty then .ok box.tools else resolve box ids

/-- A schedule with one more tool, which must not be of higher rank than those it has. -/
def place (s : Schedule) (t : Tool) : Schedule :=
  match s.ordered.find? (·.conflictsWith t) with
  | some w => { s with dropped := s.dropped ++ [⟨t, w⟩] }
  | none => { s with ordered := s.ordered ++ [t] }

/-- The schedule of tools that are in the order of rank. -/
def ofRanked (ts : List Tool) : Schedule :=
  ts.foldl place {}

/-- The schedule of the tools asked for, with or without regard to conflicts. -/
def ofRequest (box : Toolbox) (ids : List String) (ignoreConflicts : Bool) :
    Except Failure Schedule := do
  let ranked := (← requested box ids).mergeSort Tool.before
  return if ignoreConflicts then { ordered := ranked } else ofRanked ranked

/-- The names of the tools that run. -/
def names (s : Schedule) : List String :=
  s.ordered.map Tool.name

end Schedule

end Multilint
