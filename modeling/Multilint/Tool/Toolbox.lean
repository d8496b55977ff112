import Multilint.Tool.Basic
/-!
# Toolboxes

A toolbox holds tools in the order of their registration. No two of its tools have the same identity,
and a tool is found by any spelling of its name.
-/

namespace Multilint

/-- A collection of tools, in the order of registration. -/
structure Toolbox where
  /-- The tools. -/
  tools : List Tool

namespace Toolbox

/-- The toolbox without tools. -/
def empty : Toolbox := ⟨[]⟩

/-- The tool that a spelling of its name means. -/
def find? (b : Toolbox) (id : String) : Option Tool :=
  b.tools.find? fun t => toolId t.name = toolId id

/-- The tool that a spelling of its name means, or the failure that there is none. -/
def get (b : Toolbox) (id : String) : Except Failure Tool :=
  match b.find? id with
  | some t => .ok t
  | none => .error (.unknownTool id)

/-- Whether a tool of the name is there. -/
def contains (b : Toolbox) (id : String) : Bool :=
  (b.find? id).isSome

/-- The toolbox with one more tool, whose name must be new. -/
def register (b : Toolbox) (spec : ToolSpec) (adapter : ToolAdapter) : Except Failure Toolbox :=
  if b.contains spec.name then .error (.duplicateTool spec.name)
  else .ok ⟨b.tools ++ [⟨spec, adapter, b.tools.length⟩]⟩

/-- The number of tools. -/
def size (b : Toolbox) : Nat :=
  b.tools.length

end Toolbox

end Multilint
