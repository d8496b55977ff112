import Multilint.Shell.Script
import Multilint.Shell.State
import Multilint.Shell.Token
/-!
# Redirections

A redirection lets a descriptor lead to a file, to where another one leads, or nowhere. Files that are written to
are made, and lose what they held unless something is put at their end.
-/

namespace Multilint

namespace Shell

/-- The handle of a target of a redirection, or a message. -/
def openOutput (direction : Direction) (target : String) : Run (Except String Handle) := do
  let s ← surroundings
  let handles ← ofProcess Process.handles
  match target with
  | "/dev/null" => return .ok .nowhere
  | "/dev/stdout" => return .ok ((handles.lookup 1).getD .nowhere)
  | "/dev/stderr" => return .ok ((handles.lookup 2).getD .nowhere)
  | _ =>
    match s.place? target with
    | none => return .error ("cannot create " ++ target ++ ": Directory nonexistent")
    | some names =>
      match s.tree.at? names with
      | some (.dir _) => return .error ("cannot create " ++ target ++ ": Is a directory")
      | some (.file _ executable) =>
        if direction = .output && (← hasOption 'C') then
          return .error ("cannot create " ++ target ++ ": File exists")
        if direction ≠ .append && direction ≠ .inOut then
          modify fun st =>
            { st with tree := FileTree.insert (.file ⟨#[]⟩ executable) names st.tree }
        return .ok (.file names)
      | _ =>
        modify fun st => { st with tree := FileTree.insert (.file ⟨#[]⟩ false) names st.tree }
        return .ok (.file names)

/-- The handle for the content of a file, or a message. -/
def openInput (target : String) : Run (Except String Handle) := do
  let s ← surroundings
  let handles ← ofProcess Process.handles
  match target with
  | "/dev/null" => return .ok .nowhere
  | "/dev/stdin" => return .ok ((handles.lookup 0).getD .nowhere)
  | _ =>
    match s.source (if target = "-" then "./-" else target) with
    | .ok f => return .ok (← newSource f)
    | .error "Is a directory" => return .ok (← newSource {})
    | .error _ => return .error ("cannot open " ++ target ++ ": No such file")

/-- Makes one redirection, given what its target comes to, and says whether that was possible. -/
def redirect (r : Redirection) (target : String) : Run Bool := do
  let follow (found : Except String Handle) : Run Bool := do
    match found with
    | .ok h =>
      lead r.descriptor (some h)
      return true
    | .error why =>
      complain why
      return false
  match r.direction with
  | .text =>
    lead r.descriptor (some (← newSource (.ofText target)))
    return true
  | .input => follow (← openInput target)
  | .inOut =>
    let h ← openOutput .inOut target
    if r.descriptor = 0 && h.toOption.isSome then follow (← openInput target) else follow h
  | .copy =>
    match target.toList with
    | ['-'] =>
      lead r.descriptor none
      return true
    | [d] =>
      if !d.isDigit then fail (ScriptFault.message ⟨0, .badDescriptor⟩)
      match (← ofProcess Process.handles).lookup (Numeral.digitValue d) with
      | some h => follow (.ok h)
      | none => follow (.error (target ++ ": Bad file descriptor"))
    | _ => fail (ScriptFault.message ⟨0, .badDescriptor⟩)
  | direction => follow (← openOutput direction target)

end Shell

end Multilint
