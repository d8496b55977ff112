import Multilint.Regex.Meaning
import Multilint.Regex.Program
import Multilint.Regex.Reader
import Multilint.Regex.Size
/-!
# Searching

`Regex.find?` gives a group of the first match of a text: the one that starts leftmost, and of those the
one that comes first when alternatives are tried in their order and repetitions by their preference. All
ways to match go through the text side by side, in the order of preference, and of two that meet at a place
of the program the less preferred one is given up. So the time is that of the text times the program.
-/

namespace Multilint

namespace Regex

/-- A way to match: a place in the program, and what has been noted of the group. -/
structure Way where
  /-- The place in the program. -/
  place : Nat
  /-- Where the group has started. -/
  start : Option Nat := none
  /-- Where it started and ended. -/
  taken : Option (Nat × Nat) := none
  deriving Repr

/-- The ways at one place in the text. -/
structure Ways where
  /-- For each place in the program one more than the last place in the text where a way was there. -/
  seen : Array Nat
  /-- The ways that take a character or end here, the least preferred first. -/
  ready : List Way := []

/-- Follows ways to where they take a character or end. `stack` has the ways that are left to follow, the
most preferred first. The fuel bounds the number of ways: each place in the program is left once. -/
def follow (steps : Steps) (index : Nat) (before after : Option Char) :
    Nat → List Way → Ways → Ways
  | 0, _, ws => ws
  | _, [], ws => ws
  | fuel + 1, w :: stack, ws =>
    if ws.seen[w.place]? == some (index + 1) then follow steps index before after fuel stack ws
    else
      let ws := { ws with seen := ws.seen.setIfInBounds w.place (index + 1) }
      let go := follow steps index before after fuel
      match steps[w.place]? with
      | none => go stack ws
      | some (.letter _ _) | some (.one _ _) | some .done => go stack { ws with ready := w :: ws.ready }
      | some (.anchor a next) =>
        go (if a.holds before after then { w with place := next } :: stack else stack) ws
      | some (.start next) => go ({ w with place := next, start := some index } :: stack) ws
      | some (.stop next) =>
        go ({ w with place := next, taken := w.start.map (·, index) } :: stack) ws
      | some (.fork first second) =>
        go ({ w with place := first } :: { w with place := second } :: stack) ws

/-- The place in the program behind a character, if it is taken. -/
def Step.take? (c : Char) : Step → Option Nat
  | .letter d next => if c = d then some next else none
  | .one s next => if s.has c then some next else none
  | _ => none

/-- The ways behind a character, and the match that ends in front of it, if there is one. Ways that are less
preferred than a match are given up. -/
def advance (steps : Steps) (c : Option Char) (followed : Way → Ways → Ways) :
    List Way → Ways → Ways × Option Way
  | [], ws => (ws, none)
  | w :: rest, ws =>
    match steps[w.place]? with
    | some .done => (ws, some w)
    | some s =>
      match c.bind s.take? with
      | some next => advance steps c followed rest (followed { w with place := next } ws)
      | none => advance steps c followed rest ws
    | none => advance steps c followed rest ws

/-- The best match that is found from a place in the text on. `found` is the best one so far. As long as there
is none, a way starts at each place, after all others. -/
def search (p : Program) : Nat → Option Char → List Char → Ways → Option Way → Option Way
  | index, before, text, ws, found =>
    let fuel := 2 * p.steps.size + 1
    let ws :=
      if found.isSome then ws
      else follow p.steps index before text.head? fuel [⟨p.start, none, none⟩] ws
    match text with
    | [] => (advance p.steps none (fun _ ws => ws) ws.ready.reverse { ws with ready := [] }).2.or found
    | c :: cs =>
      let behind (w : Way) (ws : Ways) : Ways :=
        follow p.steps (index + 1) (some c) cs.head? fuel [w] ws
      let (next, best) :=
        advance p.steps (some c) behind ws.ready.reverse { ws with ready := [] }
      let found := best.or found
      if next.ready.isEmpty && found.isSome then found
      else search p (index + 1) (some c) cs next found

/-- What the first match in a text leaves in a group: nothing if there is no match, or if the group took
no part in it. -/
def find? (r : Regex) (index : Nat) (text : String) : Option String := do
  let p := r.program index
  let cs := text.toList
  let w ← search p 0 none cs ⟨Array.replicate p.steps.size 0, []⟩ none
  let (start, stop) ← w.taken
  return String.ofList ((cs.drop start).take (stop - start))

/-- The expression a text writes, unless it is refused. -/
def ofText? (s : String) : Option Regex := do
  let w ← Written.ofText? s
  let (r, _) ← w.meaning?.run {}
  if r.fits then some r else none

end Regex

end Multilint
