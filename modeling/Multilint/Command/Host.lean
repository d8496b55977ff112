import Multilint.Command.Basic
import Multilint.FileTree
/-!
# Hosts and sessions

A host answers calls and holds the files. Its answers may depend on everything that happened before, so
it carries a state of its own. A session is that state together with the calls that were made and their
outcomes, in order.
-/

namespace Multilint

/-- What a run is given to work with: answers to calls, a file tree, and the directory it works in. -/
structure Host (σ : Type) where
  /-- The outcome of a call, and the state after it. -/
  call : Call → σ → Outcome × σ
  /-- The files. -/
  tree : σ → FileTree
  /-- The directory of the run. -/
  dir : Path

/-- A call and its outcome. -/
structure Exchange where
  /-- The call. -/
  call : Call
  /-- Its outcome. -/
  outcome : Outcome
  deriving DecidableEq, Repr

/-- The state of a host and what has been exchanged with it. -/
structure Session (σ : Type) where
  /-- The state of the host. -/
  world : σ
  /-- The calls made so far and their outcomes. -/
  log : List Exchange := []

/-- A computation that makes calls. -/
abbrev Calling (σ : Type) := StateM (Session σ)

namespace Session

/-- The calls of a session. -/
def calls {σ : Type} (s : Session σ) : List Call :=
  s.log.map Exchange.call

end Session

namespace Host

variable {σ : Type}

/-- Makes a call. -/
def ask (h : Host σ) (c : Call) : Calling σ Outcome := fun s =>
  let (o, w) := h.call c s.world
  (o, { world := w, log := s.log ++ [⟨c, o⟩] })

/-- The files as they are now. -/
def files (h : Host σ) : Calling σ FileTree := fun s =>
  (h.tree s.world, s)

end Host

end Multilint
