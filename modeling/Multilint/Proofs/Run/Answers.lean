import Multilint.Proofs.Run.Dialogue
/-!
# What a host answers

A host goes from state to state as it answers calls, and its files are those of the state it is in.
`Host.Answers` is a path through those states. A dialogue changes a session along such a path and in no
other way, so that the log says which state the host is in at any time (`Dialogue.answers`). A computation
that may fail goes on where its first step gave something (`bind_eq_ok_iff`).
-/

namespace Multilint

variable {σ α β γ : Type}

/-- **A host answers calls in turn**, from one state to another. -/
inductive Host.Answers (h : Host σ) : σ → List Exchange → σ → Prop
  /-- Without a call it stays where it is. -/
  | nil {w : σ} : Answers h w [] w
  /-- The first call is answered first. -/
  | cons {c : Call} {w w' : σ} {x : List Exchange} : Answers h (h.call c w).2 x w' →
      Answers h w (⟨c, (h.call c w).1⟩ :: x) w'

namespace Host.Answers

variable {h : Host σ} {w w' w'' : σ} {x y : List Exchange}

/-- Paths are put end to end. -/
theorem append (hx : h.Answers w x w') (hy : h.Answers w' y w'') : h.Answers w (x ++ y) w'' := by
  induction hx with
  | nil => exact hy
  | cons _ ih => exact .cons (ih hy)

end Host.Answers

/-- **A dialogue takes the host along a path**: what it adds to the log are calls the host answers, from the
state it was in to the one it is in afterwards. -/
theorem Dialogue.answers {h : Host σ} {P : Call → Prop} {m : Calling σ α} (hm : Dialogue h P m)
    (s : Session σ) :
    ∃ x, (m s).2.log = s.log ++ x ∧ h.Answers s.world x (m s).2.world := by
  induction hm generalizing s with
  | pure a => exact ⟨[], (List.append_nil s.log).symm, .nil⟩
  | ask _ => exact ⟨_, rfl, .cons .nil⟩
  | files => exact ⟨[], (List.append_nil s.log).symm, .nil⟩
  | @bind α β m k _ _ ihm ihk =>
    obtain ⟨x, hlog, hx⟩ := ihm s
    obtain ⟨y, hlog', hy⟩ := ihk (m s).1 (m s).2
    exact ⟨x ++ y, by rw [← List.append_assoc, ← hlog, ← hlog']; rfl, hx.append hy⟩

/-! ## Computations that may fail -/

/-- **A computation that may fail gives something** exactly if its first step does, and the rest goes on
from there. -/
theorem bind_eq_ok_iff {m : ExceptT Failure (Calling σ) α} {k : α → ExceptT Failure (Calling σ) β}
    {s s' : Session σ} {b : β} :
    (m >>= k) s = (.ok b, s') ↔ ∃ a s₁, m s = (.ok a, s₁) ∧ k a s₁ = (.ok b, s') := by
  have hbind : (m >>= k) s = ExceptT.bindCont k (m s).1 (m s).2 := rfl
  rw [hbind]
  rcases m s with ⟨e | a, s₁⟩
  · have herror : ExceptT.bindCont k (.error e) s₁ = (.error e, s₁) := rfl
    rw [herror]
    constructor
    · intro h
      cases h
    · rintro ⟨a, s₂, h, -⟩
      cases h
  · have hok : ExceptT.bindCont k (.ok a) s₁ = k a s₁ := rfl
    rw [hok]
    constructor
    · exact fun h => ⟨a, s₁, rfl, h⟩
    · rintro ⟨a', s₂, h, h'⟩
      cases h
      exact h'

theorem pure_eq_ok_iff {a b : α} {s s' : Session σ} :
    (pure a : ExceptT Failure (Calling σ) α) s = (.ok b, s') ↔ a = b ∧ s = s' := by
  constructor
  · intro h
    obtain ⟨hok, hs⟩ := Prod.mk.inj h
    exact ⟨Except.ok.inj hok, hs⟩
  · rintro ⟨rfl, rfl⟩
    rfl

/-- What does not call leaves the session as it is. -/
theorem liftM_except_eq_ok_iff {e : Except Failure α} {a : α} {s s' : Session σ} :
    (liftM e : ExceptT Failure (Calling σ) α) s = (.ok a, s') ↔ e = .ok a ∧ s = s' := by
  constructor
  · exact fun h => Prod.mk.inj h
  · rintro ⟨rfl, rfl⟩
    rfl

/-- What calls does not fail. -/
theorem liftM_calling_eq_ok_iff {m : Calling σ α} {a : α} {s s' : Session σ} :
    (liftM m : ExceptT Failure (Calling σ) α) s = (.ok a, s') ↔ m s = (a, s') := by
  constructor
  · intro h
    obtain ⟨hok, hs⟩ := Prod.mk.inj h
    exact Prod.ext (Except.ok.inj hok) hs
  · intro h
    have hlift : (liftM m : ExceptT Failure (Calling σ) α) s = (.ok (m s).1, (m s).2) := rfl
    rw [hlift, h]

/-- **Computations one after another** give something exactly if each of them does, from where the one
before it ended. -/
theorem mapM_cons_eq_ok_iff {f : α → ExceptT Failure (Calling σ) β} {a : α} {as : List α}
    {s s' : Session σ} {bs : List β} :
    (a :: as).mapM f s = (.ok bs, s') ↔
      ∃ b s₁ bs', f a s = (.ok b, s₁) ∧ as.mapM f s₁ = (.ok bs', s') ∧ bs = b :: bs' := by
  rw [List.mapM_cons, bind_eq_ok_iff]
  constructor
  · rintro ⟨b, s₁, hb, hrest⟩
    obtain ⟨bs', s₂, hbs', hpure⟩ := bind_eq_ok_iff.1 hrest
    obtain ⟨rfl, rfl⟩ := pure_eq_ok_iff.1 hpure
    exact ⟨b, s₁, bs', hb, hbs', rfl⟩
  · rintro ⟨b, s₁, bs', hb, hbs', rfl⟩
    exact ⟨b, s₁, hb, bind_eq_ok_iff.2 ⟨bs', s', hbs', pure_eq_ok_iff.2 ⟨rfl, rfl⟩⟩⟩

/-! ## Computations that fail -/

variable {m : ExceptT Failure (Calling σ) α} {k : α → ExceptT Failure (Calling σ) β} {f : Failure}
variable {s s' : Session σ}

/-- **A computation fails** exactly if its first step does, or the rest does from where that step ended. -/
theorem bind_eq_error_iff : (m >>= k) s = (.error f, s') ↔
    m s = (.error f, s') ∨ ∃ a s₁, m s = (.ok a, s₁) ∧ k a s₁ = (.error f, s') := by
  have hbind : (m >>= k) s = ExceptT.bindCont k (m s).1 (m s).2 := rfl
  rw [hbind]
  rcases m s with ⟨e | a, s₁⟩
  · have herror : ExceptT.bindCont k (.error e) s₁ = (.error e, s₁) := rfl
    rw [herror]
    constructor
    · intro h
      cases h
      exact Or.inl rfl
    · rintro (h | ⟨a, s₂, h, -⟩)
      · cases h
        rfl
      · cases h
  · have hok : ExceptT.bindCont k (.ok a) s₁ = k a s₁ := rfl
    rw [hok]
    constructor
    · exact fun h => Or.inr ⟨a, s₁, rfl, h⟩
    · rintro (h | ⟨a', s₂, h, h'⟩)
      · cases h
      · cases h
        exact h'

/-- What does not call fails in the session it starts in. -/
theorem liftM_except_eq_error_iff {e : Except Failure α} :
    (liftM e : ExceptT Failure (Calling σ) α) s = (.error f, s') ↔ e = .error f ∧ s = s' := by
  constructor
  · exact fun h => Prod.mk.inj h
  · rintro ⟨rfl, rfl⟩
    rfl

theorem liftM_calling_ne_error {c : Calling σ α} :
    (liftM c : ExceptT Failure (Calling σ) α) s ≠ (.error f, s') := by
  intro h
  cases (Prod.mk.inj h).1

theorem pure_ne_error {a : α} : (pure a : ExceptT Failure (Calling σ) α) s ≠ (.error f, s') := by
  intro h
  cases (Prod.mk.inj h).1

/-- **Of computations one after another** the first one that fails ends them all. -/
theorem mapM_eq_error_iff {g : α → ExceptT Failure (Calling σ) β} {as : List α} :
    as.mapM g s = (.error f, s') ↔ ∃ before a after s₁ bs, as = before ++ a :: after ∧
      before.mapM g s = (.ok bs, s₁) ∧ g a s₁ = (.error f, s') := by
  induction as generalizing s with
  | nil =>
    rw [List.mapM_nil]
    constructor
    · exact fun h => absurd h pure_ne_error
    · rintro ⟨before, a, after, -, -, h, -⟩
      simp at h
  | cons a as ih =>
    rw [List.mapM_cons, bind_eq_error_iff]
    constructor
    · rintro (ha | ⟨b, s₁, hb, hrest⟩)
      · exact ⟨[], a, as, s, [], rfl, rfl, ha⟩
      · rcases bind_eq_error_iff.1 hrest with has | ⟨bs, s₂, -, hpure⟩
        · obtain ⟨before, c, after, s₂, bs, rfl, hbefore, hc⟩ := ih.1 has
          exact ⟨a :: before, c, after, s₂, b :: bs, rfl,
            mapM_cons_eq_ok_iff.2 ⟨b, s₁, bs, hb, hbefore, rfl⟩, hc⟩
        · exact absurd hpure pure_ne_error
    · rintro ⟨before, c, after, s₂, bs, heq, hbefore, hc⟩
      cases before with
      | nil =>
        obtain ⟨rfl, rfl⟩ := List.cons.inj heq
        obtain ⟨-, rfl⟩ := pure_eq_ok_iff.1 hbefore
        exact Or.inl hc
      | cons d before =>
        obtain ⟨rfl, rfl⟩ := List.cons.inj heq
        obtain ⟨b, s₁, bs', hb, hbefore, -⟩ := mapM_cons_eq_ok_iff.1 hbefore
        exact Or.inr ⟨b, s₁, hb,
          bind_eq_error_iff.2 (Or.inl (ih.2 ⟨before, c, after, s₂, bs', rfl, hbefore, hc⟩))⟩

end Multilint
