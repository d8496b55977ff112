import Mathlib.Data.List.Forall2
/-!
# Steps taken in order

A list of steps that may fail succeeds exactly if each of them does, and its result is the list of
theirs. `InOrder` is a run of steps that leave a trace: the trace of the run is the traces of its steps,
one behind the other. `Threaded` is such a run through the states of something that the steps change.
-/

namespace Multilint

namespace Sequence

variable {α β ε : Type}

/-- A step and what follows succeed together. -/
theorem bind_eq_ok_iff {e : Except ε α} {k : α → Except ε β} {b : β} :
    (e >>= k) = .ok b ↔ ∃ a, e = .ok a ∧ k a = .ok b := by
  cases e with
  | error f => simp [bind, Except.bind]
  | ok a => simp [bind, Except.bind]

/-- A step and what follows fail together where one of them does. -/
theorem bind_eq_error_iff {e : Except ε α} {k : α → Except ε β} {f : ε} :
    (e >>= k) = .error f ↔ e = .error f ∨ ∃ a, e = .ok a ∧ k a = .error f := by
  cases e with
  | error f => simp [bind, Except.bind]
  | ok a => simp [bind, Except.bind]

/-- What is read off a step that gave something is read off what it gave. -/
theorem exists_ok_of_map {e : Except ε α} {g : α → β} {b : β} (h : e.toOption.map g = some b) :
    ∃ a, e = .ok a ∧ g a = b := by
  cases e with
  | error f => cases h
  | ok a => exact ⟨a, rfl, Option.some.inj h⟩

/-- **A list of steps** succeeds step by step. -/
theorem mapM_eq_ok_iff {f : α → Except ε β} {as : List α} {bs : List β} :
    as.mapM f = .ok bs ↔ List.Forall₂ (fun a b => f a = .ok b) as bs := by
  induction as generalizing bs with
  | nil => simp [pure, Except.pure, eq_comm]
  | cons a as ih =>
    rw [List.mapM_cons, List.forall₂_cons_left_iff]
    cases ha : f a with
    | error e => simp [bind, Except.bind]
    | ok b =>
      cases has : as.mapM f with
      | error e =>
        have hnone : ∀ cs, ¬ List.Forall₂ (fun a b => f a = .ok b) as cs := by
          intro cs hcs
          rw [ih.2 hcs] at has
          cases has
        simp [bind, Except.bind, hnone]
      | ok cs =>
        have hcs : ∀ ds, List.Forall₂ (fun a b => f a = .ok b) as ds ↔ cs = ds := by
          intro ds
          rw [← ih, has, Except.ok.injEq]
        simp [bind, Except.bind, pure, Except.pure, hcs, eq_comm]

/-- A list of readings that may be missing is there if each of them is. -/
theorem mapM_eq_some_iff {f : α → Option β} {as : List α} {bs : List β} :
    as.mapM f = some bs ↔ List.Forall₂ (fun a b => f a = some b) as bs := by
  induction as generalizing bs with
  | nil => simp [eq_comm]
  | cons a as ih =>
    rw [List.mapM_cons, List.forall₂_cons_left_iff]
    simp only [Option.bind_eq_bind, Option.bind_eq_some_iff, ih, Option.pure_def, Option.some.injEq]
    constructor
    · rintro ⟨b, hab, bs', has, rfl⟩
      exact ⟨b, bs', hab, has, rfl⟩
    · rintro ⟨b, bs', hab, has, rfl⟩
      exact ⟨b, hab, bs', has, rfl⟩

/-- **The first step that fails** fails with a cause: those before it give something. -/
def FirstFails (f : α → Except ε β) (as : List α) (e : ε) : Prop :=
  ∃ before a after, as = before ++ a :: after ∧ (∀ b ∈ before, ∃ c, f b = .ok c) ∧ f a = .error e

theorem not_firstFails_nil {f : α → Except ε β} {e : ε} : ¬ FirstFails f [] e := by
  rintro ⟨before, a, after, h, -⟩
  simp at h

theorem firstFails_cons_iff {f : α → Except ε β} {a : α} {as : List α} {e : ε} :
    FirstFails f (a :: as) e ↔ f a = .error e ∨ (∃ c, f a = .ok c) ∧ FirstFails f as e := by
  constructor
  · rintro ⟨before, b, after, heq, hbefore, hb⟩
    cases before with
    | nil =>
      obtain ⟨rfl, rfl⟩ := List.cons.inj heq
      exact Or.inl hb
    | cons c before =>
      obtain ⟨rfl, rfl⟩ := List.cons.inj heq
      rw [List.forall_mem_cons] at hbefore
      exact Or.inr ⟨hbefore.1, before, b, after, rfl, hbefore.2, hb⟩
  · rintro (ha | ⟨hok, before, b, after, rfl, hbefore, hb⟩)
    · exact ⟨[], a, as, rfl, by simp, ha⟩
    · exact ⟨a :: before, b, after, rfl, List.forall_mem_cons.2 ⟨hok, hbefore⟩, hb⟩

/-- Where some step fails there is a first one that does. -/
theorem exists_firstFails {f : α → Except ε β} {as : List α} {a : α} {e : ε} (ha : a ∈ as)
    (hfails : f a = .error e) : ∃ e', FirstFails f as e' := by
  induction as with
  | nil => cases ha
  | cons b as ih =>
    cases hb : f b with
    | error e' => exact ⟨e', firstFails_cons_iff.2 (Or.inl hb)⟩
    | ok c =>
      have hne : a ≠ b := by
        rintro rfl
        rw [hb] at hfails
        cases hfails
      obtain ⟨e', hfirst⟩ := ih (List.mem_of_ne_of_mem hne ha)
      exact ⟨e', firstFails_cons_iff.2 (Or.inr ⟨⟨c, hb⟩, hfirst⟩)⟩

/-- **A list of steps fails** with its first step that does. -/
theorem mapM_eq_error_iff {f : α → Except ε β} {as : List α} {e : ε} :
    as.mapM f = .error e ↔ FirstFails f as e := by
  induction as with
  | nil => simp [not_firstFails_nil, pure, Except.pure]
  | cons a as ih =>
    rw [List.mapM_cons, firstFails_cons_iff, ← ih]
    cases ha : f a with
    | error e' => simp [bind, Except.bind]
    | ok b => cases has : as.mapM f <;> simp [bind, Except.bind, pure, Except.pure]

/-- The same where the steps give nothing but leave to go on. -/
theorem forM_eq_error_iff {f : α → Except ε β} {as : List α} {e : ε} :
    (as.forM fun a => (f a).map fun _ => ()) = .error e ↔ FirstFails f as e := by
  induction as with
  | nil => simp [not_firstFails_nil, pure, Except.pure]
  | cons a as ih =>
    rw [List.forM_eq_forM, List.forM_cons, firstFails_cons_iff, ← ih]
    cases ha : f a <;> simp [bind, Except.bind, Except.map]

theorem forM_eq_ok_iff {f : α → Except ε β} {as : List α} :
    (as.forM fun a => (f a).map fun _ => ()) = .ok () ↔ ∀ a ∈ as, ∃ b, f a = .ok b := by
  induction as with
  | nil => simp [pure, Except.pure]
  | cons a as ih =>
    rw [List.forM_eq_forM, List.forM_cons, List.forall_mem_cons, ← ih]
    cases ha : f a <;> simp [bind, Except.bind, Except.map]

theorem exists_of_mem_right {R : α → β → Prop} {as : List α} {bs : List β} {b : β}
    (h : List.Forall₂ R as bs) (hb : b ∈ bs) : ∃ a ∈ as, R a b := by
  induction h with
  | nil => cases hb
  | @cons a c as bs hab _ ih =>
    rcases List.mem_cons.1 hb with rfl | hb
    · exact ⟨a, by simp, hab⟩
    · obtain ⟨a', ha', hab'⟩ := ih hb
      exact ⟨a', List.mem_cons_of_mem a ha', hab'⟩

/-- What a list of steps gave came from one of them. -/
theorem exists_of_mem_mapM {f : α → Except ε β} {as : List α} {bs : List β} {b : β}
    (h : as.mapM f = .ok bs) (hb : b ∈ bs) : ∃ a ∈ as, f a = .ok b := by
  have hall : List.Forall₂ (fun a b => f a = .ok b) as bs := mapM_eq_ok_iff.1 h
  obtain ⟨a, ha, hab⟩ := exists_of_mem_right hall hb
  exact ⟨a, ha, hab⟩

/-- What is made of something that is found for each of a list is made of a list. -/
theorem exists_map_of_forall₂ {γ : Type} {R : α → γ → Prop} {g : γ → β} {as : List α} {bs : List β}
    (h : List.Forall₂ (fun a b => ∃ c, R a c ∧ b = g c) as bs) :
    ∃ cs, List.Forall₂ R as cs ∧ bs = cs.map g := by
  induction h with
  | nil => exact ⟨[], .nil, rfl⟩
  | cons hstep _ ih =>
    obtain ⟨c, hc, rfl⟩ := hstep
    obtain ⟨cs, hcs, rfl⟩ := ih
    exact ⟨c :: cs, .cons hc hcs, rfl⟩

/-- **A change in one place** of what is paired with a list changes the results in that place alone,
where each pair has one result. -/
theorem eq_set_of_forall₂_zip {γ : Type} {R : α → β → γ → Prop}
    (hR : ∀ a b c c', R a b c → R a b c' → c = c') {as : List α} {bs : List β} {cs cs' : List γ}
    {i : ℕ} {a : α} {b' : β} (hlen : bs.length = as.length) (ha : as[i]? = some a)
    (h : List.Forall₂ (fun p c => R p.1 p.2 c) (as.zip bs) cs)
    (h' : List.Forall₂ (fun p c => R p.1 p.2 c) (as.zip (bs.set i b')) cs') :
    ∃ c', R a b' c' ∧ cs' = cs.set i c' := by
  induction as generalizing bs cs cs' i with
  | nil => cases ha
  | cons d as ih =>
    match bs, hlen with
    | b :: bs, hlen =>
      rw [List.zip_cons_cons] at h
      cases h with
      | @cons _ c _ cs hc h =>
        -- the change is in the first place, or in one of the others
        cases i with
        | zero =>
          obtain rfl : d = a := by simpa using ha
          rw [List.set_cons_zero, List.zip_cons_cons] at h'
          cases h' with
          | @cons _ c' _ cs' hc' h' =>
            have hunique : Relator.RightUnique fun (p : α × β) c => R p.1 p.2 c :=
              fun p _ _ hc hc' => hR p.1 p.2 _ _ hc hc'
            exact ⟨c', hc', by rw [List.set_cons_zero, List.right_unique_forall₂' hunique h h']⟩
        | succ i =>
          rw [List.set_cons_succ, List.zip_cons_cons] at h'
          cases h' with
          | @cons _ c'' _ cs' hc'' h' =>
            obtain ⟨c', hc', rfl⟩ := ih (by simpa using hlen) (by simpa using ha) h h'
            exact ⟨c', hc', by rw [List.set_cons_succ, hR _ _ _ _ hc hc'']⟩

/-! ## Runs with a trace -/

/-- **A run of steps**: each step leaves a part of the trace and gives a result. -/
inductive InOrder {τ : Type} (R : α → List τ → β → Prop) : List α → List τ → List β → Prop
  /-- No step leaves no trace. -/
  | nil : InOrder R [] [] []
  /-- The first step comes before the others. -/
  | cons {a : α} {x : List τ} {b : β} {as : List α} {y : List τ} {bs : List β} :
      R a x b → InOrder R as y bs → InOrder R (a :: as) (x ++ y) (b :: bs)

/-- A trace that each step leaves in another form is left in that form by the run. -/
theorem InOrder.exists_map {τ τ' : Type} {f : τ' → τ} {R : α → List τ' → β → Prop} {as : List α}
    {x : List τ} {bs : List β} (h : InOrder (fun a x b => ∃ y, x = y.map f ∧ R a y b) as x bs) :
    ∃ y, x = y.map f ∧ InOrder R as y bs := by
  induction h with
  | nil => exact ⟨[], rfl, .nil⟩
  | cons hstep _ ih =>
    obtain ⟨y, rfl, hy⟩ := hstep
    obtain ⟨z, rfl, hz⟩ := ih
    exact ⟨y ++ z, List.map_append.symm, .cons hy hz⟩

/-- Each step of a run gives its result. -/
theorem InOrder.forall₂ {τ : Type} {R : α → List τ → β → Prop} {as : List α} {x : List τ}
    {bs : List β} (h : InOrder R as x bs) : List.Forall₂ (fun a b => ∃ y, R a y b) as bs := by
  induction h with
  | nil => exact .nil
  | cons hstep _ ih => exact .cons ⟨_, hstep⟩ ih

/-- Every part of the trace of a run was left by one of its steps. -/
theorem InOrder.exists_of_mem {τ : Type} {R : α → List τ → β → Prop} {as : List α} {x : List τ}
    {bs : List β} (h : InOrder R as x bs) {e : τ} (he : e ∈ x) :
    ∃ a ∈ as, ∃ y, ∃ b ∈ bs, R a y b ∧ e ∈ y := by
  induction h with
  | nil => cases he
  | @cons a y b as z bs hstep _ ih =>
    rcases List.mem_append.1 he with he | he
    · exact ⟨a, List.mem_cons_self, y, b, List.mem_cons_self, hstep, he⟩
    · obtain ⟨a', ha', y', b', hb', hstep', he'⟩ := ih he
      exact ⟨a', List.mem_cons_of_mem a ha', y', b', List.mem_cons_of_mem b hb', hstep', he'⟩

/-- **A run of steps through states**: each step starts in the state the one before it left behind. -/
inductive Threaded {κ τ : Type} (R : α → κ → List τ → κ → β → Prop) :
    List α → κ → List τ → κ → List β → Prop
  /-- No step changes nothing. -/
  | nil {w : κ} : Threaded R [] w [] w []
  /-- The first step comes before the others. -/
  | cons {a : α} {w w' w'' : κ} {x : List τ} {b : β} {as : List α} {y : List τ} {bs : List β} :
      R a w x w' b → Threaded R as w' y w'' bs → Threaded R (a :: as) w (x ++ y) w'' (b :: bs)

/-- Every part of the trace of a run through states was left by one of its steps. -/
theorem Threaded.exists_of_mem {κ τ : Type} {R : α → κ → List τ → κ → β → Prop} {as : List α}
    {w w' : κ} {x : List τ} {bs : List β} (h : Threaded R as w x w' bs) {e : τ} (he : e ∈ x) :
    ∃ a ∈ as, ∃ v y v', ∃ b ∈ bs, R a v y v' b ∧ e ∈ y := by
  induction h with
  | nil => cases he
  | @cons a v v' v'' y b as z bs hstep _ ih =>
    rcases List.mem_append.1 he with he | he
    · exact ⟨a, List.mem_cons_self, v, y, v', b, List.mem_cons_self, hstep, he⟩
    · obtain ⟨a', ha', u, y', u', b', hb', hstep', he'⟩ := ih he
      exact ⟨a', List.mem_cons_of_mem a ha', u, y', u', b', List.mem_cons_of_mem b hb', hstep', he'⟩

/-- Each step of a run through states gives its result. -/
theorem Threaded.forall₂ {κ τ : Type} {R : α → κ → List τ → κ → β → Prop} {as : List α}
    {w w' : κ} {x : List τ} {bs : List β} (h : Threaded R as w x w' bs) :
    List.Forall₂ (fun a b => ∃ v y v', R a v y v' b) as bs := by
  induction h with
  | nil => exact .nil
  | cons hstep _ ih => exact .cons ⟨_, _, _, hstep⟩ ih

end Sequence

end Multilint
