import Multilint.Run.Report
import Multilint.Proofs.Schedule.Kernel
import Multilint.Proofs.Sequence
/-!
# The plan of a request

A request means some of the tools of a toolbox: those that its names resolve to, or, where it names none,
those that can do what is asked and are not left out. The plan divides them: the tools that cannot do what
is asked are set aside, each once (`Settles.mem_unfit_iff`), and the others are scheduled
(`Settles.schedule`).
-/

namespace Multilint

namespace Schedule

variable {asked : Tool → Prop} {ignoreConflicts : Bool} {s : Schedule} {box : Toolbox}
variable {ids : List String}

/-- **A schedule arranges the tools asked for**: as a kernel, or, without regard to conflicts, all of them in
the order of rank. -/
def Arranges (s : Schedule) (ignoreConflicts : Bool) (asked : Tool → Prop) : Prop :=
  match ignoreConflicts with
  | false => s.Kernel asked
  | true => s.dropped = [] ∧ s.ordered.Pairwise Tool.Outranks ∧ ∀ t, t ∈ s.ordered ↔ asked t

theorem Arranges.congr {asked' : Tool → Prop} (h : s.Arranges ignoreConflicts asked)
    (heq : ∀ t, asked t ↔ asked' t) : s.Arranges ignoreConflicts asked' := by
  have hasked : asked = asked' := funext fun t => propext (heq t)
  rwa [← hasked]

theorem Arranges.mem_iff (h : s.Arranges ignoreConflicts asked) (t : Tool) :
    t ∈ s.ordered ++ s.dropped.map Dropped.tool ↔ asked t := by
  cases ignoreConflicts with
  | false => exact Kernel.mem_iff h t
  | true =>
    obtain ⟨hdropped, -, hmem⟩ := h
    rw [hdropped, List.map_nil, List.append_nil, hmem]

theorem Arranges.nodup (h : s.Arranges ignoreConflicts asked) :
    (s.ordered ++ s.dropped.map Dropped.tool).Nodup := by
  cases ignoreConflicts with
  | false => exact Kernel.nodup h
  | true =>
    obtain ⟨hdropped, hordered, -⟩ := h
    rw [hdropped, List.map_nil, List.append_nil]
    exact hordered.imp fun hrank => hrank.ne

/-- **The schedule for some identities** arranges the tools they mean, also where there are none. -/
theorem arranges_of_ids (hbox : box.Built) (hids : ∀ id ∈ ids, box.contains id = true)
    (hs : (if ids.isEmpty then pure {} else ofRequest box ids ignoreConflicts) = Except.ok s) :
    s.Arranges ignoreConflicts fun t => t ∈ box.tools ∧ ∃ id ∈ ids, toolId t.name = toolId id := by
  cases hempty : ids with
  | nil =>
    rw [hempty] at hs
    obtain rfl : ({} : Schedule) = s := Except.ok.inj hs
    have hnone : ∀ t, t ∈ ([] : List Tool) ↔
        t ∈ box.tools ∧ ∃ id ∈ ([] : List String), toolId t.name = toolId id := by simp
    cases ignoreConflicts with
    | false => exact (kernel_ofRanked List.Pairwise.nil).congr hnone
    | true => exact ⟨rfl, .nil, hnone⟩
  | cons id ids' =>
    rw [hempty] at hs hids
    obtain ⟨ranked, hranked, hmem, hrequest⟩ := exists_ranked hbox hids
    have hmeans : ∀ t, t ∈ ranked ↔
        t ∈ box.tools ∧ ∃ i ∈ id :: ids', toolId t.name = toolId i := by
      intro t
      rw [hmem, Asked]
      simp
    have heq : ofRequest box (id :: ids') ignoreConflicts = Except.ok s := hs
    rw [hrequest] at heq
    cases ignoreConflicts with
    | false =>
      obtain rfl := Except.ok.inj heq
      exact (kernel_ofRanked hranked).congr hmeans
    | true =>
      obtain rfl := Except.ok.inj heq
      exact ⟨rfl, hranked, hmeans⟩

end Schedule

namespace Plan

variable {box : Toolbox} {req : Request} {plan : Plan} {t : Tool}

/-- **A tool is requested**: one of the names resolves to it, or there are no names and it is one of those
that can do what is asked and are not left out. -/
def Requested (box : Toolbox) (req : Request) (t : Tool) : Prop :=
  t ∈ box.tools ∧
    (req.tools = [] ∧ t.spec.supports req.action.isFix = true ∧
        (∀ id ∈ req.disabled, toolId id ≠ toolId t.name) ∨
      ∃ id ∈ req.tools, toolId t.name = toolId id)

/-- **A plan settles a request**: the tools that cannot do what is asked are set aside, and the others
arranged. -/
structure Settles (box : Toolbox) (req : Request) (plan : Plan) : Prop where
  /-- Those set aside are the requested ones that cannot do what is asked. -/
  mem_unfit_iff : ∀ t, t ∈ plan.unfit ↔
    Requested box req t ∧ t.spec.supports req.action.isFix = false
  /-- None is set aside twice. -/
  nodup_unfit : plan.unfit.Nodup
  /-- The others are arranged. -/
  schedule : plan.schedule.Arranges req.ignoreConflicts fun t =>
    Requested box req t ∧ t.spec.supports req.action.isFix = true

/-! ## Distinct tools -/

theorem distinct_eq_foldl (ts : List Tool) : distinct ts = ts.foldl (Tool.addNew Tool.name) [] :=
  rfl

/-- Of tools with names of their own, each is kept once, behind those that were kept before. -/
theorem foldl_addNew (hbox : box.Built) {ts seen : List Tool} (hts : ∀ t ∈ ts, t ∈ box.tools)
    (hseen : ∀ t ∈ seen, t ∈ box.tools) (hnodup : seen.Nodup) :
    (ts.foldl (Tool.addNew Tool.name) seen).Nodup ∧
      ∀ t, t ∈ ts.foldl (Tool.addNew Tool.name) seen ↔ t ∈ seen ∨ t ∈ ts := by
  induction ts generalizing seen with
  | nil => exact ⟨hnodup, by simp⟩
  | cons u ts ih =>
    have hu : u ∈ box.tools := hts u List.mem_cons_self
    have hts' : ∀ t ∈ ts, t ∈ box.tools := fun t ht => hts t (List.mem_cons_of_mem u ht)
    obtain ⟨hnodup', hmem'⟩ :=
      Tool.addNew_spec (fun t ht heq => hbox.eq_of_name (hseen t ht) hu heq) hnodup
    obtain ⟨hnodup'', hmem''⟩ := ih hts' (Tool.forall_mem_addNew hseen hu) hnodup'
    refine ⟨hnodup'', fun t => ?_⟩
    rw [List.foldl_cons, hmem'', hmem', List.mem_cons, or_assoc]

/-- **Distinct tools are the same tools, each once.** -/
theorem distinct_spec (hbox : box.Built) {ts : List Tool} (hts : ∀ t ∈ ts, t ∈ box.tools) :
    (distinct ts).Nodup ∧ ∀ t, t ∈ distinct ts ↔ t ∈ ts := by
  obtain ⟨hnodup, hmem⟩ :=
    foldl_addNew hbox hts (fun t ht => absurd ht List.not_mem_nil) List.nodup_nil
  rw [distinct_eq_foldl]
  exact ⟨hnodup, fun t => (hmem t).trans (by simp)⟩

/-! ## A request without names -/

/-- The tools a request without names means are those that can do what is asked and are not left out. -/
theorem mem_defaults_iff {id : String} : id ∈ defaults box req ↔
    ∃ t ∈ box.tools, (t.spec.supports req.action.isFix = true ∧
      ∀ d ∈ req.disabled, toolId d ≠ toolId t.name) ∧ t.name = id := by
  simp [defaults, and_assoc]

/-- **A request without names is settled** by the tools that can do what is asked. -/
theorem settles_of_defaults (hbox : box.Built) (hempty : req.tools = []) {s : Schedule}
    (hs : (if (defaults box req).isEmpty then pure {}
      else Schedule.ofRequest box (defaults box req) req.ignoreConflicts) = Except.ok s) :
    Settles box req ⟨[], s⟩ := by
  have hids : ∀ id ∈ defaults box req, box.contains id = true := by
    intro id hid
    obtain ⟨t, ht, -, rfl⟩ := mem_defaults_iff.1 hid
    exact Toolbox.contains_iff_get.2 ⟨t, hbox.get_eq_ok_iff.2 ⟨ht, rfl⟩⟩
  refine ⟨fun t => ?_, List.nodup_nil, (Schedule.arranges_of_ids hbox hids hs).congr fun t => ?_⟩
  · -- a tool that cannot do what is asked is not requested at all
    simp only [List.not_mem_nil, Requested, hempty, false_iff, not_and, Bool.not_eq_false]
    rintro ⟨-, ⟨-, hfit, -⟩ | ⟨id, hid, -⟩⟩
    · exact hfit
    · cases hid
  · constructor
    · rintro ⟨ht, id, hid, heq⟩
      obtain ⟨u, hu, hmeant, rfl⟩ := mem_defaults_iff.1 hid
      obtain rfl := hbox.eq_of_toolId ht hu heq
      exact ⟨⟨ht, Or.inl ⟨hempty, hmeant⟩⟩, hmeant.1⟩
    · rintro ⟨⟨ht, ⟨-, hmeant⟩ | ⟨id, hid, -⟩⟩, hfit⟩
      · exact ⟨ht, t.name, mem_defaults_iff.2 ⟨t, ht, hmeant, rfl⟩, rfl⟩
      · rw [hempty] at hid
        cases hid

/-! ## A request with names -/

/-- **Names that all resolve stand with the tools they mean**, and nothing else does. -/
theorem mem_named_iff (hbox : box.Built) {ids : List String} {es : List (String × Tool)}
    (hes : named box ids = .ok es) {id : String} :
    (id, t) ∈ es ↔ id ∈ ids ∧ t ∈ box.tools ∧ toolId t.name = toolId id := by
  have hall : List.Forall₂ (fun id e => ∃ t, box.get id = .ok t ∧ e = (id, t)) ids es := by
    rw [named, Sequence.mapM_eq_ok_iff] at hes
    refine hes.imp fun id e he => ?_
    obtain ⟨t, hget, hpair⟩ := Sequence.bind_eq_ok_iff.1 he
    exact ⟨t, hget, (Except.ok.inj hpair).symm⟩
  constructor
  · intro hmem
    obtain ⟨id', hid', t', hget, hpair⟩ := Sequence.exists_of_mem_right hall hmem
    obtain ⟨rfl, rfl⟩ := Prod.mk.inj hpair
    exact ⟨hid', hbox.get_eq_ok_iff.1 hget⟩
  · rintro ⟨hid, ht⟩
    obtain ⟨e, he, t', hget, rfl⟩ := Sequence.exists_of_mem_right hall.flip hid
    rw [hbox.get_eq_ok_iff.2 ht] at hget
    rw [Except.ok.inj hget]
    exact he

/-- **A request with names is settled** by the tools they resolve to. -/
theorem settles_of_named (hbox : box.Built) (hne : req.tools ≠ []) {es : List (String × Tool)}
    (hes : named box req.tools = .ok es) {s : Schedule}
    (hs : (if ((es.filter fun e => e.2.spec.supports req.action.isFix).map (·.1)).isEmpty
      then pure {}
      else Schedule.ofRequest box
        ((es.filter fun e => e.2.spec.supports req.action.isFix).map (·.1)) req.ignoreConflicts) =
        Except.ok s) :
    Settles box req
      ⟨distinct ((es.filter fun e => !e.2.spec.supports req.action.isFix).map (·.2)), s⟩ := by
  have hrequested : ∀ t, Requested box req t ↔ ∃ id, (id, t) ∈ es := by
    intro t
    constructor
    · rintro ⟨ht, ⟨hempty, -⟩ | ⟨id, hid, heq⟩⟩
      · exact absurd hempty hne
      · exact ⟨id, (mem_named_iff hbox hes).2 ⟨hid, ht, heq⟩⟩
    · rintro ⟨id, hmem⟩
      obtain ⟨hid, ht, heq⟩ := (mem_named_iff hbox hes).1 hmem
      exact ⟨ht, Or.inr ⟨id, hid, heq⟩⟩
  have hunfit : ∀ t ∈ (es.filter fun e => !e.2.spec.supports req.action.isFix).map (·.2),
      t ∈ box.tools := by
    intro t ht
    obtain ⟨⟨id, u⟩, he, rfl⟩ := List.mem_map.1 ht
    exact ((mem_named_iff hbox hes).1 (List.mem_filter.1 he).1).2.1
  obtain ⟨hnodup, hmem⟩ := distinct_spec hbox hunfit
  refine ⟨fun t => ?_, hnodup, (Schedule.arranges_of_ids hbox ?_ hs).congr fun t => ?_⟩
  · rw [hmem, hrequested]
    simp
  · intro id hid
    obtain ⟨⟨id', t⟩, he, rfl⟩ := List.mem_map.1 hid
    have hmeant := ((mem_named_iff hbox hes).1 (List.mem_filter.1 he).1).2
    exact Toolbox.contains_iff_get.2 ⟨t, hbox.get_eq_ok_iff.2 hmeant⟩
  · -- a name that stands with a tool that fits means no other tool
    rw [hrequested]
    constructor
    · rintro ⟨ht, id, hid, heq⟩
      obtain ⟨⟨id', u⟩, he, rfl⟩ := List.mem_map.1 hid
      obtain ⟨he, hfit⟩ := List.mem_filter.1 he
      obtain ⟨-, hu, hu_eq⟩ := (mem_named_iff hbox hes).1 he
      obtain rfl := hbox.eq_of_toolId ht hu (heq.trans hu_eq.symm)
      exact ⟨⟨id', he⟩, hfit⟩
    · rintro ⟨⟨id, he⟩, hfit⟩
      obtain ⟨-, ht, heq⟩ := (mem_named_iff hbox hes).1 he
      exact ⟨ht, id, List.mem_map.2 ⟨(id, t), List.mem_filter.2 ⟨he, hfit⟩, rfl⟩, heq⟩

/-- A plan is made of what is selected. -/
theorem exists_of_ofRequest (hplan : ofRequest box req = .ok plan) :
    ∃ ids, select box req = .ok (ids, plan.unfit) ∧
      (if ids.isEmpty then pure {} else Schedule.ofRequest box ids req.ignoreConflicts) =
        Except.ok plan.schedule := by
  obtain ⟨⟨ids, unfit⟩, hselect, hplan⟩ := Sequence.bind_eq_ok_iff.1 hplan
  refine ⟨ids, ?_⟩
  dsimp only at hplan
  split at hplan
  · rename_i hempty
    obtain rfl := Except.ok.inj hplan
    exact ⟨hselect, if_pos hempty⟩
  · rename_i hne
    obtain ⟨s, hs, hplan⟩ := Sequence.bind_eq_ok_iff.1 hplan
    obtain rfl := Except.ok.inj hplan
    exact ⟨hselect, (if_neg hne).trans hs⟩

/-- **What is selected makes a plan**, by the tools it asks for and their order of rank. -/
theorem ofRequest_of_select (ids : List String) (ranked : List Tool) {unfit ts : List Tool}
    (hselect : select box req = .ok (ids, unfit)) (hids : ids ≠ [])
    (hts : Schedule.requested box ids = .ok ts) (hperm : ts.Perm ranked)
    (hranked : ranked.Pairwise Tool.Outranks) :
    ofRequest box req = .ok ⟨unfit,
      if req.ignoreConflicts then { ordered := ranked } else Schedule.ofRanked ranked⟩ := by
  have hnonempty : ids.isEmpty = false := by simpa using hids
  rw [ofRequest, hselect]
  simp only [bind, Except.bind, hnonempty, Bool.false_eq_true, if_false,
    Schedule.ofRequest_of_ranked hts hperm hranked]
  rfl

/-- **Every plan settles its request.** -/
theorem settles_of_ofRequest (hbox : box.Built) (hplan : ofRequest box req = .ok plan) :
    Settles box req plan := by
  obtain ⟨ids, hselect, hs⟩ := exists_of_ofRequest hplan
  obtain ⟨unfit, s⟩ := plan
  rw [select] at hselect
  split at hselect
  · rename_i hempty
    obtain ⟨rfl, rfl⟩ := Prod.mk.inj (Except.ok.inj hselect)
    exact settles_of_defaults hbox (List.isEmpty_iff.1 hempty) hs
  · rename_i hne
    obtain ⟨es, hes, hselect⟩ := Sequence.bind_eq_ok_iff.1 hselect
    obtain ⟨rfl, rfl⟩ := Prod.mk.inj (Except.ok.inj hselect)
    exact settles_of_named hbox (fun h => hne (List.isEmpty_iff.2 h)) hes hs

end Plan

end Multilint
